import Courier.Daemon.CommandLine
import Courier.Text.Quoted

/-!
# Sessions

A session of the daemon, from its start to the interrupt that ends it.
-/

namespace Courier.Daemon

/-- What the daemon logs. -/
inductive Entry
  | starting
  | host (notice : Notice)
  | interrupted
  | stopped
deriving DecidableEq, Repr

def Entry.message : Entry → String
  | starting => "ferryd starting"
  | host notice => notice.message
  | interrupted => "shutdown signal received"
  | stopped => "ferryd stopped"

/-- What is logged beside the entry that a session starts with: where the settings came from, if from a
file, and where the daemon is to listen. -/
def Options.origin (options : Options) (settings : Settings) : String :=
  let config := options.config.map fun path => "config=" ++ Text.quoted path
  " ".intercalate (config.toList ++ ["listen=" ++ toString settings.listen])

/-- The acceptor of a server that has just bound its address, with a stop signal that is not set. -/
def accepting (κ : Type) : Acceptor κ := { stop := {} }

/-- The log of a session in which an acceptor is interrupted after some moves. -/
def log {κ : Type} (a : Acceptor κ) (moves : List (Acceptor.Move κ)) : List Entry :=
  let before := a.run moves
  let after := before.run [.set true, .stop]
  .starting :: before.notices.map .host ++ .interrupted ::
    (after.notices.drop before.notices.length).map .host ++ [.stopped]

end Courier.Daemon
