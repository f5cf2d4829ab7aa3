import Courier.Address.Printer
import Courier.Context
import Courier.Host.Notice
import Courier.Message.Response
import Courier.Settings

/-!
# Accepting connections

An acceptor hands every connection that arrives to a task of its own, until it hears of its stop
signal. It listens for a change of the signal and does not look at its value: it stops when the
signal is set, to whatever value, and when nobody is left to set it. What the signal is at the start
is no change.
-/

namespace Courier

/-- A service with the settings that it is hosted with. -/
structure Server where
  settings : Settings := {}
  service : Service

/-- What can keep a server from serving. -/
inductive ServerFailure
  /-- The address cannot be bound. -/
  | bind (address : SocketAddress) (fault : Fault)
  /-- The listener does not know its address. -/
  | unaddressed (fault : Fault)
  /-- No connection can be accepted. -/
  | accept (fault : Fault)
deriving DecidableEq, Repr

namespace ServerFailure

def message : ServerFailure → String
  | bind address _ => s!"failed to bind {address}"
  | unaddressed _ => "listener has no address"
  | accept _ => "accept failed"

end ServerFailure

/-- How far an acceptor has come. -/
inductive Accepting
  | serving
  /-- The acceptor heard of its stop signal. -/
  | stopped
  | failed (failure : ServerFailure)
deriving DecidableEq, Repr

structure Acceptor (κ : Type) where
  stop : Signal
  /-- Whether the stop signal was set since the acceptor was made. -/
  isChanged : Bool := false
  /-- The connections that have arrived, oldest first. -/
  backlog : List κ := []
  /-- The connections that were handed to a task, oldest first. -/
  accepted : List κ := []
  state : Accepting := .serving
  notices : List Notice := [.listening]
deriving DecidableEq, Repr

namespace Acceptor

variable {κ : Type}

/-- What may happen next to an acceptor. -/
inductive Move (κ : Type)
  | arrive (connection : κ)
  | set (value : Bool)
  | abandon
  | accept
  | fail (fault : Fault)
  | stop

/-- Whether there is news of the stop signal. -/
def hasNews (a : Acceptor κ) : Bool := a.isChanged || !a.stop.settable

def isServing (a : Acceptor κ) : Bool := a.state = .serving

/-- The acceptor after a move, if the move is possible. Where a connection can be accepted and there
is news of the stop signal, either may come first. -/
def step? (a : Acceptor κ) : Move κ → Option (Acceptor κ)
  | .arrive connection => some { a with backlog := a.backlog ++ [connection] }
  | .set value =>
    if a.stop.settable then some { a with stop := a.stop.set value, isChanged := true } else none
  | .abandon => some { a with stop := a.stop.abandon }
  | .accept =>
    match a.isServing, a.backlog with
    | true, connection :: backlog =>
      some { a with backlog, accepted := a.accepted ++ [connection] }
    | _, _ => none
  | .fail fault => if a.isServing then some { a with state := .failed (.accept fault) } else none
  | .stop =>
    if a.isServing && a.hasNews then
      some { a with state := .stopped, notices := a.notices ++ [.shuttingDown] }
    else none

/-- The acceptor after those of the moves that are possible when they come. -/
def run (a : Acceptor κ) (moves : List (Move κ)) : Acceptor κ :=
  moves.foldl (fun a move => (a.step? move).getD a) a

/-- The acceptor after the moves, each of which has to be possible when it comes. -/
def run? (a : Acceptor κ) (moves : List (Move κ)) : Option (Acceptor κ) := moves.foldlM step? a

end Acceptor

end Courier
