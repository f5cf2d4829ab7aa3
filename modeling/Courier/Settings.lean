import Courier.Address
import Courier.Fault

/-!
# Settings of a server

The settings that a server runs with, the conditions on them, and what can be wrong with a file that
they are read from.
-/

namespace Courier

structure Settings where
  /-- Where connections are accepted. -/
  listen : SocketAddress := .v4 ⟨127, 0, 0, 1⟩ 8080
  /-- The most bytes that the head of a request may have. -/
  maxHeaderBytes : Nat := 0x100000
  /-- Whether a connection stays open after a request. -/
  keepAlive : Bool := true
  /-- The time in seconds within which a head has to arrive. -/
  headerReadTimeout : Option Nat := none
deriving DecidableEq, Repr

namespace Settings

/-- The smallest limit on a request head: less does not hold a useful one. -/
def minHeaderBytes : Nat := 8192

/-- What can be wrong with settings. -/
inductive Problem
  | headerLimitTooSmall (limit : Nat)
  | timeoutZero
deriving DecidableEq, Repr

def Problem.message : Problem → String
  | headerLimitTooSmall limit =>
    s!"max_header_bytes must be at least {minHeaderBytes}, got {limit}"
  | timeoutZero => "header_read_timeout_secs must be positive"

/-- The first problem with the settings. -/
def problem? (settings : Settings) : Option Problem :=
  if settings.maxHeaderBytes < minHeaderBytes then
    some (.headerLimitTooSmall settings.maxHeaderBytes)
  else if settings.headerReadTimeout = some 0 then some .timeoutZero
  else none

/-- Why there are no settings. -/
inductive Failure
  /-- The file could not be read. -/
  | unreadable (fault : Fault)
  /-- The text is no TOML document, or not one of settings. -/
  | malformed
  | invalid (problem : Problem)
deriving DecidableEq, Repr

def Failure.message : Failure → String
  | unreadable fault => "failed to read config: " ++ fault.message?.getD ""
  | malformed => "failed to parse config"
  | invalid problem => "invalid config: " ++ problem.message

/-- The settings, if nothing is wrong with them. -/
def validate (settings : Settings) : Except Failure Settings :=
  match settings.problem? with
  | some problem => .error (.invalid problem)
  | none => .ok settings

/-- The time in milliseconds within which a head has to arrive. -/
def headerReadTimeoutMillis (settings : Settings) : Option Nat :=
  settings.headerReadTimeout.map (· * 1000)

end Settings

end Courier
