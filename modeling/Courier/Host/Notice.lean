import Courier.Fault.Severity

/-!
# Notices

What a host logs about itself and its connections.
-/

namespace Courier

inductive Notice
  | listening
  | shuttingDown
  | connectionClosed
  | connectionFailed (fault : Fault)
  /-- A request was left without a response head. -/
  | headMissing
deriving DecidableEq, Repr

namespace Notice

/-- How loud a notice is. A connection that fails is as loud as its fault. -/
def severity : Notice → Severity
  | listening | shuttingDown => .info
  | connectionClosed => .debug
  | connectionFailed fault => fault.severity
  | headMissing => .error

def message : Notice → String
  | listening => "HTTP server listening"
  | shuttingDown => "HTTP server shutting down"
  | connectionClosed => "connection closed"
  | connectionFailed _ => "connection error"
  | headMissing => "handler finished without a response head"

end Notice

end Courier
