import Courier.Severity
import Courier.Fault

/-!
# The severity of a failed transmission

A client that goes away is no fault of the server, so it is reported quietly. Only a code of the
operating system tells such a fault from others, and the code sits at the end of the chain of
causes. The chain is followed for `chainLimit` faults; what lies deeper does not count.
-/

namespace Courier.Fault

/-- How many faults of a chain are looked at. -/
def chainLimit : Nat := 8

/-- The codes of a client that went away. -/
def isDisconnect (code : Int) : Bool :=
  code = OsCode.brokenPipe || code = OsCode.connectionReset || code = OsCode.connectionAborted

def codeSeverity (code : Int) : Severity := if isDisconnect code then .debug else .warn

/-- The severity found within the first `limit` faults of the chain. -/
def severityWithin : (limit : Nat) → Fault → Severity
  | 0, _ => .warn
  | limit + 1, fault =>
    match fault.code?, fault.next? with
    | some code, _ => codeSeverity code
    | none, some inner => severityWithin limit inner
    | none, none => .warn

/-- The severity at which a failed transmission is reported. -/
def severity (fault : Fault) : Severity := fault.severityWithin chainLimit

end Courier.Fault
