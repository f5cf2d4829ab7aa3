import Courier.Fault.Severity
import Courier.Message.Request

/-!
# Events

What is logged about the transmission of a response.
-/

namespace Courier

/-- What of a response could not be sent. -/
inductive Lost
  | head
  /-- The body, of which so many bytes were counted as written. -/
  | body (streaming : Bool) (written : Nat)
deriving DecidableEq, Repr

namespace Lost

def message : Lost → String
  | head => "couldn't send response head"
  | body true _ => "couldn't send streaming response body"
  | body false _ => "couldn't send response body"

def written? : Lost → Option Nat
  | head => none
  | body _ written => some written

end Lost

structure Event where
  severity : Severity
  lost : Lost
  method : Method
  uri : Uri
  peer : Option SocketAddress
  fault : Fault
deriving DecidableEq, Repr

end Courier
