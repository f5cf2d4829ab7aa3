import Courier.Message.Response
import Courier.Poll

/-!
# Response sinks

Where a response is written: its header set first, then the head, then the body. The operations
return the sink as it is afterwards, also when they fail or have to be made again.
-/

namespace Courier

class ResponseSink (σ : Type) where
  headers : σ → Headers
  /-- Changes the header set that the head is written with. -/
  setHeaders : σ → Headers → σ
  /-- Writes the head; it can be written once. -/
  writeHead : σ → Status → Framing → Except Fault Unit × σ
  /-- Accepts bytes of the body from the front, and says how many. -/
  write : σ → Bytes → Poll (Except Fault Nat) × σ
  /-- Sends on all that was accepted. -/
  flush : σ → Poll (Except Fault Unit) × σ
  /-- The fault below a failure of this sink, as far as the transport can tell. -/
  diagnose : σ → Fault → Poll Fault
  /-- The writer is done with the sink, or has given up. -/
  close : σ → σ

end Courier
