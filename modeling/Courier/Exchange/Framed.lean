import Courier.Exchange.Plain
import Courier.Exchange.Trail
import Courier.Sink.Relay

/-!
# Where a framing shows

The framing that a response is sent with shows in one call, the one that writes the head. A sink that does not
care about it goes on alike behind heads that are framed otherwise; it is given by a relation between its
states, as other things in them may differ with the framing.
-/

namespace Courier

namespace Delivery.Call

def isFlush : Call → Bool
  | sink (.flush _) => true
  | _ => false

/-- The same call, of a response that is framed like this. -/
def reframed (framing : Framing) : Call → Call
  | sink (.head status _ answer) => .sink (.head status framing answer)
  | call => call

end Delivery.Call

/-- The exchange that serves the response with this body. -/
def Exchange.carrying {σ : Type} [ResponseSink σ] (response : Response) (request : Request) (sink : σ)
    (chunks : List Bytes) (body : Body) : Exchange σ :=
  start (fun _ => response.withBody body) request sink chunks

/-- Two answers of a sink are the same, and it is left in states that are. -/
def Alike {α σ : Type} (same : σ → σ → Prop) (left right : α × σ) : Prop :=
  left.1 = right.1 ∧ same left.2 right.2

/-- Sinks that are the same but for how a body is framed go on alike, with the other side of the sink taking
the same turns. -/
structure Indifferent {σ : Type} [ResponseSink σ] (turn same : σ → σ → Prop) : Prop where
  headers : ∀ {s t}, same s t → ResponseSink.headers s = ResponseSink.headers t
  setHeaders : ∀ {s t} headers, same s t →
    same (ResponseSink.setHeaders s headers) (ResponseSink.setHeaders t headers)
  writeHead : ∀ {s t} status {framing other : Framing}, framing ≠ .empty → other ≠ .empty → same s t →
    Alike same (ResponseSink.writeHead s status framing) (ResponseSink.writeHead t status other)
  write : ∀ {s t} bytes, same s t → Alike same (ResponseSink.write s bytes) (ResponseSink.write t bytes)
  flush : ∀ {s t}, same s t → Alike same (ResponseSink.flush s) (ResponseSink.flush t)
  diagnose : ∀ {s t} fault, same s t → ResponseSink.diagnose s fault = ResponseSink.diagnose t fault
  close : ∀ {s t}, same s t → same (ResponseSink.close s) (ResponseSink.close t)
  turn : ∀ {s t s'}, same s t → turn s s' → ∃ t', turn t t' ∧ same s' t'

/-- The recorder without the framing of a body. -/
def Recorder.unframed (r : Recorder) : Recorder :=
  { r with head := r.head.map fun (status, framing) => (status, framing.plain) }

/-- The head without the framing of a body, and without the length that comes with it. -/
def Slot.unframed : Slot → Slot
  | full head => full { head with headers := head.headers.remove .contentLength, framing := head.framing.plain }
  | slot => slot

namespace Relay

/-- The relay without the framing of a body. -/
def unframed (r : Relay) : Relay := { r with slot := r.slot.unframed }

/-- What the host does to a relay, or the end of its connection. -/
inductive HostTurn (r : Relay) : Relay → Prop
  | takeHead : HostTurn r r.takeHead.2
  | takeFrame : HostTurn r r.takeFrame.2
  | dropHead : HostTurn r r.dropHead
  | dropBody : HostTurn r r.dropBody
  | publish (fault : Fault) : HostTurn r (r.publish fault)
  | dropOutcome : HostTurn r r.dropOutcome

end Relay

end Courier
