import Courier.Exchange.Run
import Courier.Sink.Ledger

/-!
# The trail of an exchange

What the delivery has called, of its body as well as of its sink, and how it was answered. A call whose other
side was not ready is not on the trail, it is made again. Between two steps the other side of the sink may take
a turn of its own.
-/

namespace Courier

/-- A call of a delivery with its answer. -/
inductive Delivery.Call
  | sink (call : SinkCall)
  | read (answer : Except Fault Bytes)
  /-- The sink was asked what a failure comes from. -/
  | diagnosis (fault cause : Fault)

namespace Delivery.Call

def isHead : Call → Bool
  | sink (.head ..) => true
  | _ => false

/-- Whether this is a write that is made again. -/
def isRetried : Call → Bool
  | sink (.write _ (.error fault)) => Copier.rewrites fault
  | _ => false

/-- What the sink has accepted in a call. -/
def accepted : Call → Bytes
  | sink call => call.accepted
  | _ => []

/-- The fault by which a call ends the transmission. -/
def fault? : Call → Option Fault
  | sink (.head _ _ (.error fault)) => some fault
  | sink (.write _ (.ok 0)) => some Copier.stuck
  | sink (.write _ (.error fault)) => if Copier.rewrites fault then none else some fault
  | sink (.flush (.error fault)) => some fault
  | read (.error fault) => if fault.isInterrupted then none else some fault
  | _ => none

end Delivery.Call

variable {σ : Type} [ResponseSink σ]

/-- The call that an attempt of the copier makes. -/
def Copier.call? (c : Copier) (body : Body) (sink : σ) : Option Delivery.Call :=
  match c.state with
  | .reading =>
    match (body.read unitLimit).1 with
    | .ready answer => some (.read answer)
    | .pending => none
  | .writing _ rest =>
    match (ResponseSink.write sink rest).1 with
    | .ready answer => some (.sink (.write rest answer))
    | .pending => none
  | .flushing | .closing =>
    match (ResponseSink.flush sink).1 with
    | .ready answer => some (.sink (.flush answer))
    | .pending => none
  | .done | .failed _ => none

/-- The call that the next step of a delivery makes. -/
def Delivery.call? (d : Delivery σ) : Option Delivery.Call :=
  match d.state with
  | .awaiting | .finished => none
  | .opening o =>
    let sink := ResponseSink.setHeaders d.sink ((ResponseSink.headers d.sink).copyFields o.headers)
    some (.sink (.head o.status o.framing (ResponseSink.writeHead sink o.status o.framing).1))
  | .copying c => d.body.bind (c.call? · d.sink)
  | .diagnosing _ fault =>
    match ResponseSink.diagnose d.sink fault with
    | .ready cause => some (.diagnosis fault cause)
    | .pending => none

namespace Exchange

/-- The exchange for a request that its service has answered. A producer sends the chunks, for the case that
the body is a live stream. -/
def start (service : Service) (request : Request) (sink : σ) (chunks : List Bytes) : Exchange σ where
  delivery := Delivery.serve service request sink
  producer := some { rest := chunks }

/-- The exchange after so many steps of delivery and producer, in any order, with the calls on the way. -/
inductive Trail (turn : σ → σ → Prop) (x : Exchange σ) : Nat → List Delivery.Call → Exchange σ → Prop
  | refl : Trail turn x 0 [] x
  | deliver {n : Nat} {calls : List Delivery.Call} {y z : Exchange σ} (h : Trail turn x n calls y)
      (hs : y.deliver? = some z) : Trail turn x (n + 1) (calls ++ y.delivery.call?.toList) z
  | produce {n : Nat} {calls : List Delivery.Call} {y z : Exchange σ} (h : Trail turn x n calls y)
      (hs : y.produce? = some z) : Trail turn x (n + 1) calls z
  | turn {n : Nat} {calls : List Delivery.Call} {y : Exchange σ} {sink : σ} (h : Trail turn x n calls y)
      (ht : turn y.delivery.sink sink) : Trail turn x n calls { y with delivery.sink := sink }

/-- The calls of the next so many steps. -/
def calls : Nat → Exchange σ → List Delivery.Call
  | 0, _ => []
  | n + 1, x =>
    match x.deliver?, x.produce? with
    | some y, _ => x.delivery.call?.toList ++ calls n y
    | none, some y => calls n y
    | none, none => []

end Exchange

end Courier
