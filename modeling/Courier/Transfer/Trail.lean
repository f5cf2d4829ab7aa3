import Courier.Exchange.Trail
import Courier.Transfer.Schedule

/-!
# The trail of a transfer

The calls of a copier, with their answers, while its source and the other side of its sink do what they do.
Between two steps of the copier the source may become another one, and the sink may take a turn; which of these
can happen is up to the relations `feed` and `turn`.
-/

namespace Courier

/-- What a read has yielded. -/
def Delivery.Call.unit? : Delivery.Call → Option Bytes
  | .read (.ok (b :: unit)) => some (b :: unit)
  | _ => none

/-- What is sent on together: each unit by itself if it is flushed, or else all of them. -/
def Discipline.groups (units : List Bytes) : Discipline → List Bytes
  | .chunked => units
  | .buffered => [units.flatten]

namespace Transfer

variable {σ : Type} [ResponseSink σ]

/-- The transfer after so many steps of its copier, with the calls on the way. -/
inductive Trail (feed : Body → Body → Prop) (turn : σ → σ → Prop) (t : Transfer σ) :
    Nat → List Delivery.Call → Transfer σ → Prop
  | refl : Trail feed turn t 0 [] t
  | copy {n : Nat} {calls : List Delivery.Call} {u v : Transfer σ} (h : Trail feed turn t n calls u)
      (hs : u.copy? = some v) : Trail feed turn t (n + 1) (calls ++ (u.copier.call? u.body u.sink).toList) v
  | feed {n : Nat} {calls : List Delivery.Call} {u : Transfer σ} {body : Body} (h : Trail feed turn t n calls u)
      (hf : feed u.body body) : Trail feed turn t n calls { u with body }
  | turn {n : Nat} {calls : List Delivery.Call} {u : Transfer σ} {sink : σ} (h : Trail feed turn t n calls u)
      (ht : turn u.sink sink) : Trail feed turn t n calls { u with sink }

end Transfer

end Courier
