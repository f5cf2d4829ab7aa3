import Courier.Exchange.Run
import Courier.Sink.Ledger

/-!
# Exchanges on any sink

An exchange whose sink is known only by what it promises: `good` says which of its states can be met. Between
two steps the other side of the sink may move, and leave it in any of these.
-/

namespace Courier

/-- The delivery as it is without the ledger. -/
def Delivery.unwatched {σ : Type} (d : Delivery (Ledger σ)) : Delivery σ := { d with sink := d.sink.sink }

namespace Exchange

variable {σ : Type} [ResponseSink σ]

/-- The exchange after so many steps of delivery and producer, in any order. -/
inductive Reaches (good : σ → Prop) (x : Exchange (Ledger σ)) : Nat → Exchange (Ledger σ) → Prop
  | refl : Reaches good x 0 x
  | deliver {n : Nat} {y z : Exchange (Ledger σ)} (h : Reaches good x n y) (hs : y.deliver? = some z) :
      Reaches good x (n + 1) z
  | produce {n : Nat} {y z : Exchange (Ledger σ)} (h : Reaches good x n y) (hs : y.produce? = some z) :
      Reaches good x (n + 1) z
  | turn {n : Nat} {y : Exchange (Ledger σ)} {sink : σ} (h : Reaches good x n y) (hg : good sink) :
      Reaches good x n { y with delivery.sink.sink := sink }

/-- The exchange for a request that its service has answered, on a sink that no call was made on. A producer
sends the chunks, for the case that the body is a live stream. -/
def watched (service : Service) (request : Request) (sink : σ) (chunks : List Bytes) : Exchange (Ledger σ) where
  delivery := Delivery.serve service request { sink }
  producer := some { rest := chunks }

end Exchange

end Courier
