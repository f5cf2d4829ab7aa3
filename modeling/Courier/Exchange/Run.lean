import Courier.Exchange.Delivery
import Courier.Transfer.Run

/-!
# Exchanges

An exchange is a delivery beside the producer of its body.
-/

namespace Courier

structure Exchange (σ : Type) where
  delivery : Delivery σ
  producer : Option Producer := none

namespace Exchange

variable {σ : Type} [ResponseSink σ]

/-- A step of the delivery. -/
def deliver? (x : Exchange σ) : Option (Exchange σ) :=
  x.delivery.step?.map fun delivery => { x with delivery }

/-- A step of the producer. -/
def produce? (x : Exchange σ) : Option (Exchange σ) := do
  let (producer, body) ← (← x.producer).feed? (← x.delivery.body)
  some { delivery := { x.delivery with body := some body }, producer := some producer }

/-- A step of either party, of the delivery if it can go on. -/
def step? (x : Exchange σ) : Option (Exchange σ) := x.deliver?.or x.produce?

/-- At most so many steps. -/
def steps : Nat → Exchange σ → Exchange σ
  | 0, x => x
  | n + 1, x =>
    match x.step? with
    | some x => steps n x
    | none => x

/-- Both parties go on until neither can. -/
def settle (x : Exchange σ) (patience : Nat := 0) : Exchange σ :=
  steps (stepLimit (x.delivery.body.getD (.bytes [])) x.producer patience) x

end Exchange

end Courier
