import Courier.Exchange.Watched

/-!
# A stream with any number of writers

A delivery beside the writers of its stream. The writers send, make more writers and close in any order, and one
does not wait for another; what they send comes in the order in which the sends were started.
-/

namespace Courier

/-- What the writers of a stream do to it in one step, with the chunks that it starts to send. -/
inductive Channel.WriterStep (ch : Channel) : List Bytes → Channel → Prop
  | send {writer : Nat} (ho : ch.isOpen writer = true) (chunk : Bytes) : WriterStep ch [chunk] (ch.send chunk)
  | clone {writer : Nat} (ho : ch.isOpen writer = true) : WriterStep ch [] ch.addWriter
  | close {writer : Nat} (ho : ch.isOpen writer = true) : WriterStep ch [] (ch.closeWriter writer)
  /-- The sends that can be completed are. -/
  | settle : WriterStep ch [] ch.settle.2

/-- The delivery after so many steps of its own, among steps of the writers of its stream, who have started to send
these chunks by then. -/
inductive Delivery.Shares {σ : Type} [ResponseSink σ] (good : σ → Prop) (d : Delivery (Ledger σ)) :
    Nat → List Bytes → Delivery (Ledger σ) → Prop
  | refl : Shares good d 0 [] d
  | deliver {n : Nat} {sent : List Bytes} {d₁ d₂ : Delivery (Ledger σ)} (h : Shares good d n sent d₁)
      (hs : d₁.step? = some d₂) : Shares good d (n + 1) sent d₂
  | write {n : Nat} {sent new : List Bytes} {d₁ : Delivery (Ledger σ)} {ch ch' : Channel}
      (h : Shares good d n sent d₁) (hb : d₁.body = some (.stream ch)) (hs : ch.WriterStep new ch') :
      Shares good d n (sent ++ new) { d₁ with body := some (.stream ch') }
  | turn {n : Nat} {sent : List Bytes} {d₁ : Delivery (Ledger σ)} {sink : σ} (h : Shares good d n sent d₁)
      (hg : good sink) : Shares good d n sent { d₁ with sink.sink := sink }

end Courier
