import Courier.Proofs.Serving
import Courier.Proofs.Supply

/-!
# What a delivery fails for

Over a relay nothing fails by itself: a delivery fails with the fault that its body fails with, or because
the host does not hold the body any more. `Delivery.Excused` follows a failure from the copier to the
event that reports it.
-/

namespace Courier

/-- What has failed has failed with the fault of the body, or is not held. `later` is the fault that is
still ahead in the body. -/
def Copying.Excused (fault? later : Option Fault) (held : Bool) : Copying → Prop
  | .reading | .writing .. | .flushing => later = fault?
  | .closing | .done => fault? = none
  | .failed fault => fault? = some fault ∨ held = false

/-- Why a delivery has failed or may yet fail, if its body fails with `fault?`. A loss is reported once it
is diagnosed, and while the host holds the body a drop of it cannot be. -/
def Delivery.Excused (fault? : Option Fault) (d : Delivery Relay) : Prop :=
  match d.state with
  | .awaiting | .diagnosing .head _ => True
  | .opening _ => d.body.bind Body.fault? = fault?
  | .copying c => c.state.Excused fault? (d.body.bind Body.fault?) d.sink.isHeld
  | .diagnosing (.body _ _) fault => fault? = some fault ∨ d.sink.isHeld = false
  | .finished => (d.events = [] → fault? = none) ∧ (d.events ≠ [] → d.sink.isHeld = false ∨
      ∃ fault, fault? = some fault ∧ ∀ kind, fault ≠ .ioWith kind .bodyDropped)

theorem Relay.Refused.of_sending {r : Relay} {fault : Fault} (h : r.Refused fault) (hs : r.sending = true) :
    r.receiving = false ∧ fault.isInterrupted = false := by
  rcases h.cause with ⟨hn, -⟩ | ⟨-, hr, rfl⟩
  · rw [hs] at hn; cases hn
  · exact ⟨hr, rfl⟩

theorem Copying.Excused.not_held {fault? later : Option Fault} {held held' : Bool} {state : Copying}
    (h : state.Excused fault? later held) (hh : held = false → held' = false) :
    state.Excused fault? later held' := by
  match state with
  | .reading | .writing .. | .flushing | .closing | .done => exact h
  | .failed fault => exact h.imp_right hh

/-- A copier fails with its body, or because the relay refuses what was gathered. -/
theorem Copier.Attempt.excused {fault? : Option Fault} {c c' : Copier} {body body' : Body} {r r' : Relay}
    {held : Bool} (ha : c.Attempt body r c' body' r') (hrest : c.HasRest) (hs : r.sending = true)
    (hh : r.receiving = false → held = false) (h : c.state.Excused fault? body.fault? held) :
    c'.state.Excused fault? body'.fault? held := by
  cases ha with
  | unit hc hr hu =>
    rw [hc] at h
    rw [Body.fault?_read hr, Body.faultBehind_ok _ hu] at h
    exact h
  | ended hc hr =>
    rw [hc] at h
    rw [Body.fault?_read hr] at h
    exact h.symm
  | readAgain hc hr hf =>
    rw [hc] at h ⊢
    rw [Body.fault?_read hr] at h
    simpa [Body.faultBehind, hf] using h
  | readLost hc hr hf =>
    rw [hc] at h
    rw [Body.fault?_read hr] at h
    exact .inl (by simpa [Body.faultBehind, hf] using h.symm)
  | notReady hc hr =>
    rw [hc] at h ⊢
    rw [Body.fault?_read hr] at h
    exact h
  | written hc => rw [hc] at h; exact h
  | unitDone hc =>
    rw [hc] at h
    unfold afterUnit
    dsimp only
    split <;> exact h
  | stuck hc hw =>
    obtain ⟨-, -, -, hpos⟩ := Relay.write_ok hw
    exact absurd (hpos (hrest _ _ hc)) (Nat.lt_irrefl 0)
  | writeAgain hc hw hf =>
    have := ((Relay.write_error hw).1.of_sending hs).2
    rw [hf] at this; cases this
  | writeLost hc hw hf => exact .inr (hh ((Relay.write_error hw).1.of_sending hs).1)
  | flushed hc | closed hc => rw [hc] at h; exact h
  | flushLost hc hw => exact .inr (hh ((Relay.sendPending_error hw).1.of_sending hs).1)

namespace Delivery.Excused

variable {fault? : Option Fault} {o : Opening} {d d' : Delivery Relay}

theorem advance (h : d.Excused fault?) (hs : d.Serving o) (hc : d.sink.Coherent)
    (ho : d.sink.isHeld = true → d.sink.outcome = {}) (ha : d.Advance d') : d'.Excused fault? := by
  cases ha with
  | headLost hd hw => exact trivial
  | headSent hd hw hb =>
    unfold Excused at h
    rw [hd] at h
    exact h
  | headOnly hd hw hb =>
    unfold Excused at h
    rw [hd, hb] at h
    exact ⟨fun _ => h.symm, fun he => absurd (hs.silent_of (by simp [hd])) he⟩
  | @copy c c' body body' sink' hd hb ha =>
    have hf := hs.fits
    rw [hd] at hf
    unfold Excused at h
    rw [hd, hb] at h
    have hheld : sink'.isHeld = d.sink.isHeld := by rw [Relay.attempt_frame ha]; rfl
    show c'.state.Excused fault? body'.fault? sink'.isHeld
    rw [hheld]
    refine ha.excused hf.2.2 hf.2.1 (fun hr => ?_) h
    cases hh : d.sink.isHeld with
    | false => rfl
    | true => rw [hs.receiving hc (by simp [hb]) hf.1 hh] at hr; cases hr
  | copied hd hcs =>
    unfold Excused at h
    rw [hd] at h
    dsimp only at h
    rw [hcs] at h
    exact ⟨fun _ => h, fun he => absurd (hs.silent_of (by simp [hd])) he⟩
  | copyLost hd hcs =>
    unfold Excused at h
    rw [hd] at h
    dsimp only at h
    rw [hcs] at h
    exact h
  | @report lost fault cause hd hf =>
    refine ⟨fun he => by simp [finish] at he, fun _ => ?_⟩
    have hfits := hs.fits
    unfold Excused at h
    rw [hd] at h hfits
    cases lost with
    | head => exact .inl hfits
    | body streaming written =>
      rcases h with h | h
      · cases hh : d.sink.isHeld with
        | false => exact .inl hh
        | true =>
          refine .inr ⟨fault, h, fun kind hk => ?_⟩
          have hw : d.sink.diagnose fault = .ready cause := hf
          rw [hk, Relay.diagnose, ho hh] at hw
          cases hw
      · exact .inl h

/-- A body that cannot fail is lost only on a host that does not hold it. -/
theorem events_eq_nil (h : d.Excused none) (hd : d.state = .finished) (hh : d.sink.isHeld = true) :
    d.events = [] := by
  unfold Excused at h
  rw [hd] at h
  by_cases he : d.events = []
  · exact he
  · rcases h.2 he with hn | ⟨_, hn, -⟩
    · rw [hh] at hn; cases hn
    · cases hn

end Delivery.Excused

namespace Connection

theorem excused_answered (request : Request) (response : Response) (chunks : List Bytes) :
    (answered request response chunks).delivery.Excused (response.body.bind Body.fault?) := rfl

theorem Effect.excused {fault? : Option Fault} {o : Opening} {c c' : Connection} (he : c.Effect c')
    (hc : c.relay.Coherent) (hs : c.Serving o) (h : c.delivery.Excused fault?) :
    c'.delivery.Excused fault? := by
  cases he with
  | answer ha => exact absurd ha hs.delivery.not_awaiting
  | deliver ha => exact h.advance hs.delivery hc (fun hh => (hs.live hh).2) ha
  | produce _ hb _ _ hd =>
    rw [hd]
    unfold Delivery.Excused at h ⊢
    rw [hb] at h
    exact h
  | host hh hd =>
    rw [hd]
    have hnot := hh.not_held
    unfold Delivery.Excused at h ⊢
    dsimp only
    split at h
    · exact h
    · exact h
    · exact h
    · exact h.not_held hnot
    · exact h.imp_right hnot
    · exact ⟨h.1, fun he => (h.2 he).imp_left hnot⟩
  | quiet hd => rw [hd]; exact h

/-- What holds of every run that answers a request, whatever host and producer do. -/
theorem excused_run {request : Request} {response : Response} {chunks : List Bytes} {moves : List Move}
    {c : Connection} (hr : (answered request response chunks).run? moves = some c)
    (hb : c.isBroken = false) : c.delivery.Excused (response.body.bind Body.fault?) :=
  (run?_induction (P := fun c => c.Serving response.opening ∧ c.delivery.Excused _)
    (fun _ _ hc h he => ⟨h.1.step hc he, he.excused hc h.1 h.2⟩) moves (coherent_answered ..)
    ⟨serving_answered request response chunks, excused_answered request response chunks⟩ hr hb).2.2

end Connection

end Courier
