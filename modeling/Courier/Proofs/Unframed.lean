import Courier.Exchange.Framed
import Courier.Proofs.Relay

/-!
# Sinks without the framing

Leave out what a head says of its framing, and a recorder or a relay still does all it does: each operation
commutes with leaving it out, and so do the turns of a host. So two of them that differ in nothing else go on
alike (`Recorder.indifferent`, `Relay.indifferent`).
-/

namespace Courier

/-- Operations that commute with a view treat states alike that look the same in it. -/
theorem Alike.of_view {α σ : Type} {view : σ → σ} {f : σ → α × σ} {s t : σ}
    (hf : ∀ s, f (view s) = ((f s).1, view (f s).2)) (h : view s = view t) :
    Alike (fun s t => view s = view t) (f s) (f t) := by
  have hview := hf s
  rw [h, hf t] at hview
  obtain ⟨hanswer, hnext⟩ := Prod.mk.inj hview
  exact ⟨hanswer.symm, hnext.symm⟩

namespace Recorder

theorem write_unframed (r : Recorder) (bytes : Bytes) :
    r.unframed.write bytes = ((r.write bytes).1, (r.write bytes).2.unframed) := by
  unfold write
  have hfailing : failing r.unframed.failWrite (r.unframed.writeCalls + 1) = failing r.failWrite (r.writeCalls + 1) :=
    rfl
  simp only [hfailing]
  split <;> rfl

theorem flush_unframed (r : Recorder) : r.unframed.flush = (r.flush.1, r.flush.2.unframed) := by
  unfold flush
  have hfailing : failing r.unframed.failFlush (r.unframed.flushCalls + 1) = failing r.failFlush (r.flushCalls + 1) :=
    rfl
  simp only [hfailing]
  split <;> rfl

theorem writeHead_unframed (r : Recorder) (status : Status) (framing : Framing) :
    r.unframed.writeHead status framing.plain =
      ((r.writeHead status framing).1, (r.writeHead status framing).2.unframed) := by
  unfold writeHead
  have hfail : r.unframed.failHead = r.failHead := rfl
  simp only [hfail]
  split <;> rfl

/-- A recorder notes the framing and does nothing else with it. -/
theorem indifferent : Indifferent Eq fun r s : Recorder => r.unframed = s.unframed where
  headers {r s} h := by
    show r.unframed.headers = s.unframed.headers
    rw [h]
  setHeaders {r s} headers h := by
    show { r.unframed with headers } = { s.unframed with headers }
    rw [h]
  writeHead {r s} status framing other hf ho h := by
    have hr := r.writeHead_unframed status framing
    rw [h, Framing.plain_of_ne hf, ← Framing.plain_of_ne ho, s.writeHead_unframed status other] at hr
    obtain ⟨hanswer, hnext⟩ := Prod.mk.inj hr
    exact ⟨hanswer.symm, hnext.symm⟩
  write bytes h := Alike.of_view (f := fun r : Recorder => r.write bytes) (write_unframed · bytes) h
  flush h := Alike.of_view (f := Recorder.flush) flush_unframed h
  diagnose {r s} fault h := by
    show Poll.ready (r.unframed.diagnosis.getD fault) = .ready (s.unframed.diagnosis.getD fault)
    rw [h]
  close h := h
  turn h ht := ⟨_, rfl, ht ▸ h⟩

end Recorder

namespace Relay

theorem sendPending_unframed (r : Relay) : r.unframed.sendPending = (r.sendPending.1, r.sendPending.2.unframed) := by
  unfold sendPending
  have hpending : r.unframed.pending = r.pending := rfl
  have hsending : r.unframed.sending = r.sending := rfl
  have hreceiving : r.unframed.receiving = r.receiving := rfl
  have hqueue : r.unframed.queue = r.queue := rfl
  rw [hpending, hsending, hreceiving, hqueue]
  split
  · rfl
  split
  · rfl
  split
  · rfl
  split <;> rfl

theorem write_unframed (r : Relay) (bytes : Bytes) :
    r.unframed.write bytes = ((r.write bytes).1, (r.write bytes).2.unframed) := by
  unfold write
  have hpending : r.unframed.pending = r.pending := rfl
  rw [hpending, sendPending_unframed]
  split
  · rcases r.sendPending with ⟨(⟨_ | _⟩ | _), next⟩ <;> rfl
  · rfl

theorem unframed_headOf (r : Relay) (status : Status) (framing : Framing) :
    (Slot.full (r.headOf status framing)).unframed =
      .full ⟨status, r.headers.remove .contentLength, framing.plain⟩ := by
  cases framing with
  | empty | chunked => rfl
  | length n => simp [Slot.unframed, headOf, Headers.insert, Headers.append, Headers.remove]

theorem unframed_withHead (r : Relay) (status : Status) {framing : Framing} (hf : framing ≠ .empty) :
    (r.withHead (r.headOf status framing)).unframed = { r.unframed with
      headDue := false
      headers := []
      sending := true
      slot := .full ⟨status, r.unframed.headers.remove .contentLength, .chunked⟩
      receiving := true } := by
  have hframed : decide ((r.headOf status framing).framing ≠ .empty) = true := decide_eq_true hf
  have hslot := r.unframed_headOf status framing
  rw [Framing.plain_of_ne hf] at hslot
  simp only [withHead, unframed, hframed, hslot]

theorem unframed_headLost (r : Relay) {framing : Framing} (hf : framing ≠ .empty) :
    (r.headLost framing).unframed = { r.unframed with headDue := false, headers := [], sending := true } := by
  have hframed : decide (framing ≠ .empty) = true := decide_eq_true hf
  simp only [headLost, unframed, hframed]

theorem slot_given_iff (r : Relay) : r.unframed.slot = .given ↔ r.slot = .given := by
  show r.slot.unframed = .given ↔ _
  cases r.slot <;> simp [Slot.unframed]

/-- Behind the head, nothing but its slot tells how it was framed. -/
theorem writeHead_alike {r s : Relay} {framing other : Framing} (status : Status) (hf : framing ≠ .empty)
    (ho : other ≠ .empty) (h : r.unframed = s.unframed) :
    Alike (fun r s : Relay => r.unframed = s.unframed) (r.writeHead status framing) (s.writeHead status other) := by
  have hdue : r.headDue = s.headDue := by
    show r.unframed.headDue = s.unframed.headDue
    rw [h]
  have hgiven : r.slot = .given ↔ s.slot = .given := by rw [← slot_given_iff, h, slot_given_iff]
  by_cases hd : s.headDue = true
  · by_cases hs : s.slot = .given
    · rw [writeHead_of_given status framing (hdue.trans hd) (hgiven.2 hs), writeHead_of_given status other hd hs]
      refine ⟨rfl, ?_⟩
      show (r.headLost framing).unframed = (s.headLost other).unframed
      rw [unframed_headLost r hf, unframed_headLost s ho, h]
    · rw [writeHead_of_due status framing (hdue.trans hd) (mt hgiven.1 hs), writeHead_of_due status other hd hs]
      refine ⟨rfl, ?_⟩
      show (r.withHead _).unframed = (s.withHead _).unframed
      rw [unframed_withHead r status hf, unframed_withHead s status ho, h]
  · have hd : s.headDue = false := by simpa using hd
    rw [writeHead_of_not_due status framing (hdue.trans hd), writeHead_of_not_due status other hd]
    exact ⟨rfl, h⟩

theorem takeHead_unframed (r : Relay) : r.unframed.takeHead.2 = r.takeHead.2.unframed := by
  have hslot : r.unframed.slot = r.slot.unframed := rfl
  unfold takeHead
  rw [hslot]
  cases hs : r.slot with
  | given => simp [Slot.unframed, unframed, hs]
  | empty =>
    have hdue : r.unframed.headDue = r.headDue := rfl
    simp only [Slot.unframed, hdue]
    split
    · rfl
    · rfl
  | full head =>
    simp only [Slot.unframed, Framing.plain_eq_empty_iff]
    rfl

theorem takeFrame_unframed (r : Relay) : r.unframed.takeFrame.2 = r.takeFrame.2.unframed := by
  have hhosted : r.unframed.hosted = r.hosted := rfl
  have hqueue : r.unframed.queue = r.queue := rfl
  unfold takeFrame
  rw [hhosted, hqueue]
  split
  · rfl
  · rfl
  · split <;> rfl

theorem dropHead_unframed (r : Relay) : r.unframed.dropHead = r.dropHead.unframed := by
  have hslot : r.unframed.slot = r.slot.unframed := rfl
  unfold dropHead
  rw [hslot]
  cases hs : r.slot with
  | given => rfl
  | empty => rfl
  | full head => rfl

theorem dropBody_unframed (r : Relay) : r.unframed.dropBody = r.dropBody.unframed := by
  have hhosted : r.unframed.hosted = r.hosted := rfl
  unfold dropBody
  rw [hhosted]
  split <;> rfl

theorem publish_unframed (r : Relay) (fault : Fault) : r.unframed.publish fault = (r.publish fault).unframed := by
  have houtcome : r.unframed.outcome = r.outcome := rfl
  unfold publish
  rw [houtcome]
  split <;> rfl

theorem HostTurn.exists_alike {r r' s : Relay} (ht : r.HostTurn r') (h : r.unframed = s.unframed) :
    ∃ s', s.HostTurn s' ∧ r'.unframed = s'.unframed := by
  cases ht with
  | takeHead => exact ⟨_, .takeHead, by rw [← takeHead_unframed, h, takeHead_unframed]⟩
  | takeFrame => exact ⟨_, .takeFrame, by rw [← takeFrame_unframed, h, takeFrame_unframed]⟩
  | dropHead => exact ⟨_, .dropHead, by rw [← dropHead_unframed, h, dropHead_unframed]⟩
  | dropBody => exact ⟨_, .dropBody, by rw [← dropBody_unframed, h, dropBody_unframed]⟩
  | publish fault => exact ⟨_, .publish fault, by rw [← publish_unframed, h, publish_unframed]⟩
  | dropOutcome =>
    refine ⟨_, .dropOutcome, ?_⟩
    show r.unframed.dropOutcome = s.unframed.dropOutcome
    rw [h]

/-- A relay hands the framing on with the head and does nothing else with it, whatever its host does. -/
theorem indifferent : Indifferent HostTurn fun r s : Relay => r.unframed = s.unframed where
  headers {r s} h := by
    show r.unframed.headers = s.unframed.headers
    rw [h]
  setHeaders {r s} headers h := by
    show { r.unframed with headers } = { s.unframed with headers }
    rw [h]
  writeHead status _ _ hf ho h := writeHead_alike status hf ho h
  write bytes h := Alike.of_view (f := fun r : Relay => r.write bytes) (write_unframed · bytes) h
  flush h := Alike.of_view (f := sendPending) sendPending_unframed h
  diagnose {r s} fault h := by
    show r.unframed.diagnose fault = s.unframed.diagnose fault
    rw [h]
  close {r s} h := by
    show r.unframed.detach = s.unframed.detach
    rw [h]
  turn h ht := ht.exists_alike h

end Relay

end Courier
