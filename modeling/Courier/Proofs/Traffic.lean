import Courier.Proofs.Relay
import Courier.Sink.Traffic

/-!
# What a relay holds back

Bytes that a relay has accepted are in one of three places: with the host, in a frame on its way, or gathered
for the next frame. `Traffic.Balanced` says so, and that the writer's end of the queue stands open for as long
as the host may wait for frames. The operations of a writer keep it because they move bytes from one place to
the next (`Balanced.sent`), those of a host because they take frames off the front (`Balanced.host`).
-/

namespace Courier

namespace Bytes

theorem length_flatten_le {frames : List Bytes} {limit : Nat} (h : ∀ frame ∈ frames, frame.length ≤ limit) :
    frames.flatten.length ≤ frames.length * limit := by
  induction frames with
  | nil => simp
  | cons frame frames ih =>
    have hframe := h frame (by simp)
    have hframes := ih fun f hf => h f (by simp [hf])
    rw [List.flatten_cons, List.length_append, List.length_cons, Nat.succ_mul]
    omega

end Bytes

namespace Relay

variable {r r' : Relay} {bytes : Bytes} {n : Nat}

/-- The bytes that a write finds gathered once a full frame is sent. -/
def kept (r : Relay) : Bytes := if frameLimit ≤ r.pending.length then [] else r.pending

theorem length_kept_lt (r : Relay) : r.kept.length < frameLimit := by
  unfold kept
  split
  · simp [frameLimit]
  · omega

/-- How much a write accepts. -/
theorem write_accepts (h : r.write bytes = (.ready (.ok n), r')) :
    n = min bytes.length (frameLimit - r.kept.length) ∧ r'.pending = r.kept ++ bytes.take n := by
  have hgather (r₁ : Relay) (hp : r₁.pending = r.kept) :
      (r₁.gather bytes).1 = min bytes.length (frameLimit - r.kept.length) ∧
        (r₁.gather bytes).2.pending = r.kept ++ bytes.take (r₁.gather bytes).1 := by
    simp [gather, hp, Nat.min_comm]
  unfold write at h
  split at h
  · rename_i hfull
    split at h
    · rename_i r₁ hs
      cases h
      obtain ⟨-, -, hp⟩ := sendPending_ok hs
      exact hgather r₁ (by rw [hp, kept, if_pos hfull])
    all_goals cases h
  · rename_i hroom
    cases h
    exact hgather r (by rw [kept, if_neg hroom])

theorem sendPending_idle {answer : Poll (Except Fault Unit)} (h : r.sendPending = (answer, r'))
    (ha : answer ≠ .ready (.ok ())) : r' = r := by
  match answer with
  | .ready (.ok ()) => exact absurd rfl ha
  | .ready (.error fault) => exact (sendPending_error h).2
  | .pending =>
    unfold sendPending at h
    repeat' split at h
    all_goals cases h
    rfl

theorem write_idle {answer : Poll (Except Fault Nat)} (h : r.write bytes = (answer, r'))
    (ha : ∀ n, answer ≠ .ready (.ok n)) : r' = r := by
  match answer with
  | .ready (.ok n) => exact absurd rfl (ha n)
  | .ready (.error fault) => exact (write_error h).2
  | .pending =>
    unfold write at h
    split at h
    · split at h
      · cases h
      · cases h
      · rename_i hs
        cases h
        exact sendPending_idle hs (by simp)
    · cases h

theorem shutdown_ok (h : r.shutdown = (.ready (.ok ()), r')) :
    ∃ r₁, r.sendPending = (.ready (.ok ()), r₁) ∧ r' = { r₁ with sending := false } := by
  unfold shutdown at h
  split at h
  · rename_i r₁ hs
    cases h
    exact ⟨r₁, hs, rfl⟩
  · rename_i hn
    exact absurd h (hn r')

theorem shutdown_idle {answer : Poll (Except Fault Unit)} (h : r.shutdown = (answer, r'))
    (ha : answer ≠ .ready (.ok ())) : r' = r := by
  unfold shutdown at h
  split at h
  · cases h
    exact absurd rfl ha
  · exact sendPending_idle h ha

/-- A head is refused for one of two reasons, and only one of them costs the relay its header set. -/
theorem writeHead_idle {status : Status} {framing : Framing} {fault : Fault}
    (h : r.writeHead status framing = (.error fault, r')) (hf : fault ≠ Fault.ofTransport .bodyDropped) :
    r' = r := by
  cases hd : r.headDue with
  | false =>
    rw [writeHead_of_not_due status framing hd] at h
    cases h
    rfl
  | true =>
    by_cases hs : r.slot = .given
    · rw [writeHead_of_given status framing hd hs] at h
      cases h
      exact absurd rfl hf
    · rw [writeHead_of_due status framing hd hs] at h
      cases h

/-- A call that has to wait, or fails with anything but a dropped body, leaves the relay as it was. -/
theorem call_idle {call : Call} {reply : Reply} (h : r.call call = (reply, r'))
    (hr : reply = .waits ∨ ∃ fault, reply = .failed fault ∧ fault ≠ Fault.ofTransport .bodyDropped) :
    r' = r := by
  have hdone : reply ≠ .done := by
    rcases hr with rfl | ⟨fault, rfl, -⟩ <;> simp
  have haccepted (n : Nat) : reply ≠ .accepted n := by
    rcases hr with rfl | ⟨fault, rfl, -⟩ <;> simp
  cases call with
  | setHeaders headers =>
    cases h
    exact absurd rfl hdone
  | writeHead status framing =>
    rcases hw : r.writeHead status framing with ⟨answer, r₁⟩
    simp only [Relay.call, hw] at h
    cases h
    match answer with
    | .ok () => exact absurd rfl hdone
    | .error fault =>
      rcases hr with hr | ⟨fault', hr, hf⟩
      · cases hr
      · cases hr
        exact writeHead_idle hw hf
  | write bytes =>
    rcases hw : r.write bytes with ⟨answer, r₁⟩
    simp only [Relay.call, hw] at h
    cases h
    refine write_idle hw ?_
    rintro n rfl
    exact haccepted n rfl
  | flush =>
    rcases hw : r.sendPending with ⟨answer, r₁⟩
    simp only [Relay.call, hw] at h
    cases h
    refine sendPending_idle hw ?_
    rintro rfl
    exact hdone rfl
  | shutdown =>
    rcases hw : r.shutdown with ⟨answer, r₁⟩
    simp only [Relay.call, hw] at h
    cases h
    refine shutdown_idle hw ?_
    rintro rfl
    exact hdone rfl

end Relay

namespace Traffic

structure Balanced (t : Traffic) : Prop where
  coherent : t.relay.Coherent
  bytes : t.dropped = false → t.received.flatten ++ t.relay.queue.flatten ++ t.relay.pending = t.accepted
  received : ∀ frame ∈ t.received, frame ≠ [] ∧ frame.length ≤ Relay.frameLimit
  due : t.relay.headDue = true → t.framing = none
  sending : ∀ framing, t.framing = some framing → framing ≠ .empty → t.relay.sending = !t.shut
  slot : ∀ head, t.relay.slot = .full head → t.framing = some head.framing
  hosted : ∀ b, t.relay.hosted = some b →
    ∃ framing, t.framing = some framing ∧ b = if framing = .empty then .blank else .frames

theorem balanced_new : ({} : Traffic).Balanced := by
  refine ⟨Relay.coherent_new, fun _ => rfl, ?_, fun _ => rfl, ?_, ?_, ?_⟩ <;> simp

namespace Balanced

variable {t t' : Traffic}

/-- The writer has handed over `taken`, and queued some frames of what it had gathered. -/
theorem sent {taken : Bytes} {sent : List Bytes} {relay : Relay} (h : t.Balanced)
    (hs : t.relay.Sent taken sent relay) :
    Balanced { t with relay, accepted := t.accepted ++ taken } := by
  have hf := hs.frame
  refine ⟨hs.coherent h.coherent, fun hd => ?_, h.received, ?_, ?_, ?_, ?_⟩
  · have hq : relay.queue = t.relay.queue ++ sent := by rw [hf]
    show t.received.flatten ++ relay.queue.flatten ++ relay.pending = t.accepted ++ taken
    calc t.received.flatten ++ relay.queue.flatten ++ relay.pending
      _ = t.received.flatten ++ t.relay.queue.flatten ++ (sent.flatten ++ relay.pending) := by
        rw [hq]; simp
      _ = t.received.flatten ++ t.relay.queue.flatten ++ t.relay.pending ++ taken := by
        rw [hs.bytes, List.append_assoc _ t.relay.pending]
      _ = t.accepted ++ taken := by rw [h.bytes hd]
  · show relay.headDue = true → t.framing = none
    rw [hf]; exact h.due
  · show ∀ framing, t.framing = some framing → framing ≠ .empty → relay.sending = !t.shut
    rw [hf]; exact h.sending
  · show ∀ head, relay.slot = .full head → t.framing = some head.framing
    rw [hf]; exact h.slot
  · show ∀ b, relay.hosted = some b → _
    rw [hf]; exact h.hosted

theorem flushed {relay : Relay} (h : t.Balanced) (hs : t.relay.sendPending = (.ready (.ok ()), relay)) :
    Balanced { t with relay } := by
  obtain ⟨sent, hs, -⟩ := Relay.sendPending_ok hs
  have hb := h.sent hs
  rwa [List.append_nil] at hb

/-- A writer that is done with the body, whether or not it goes on to exist. -/
theorem shutOff {headDue attached : Bool} (h : t.Balanced) (hd : headDue = true → t.relay.headDue = true) :
    Balanced { t with relay := { t.relay with headDue, attached, sending := false }, shut := true } := by
  have hc := h.coherent
  refine ⟨⟨hc.slot_of_hosted, hc.receiving_of_full, hc.receiving_of_frames, hc.held, hc.queue, hc.room,
    hc.frames, hc.pending, fun hdue => ⟨rfl, (hc.due (hd hdue)).2⟩⟩, h.bytes, h.received,
    fun hdue => h.due (hd hdue), fun _ _ _ => rfl, h.slot, h.hosted⟩

theorem writeHead {status : Status} {framing : Framing} {answer : Except Fault Unit} {relay : Relay}
    (h : t.Balanced) (hw : t.relay.writeHead status framing = (answer, relay)) :
    Balanced (t.after relay (.writeHead status framing) (.of (fun _ => .done) (.ready answer))) := by
  have hc := h.coherent
  cases hd : t.relay.headDue with
  | false =>
    rw [Relay.writeHead_of_not_due status framing hd] at hw
    cases hw
    exact h
  | true =>
    have hhosted := (hc.due hd).2.1
    cases hs : t.relay.slot with
    | given =>
      rw [Relay.writeHead_of_given status framing hd hs] at hw
      cases hw
      have hnone := h.due hd
      refine ⟨hc.headLost framing, h.bytes, h.received, (fun hd => by cases hd), ?_, h.slot, h.hosted⟩
      intro framing' hf
      have hf : t.framing = some framing' := hf
      rw [hnone] at hf
      cases hf
    | full head => exact absurd hs ((hc.due hd).2.2 head)
    | empty =>
      rw [Relay.writeHead_of_due status framing hd (by simp [hs])] at hw
      cases hw
      refine ⟨hc.withHead hs _, h.bytes, h.received, (fun hd => by cases hd), ?_, ?_, ?_⟩
      · intro framing' hf hne
        have hf : some framing = some framing' := hf
        cases hf
        show decide (framing ≠ .empty) = !false
        simp [hne]
      · intro head hfull
        have hfull : Slot.full _ = .full head := hfull
        cases hfull
        rfl
      · intro b hb
        have hb : t.relay.hosted = some b := hb
        rw [hhosted] at hb
        cases hb

theorem call (h : t.Balanced) (call : Relay.Call) : (t.call call).Balanced := by
  unfold Traffic.call
  cases call with
  | setHeaders headers =>
    exact ⟨h.coherent.setHeaders headers, h.bytes, h.received, h.due, h.sending, h.slot, h.hosted⟩
  | writeHead status framing =>
    rcases hw : t.relay.writeHead status framing with ⟨answer, relay⟩
    simp only [Relay.call, hw]
    exact h.writeHead hw
  | write bytes =>
    rcases hw : t.relay.write bytes with ⟨answer, relay⟩
    simp only [Relay.call, hw]
    match answer with
    | .ready (.ok n) =>
      obtain ⟨sent, hs, -⟩ := Relay.write_ok hw
      exact h.sent hs
    | .ready (.error fault) | .pending =>
      rw [Relay.write_idle hw (by simp)]
      exact h
  | flush =>
    rcases hw : t.relay.sendPending with ⟨answer, relay⟩
    simp only [Relay.call, hw]
    match answer with
    | .ready (.ok ()) => exact h.flushed hw
    | .ready (.error fault) | .pending =>
      rw [Relay.sendPending_idle hw (by simp)]
      exact h
  | shutdown =>
    rcases hw : t.relay.shutdown with ⟨answer, relay⟩
    simp only [Relay.call, hw]
    match answer with
    | .ready (.ok ()) =>
      obtain ⟨r₁, hs, rfl⟩ := Relay.shutdown_ok hw
      exact (h.flushed hs).shutOff id
    | .ready (.error fault) | .pending =>
      rw [Relay.shutdown_idle hw (by simp)]
      exact h

/-- The host has taken the frames `got`, or has dropped what is left. -/
theorem host {got : List Bytes} {relay : Relay} (dropped : Bool) (h : t.Balanced)
    (hs : t.relay.HostStep got relay)
    (hd : dropped = false → t.dropped = false ∧ got ++ relay.queue = t.relay.queue) :
    Balanced { t with relay, received := t.received ++ got, dropped } := by
  have hf := hs.frame
  refine ⟨hs.coherent, fun hn => ?_, ?_, ?_, ?_, ?_, ?_⟩
  · obtain ⟨hn, hq⟩ := hd hn
    have hp : relay.pending = t.relay.pending := by rw [hf]
    have hb := h.bytes hn
    rw [← hq, ← hp] at hb
    simpa using hb
  · intro frame hm
    rcases List.mem_append.1 hm with hm | hm
    · exact h.received frame hm
    · exact h.coherent.frames frame (hs.queue.subset (List.mem_append_left _ hm))
  · show relay.headDue = true → t.framing = none
    rw [hf]; exact h.due
  · show ∀ framing, t.framing = some framing → framing ≠ .empty → relay.sending = !t.shut
    rw [hf]; exact h.sending
  · intro head hfull
    rcases hs.slot with hslot | hslot
    · exact h.slot head (hslot ▸ hfull)
    · have hfull : relay.slot = .full head := hfull
      rw [hslot] at hfull
      cases hfull
  · intro b hb
    have hb : relay.hosted = some b := hb
    rcases hs.hosted with hb' | hb' | ⟨head, hfull, hb'⟩
    · exact h.hosted b (hb' ▸ hb)
    · rw [hb'] at hb
      cases hb
    · rw [hb'] at hb
      cases hb
      exact ⟨head.framing, h.slot head hfull, rfl⟩

theorem takeHead (h : t.Balanced) : Balanced { t with relay := t.relay.takeHead.2 } := by
  rcases ht : t.relay.takeHead with ⟨answer, relay⟩
  -- a host that is told that no head comes has turned away from an empty slot
  have hended (he : answer = .ended) : t.relay.slot = .empty ∧ relay = t.relay.dropHead := by
    subst he
    unfold Relay.takeHead at ht
    split at ht
    · cases ht
    · rename_i hs
      split at ht <;> cases ht
      exact ⟨hs, by simp [Relay.dropHead, hs]⟩
    · cases ht
  have hkeep {relay : Relay} (hs : t.relay.HostStep [] relay) (hq : relay.queue = t.relay.queue) :
      Balanced { t with relay } := by
    have hb := h.host t.dropped hs fun hn => ⟨hn, hq⟩
    rwa [List.append_nil] at hb
  cases answer with
  | arrived head =>
    obtain ⟨hfull, hs⟩ := h.coherent.hostStep_takeHead ht
    refine hkeep hs ?_
    unfold Relay.takeHead at ht
    rw [hfull] at ht
    cases ht
    rfl
  | ended =>
    obtain ⟨hs, rfl⟩ := hended rfl
    exact hkeep h.coherent.hostStep_dropHead (by simp [Relay.dropHead, hs])
  | pending | gone =>
    rw [Relay.takeHead_idle ht (by simp) (by simp)]
    exact h

theorem takeFrame (h : t.Balanced) : t.takeFrame.Balanced := by
  unfold Traffic.takeFrame
  split
  · rename_i frame relay ht
    refine h.host t.dropped (h.coherent.hostStep_takeFrame ht) fun hn => ⟨hn, ?_⟩
    unfold Relay.takeFrame at ht
    split at ht
    · cases ht
    · cases ht
    · split at ht
      · rename_i queue hq
        cases ht
        exact hq.symm
      · split at ht <;> cases ht
  · rename_i relay ha ht
    rw [Relay.takeFrame_idle ht ha]
    exact h

theorem dropHead (h : t.Balanced) : t.dropHead.Balanced := by
  unfold Traffic.dropHead
  have hb := h.host t.dropHead.dropped h.coherent.hostStep_dropHead fun hn => ?_
  · rwa [List.append_nil] at hb
  · unfold Traffic.dropHead at hn
    unfold Relay.dropHead
    cases hs : t.relay.slot with
    | full head => simp [hs] at hn
    | empty | given => simpa [hs] using hn

theorem dropBody (h : t.Balanced) : t.dropBody.Balanced := by
  unfold Traffic.dropBody
  have hb := h.host t.dropBody.dropped h.coherent.hostStep_dropBody fun hn => ?_
  · rwa [List.append_nil] at hb
  · unfold Traffic.dropBody at hn
    unfold Relay.dropBody
    cases hs : t.relay.hosted with
    | none => simpa [hs] using hn
    | some b => simp [hs] at hn

theorem step {move : Relay.Move} (h : t.Balanced) (hs : t.step? move = some t') : t'.Balanced := by
  cases move with
  | call call =>
    obtain ⟨-, hs⟩ := Option.ite_none_right_eq_some.1 hs
    cases hs
    exact h.call call
  | leave =>
    obtain ⟨-, hs⟩ := Option.ite_none_right_eq_some.1 hs
    cases hs
    exact h.shutOff (by simp)
  | takeHead =>
    cases hs
    exact h.takeHead
  | takeFrame =>
    cases hs
    exact h.takeFrame
  | dropHead =>
    cases hs
    exact h.dropHead
  | dropBody =>
    cases hs
    exact h.dropBody

theorem run {moves : List Relay.Move} (h : t.Balanced) (hr : t.run? moves = some t') : t'.Balanced := by
  induction moves generalizing t with
  | nil =>
    cases hr
    exact h
  | cons move moves ih =>
    simp only [run?, List.foldlM_cons, Option.bind_eq_bind, Option.bind_eq_some_iff] at hr
    obtain ⟨t₁, hs, hr⟩ := hr
    exact ih (h.step hs) hr

/-- A host that holds a body in frames finds its end behind the last frame, once the writer is done. -/
theorem ended_iff {framing : Framing} (h : t.Balanced) (hf : t.framing = some framing)
    (hne : framing ≠ .empty) (hb : t.relay.hosted.isSome = true) :
    t.relay.takeFrame.1 = .ended ↔ t.relay.queue = [] ∧ t.shut = true := by
  obtain ⟨b, hb⟩ := Option.isSome_iff_exists.1 hb
  obtain ⟨framing', hf', rfl⟩ := h.hosted b hb
  rw [hf] at hf'
  cases hf'
  have hsend := h.sending framing hf hne
  rw [if_neg hne] at hb
  unfold Relay.takeFrame
  rw [hb]
  dsimp only
  cases hq : t.relay.queue with
  | cons frame queue => simp
  | nil => cases hshut : t.shut <;> simp [hsend, hshut]

theorem length_held (h : t.Balanced) :
    (t.relay.queue.flatten ++ t.relay.pending).length ≤ 3 * Relay.frameLimit := by
  have hsum := Bytes.length_flatten_le fun frame hm => (h.coherent.frames frame hm).2
  have hroom : t.relay.queue.length * Relay.frameLimit ≤ 2 * Relay.frameLimit :=
    Nat.mul_le_mul_right _ h.coherent.room
  have hp := h.coherent.pending
  rw [List.length_append]
  omega

end Balanced

/-- What holds of a relay after any calls of its writer and any steps of its host. Nothing that was accepted is
lost, doubled or moved as long as the host drops no body; what is held back is bounded, and so are frames. A
write that is answered accepts what fits behind the bytes that it keeps, at least one byte of any; a call that
waits or is made out of turn changes nothing; a flush that succeeds leaves nothing gathered; and the host finds
the end of a body in frames just behind the last of them, and only when the writer is done. -/
theorem buffer_run {moves : List Relay.Move} {t : Traffic} (hr : ({} : Traffic).run? moves = some t) :
    (t.dropped = false → t.received.flatten ++ t.relay.queue.flatten ++ t.relay.pending = t.accepted) ∧
    t.relay.pending.length ≤ 16384 ∧
    (∀ frame ∈ t.received ++ t.relay.queue, 1 ≤ frame.length ∧ frame.length ≤ 16384) ∧
    t.relay.queue.length ≤ 2 ∧ (t.relay.queue.flatten ++ t.relay.pending).length ≤ 49152 ∧
    (∀ bytes n relay, t.relay.call (.write bytes) = (.accepted n, relay) →
      t.relay.kept.length < 16384 ∧ n = min bytes.length (16384 - t.relay.kept.length) ∧
      n ≤ bytes.length ∧ (bytes ≠ [] → 0 < n) ∧ relay.pending = t.relay.kept ++ bytes.take n) ∧
    (∀ call reply relay, t.relay.call call = (reply, relay) →
      reply = .waits ∨ reply = .failed (Fault.ofTransport .headNotSent) ∨
        reply = .failed (Fault.ofTransport .headAlreadySent) → relay = t.relay) ∧
    (∀ relay, t.relay.call .flush = (.done, relay) → relay.pending = []) ∧
    (∀ framing, t.framing = some framing → framing ≠ .empty → t.relay.hosted.isSome = true →
      (t.relay.takeFrame.1 = .ended ↔ t.relay.queue = [] ∧ t.shut = true)) := by
  have h := balanced_new.run hr
  refine ⟨h.bytes, h.coherent.pending, ?_, h.coherent.room, h.length_held, ?_, ?_, ?_, ?_⟩
  · intro frame hm
    have hframe : frame ≠ [] ∧ frame.length ≤ Relay.frameLimit := by
      rcases List.mem_append.1 hm with hm | hm
      · exact h.received frame hm
      · exact h.coherent.frames frame hm
    exact ⟨List.length_pos_iff.2 hframe.1, hframe.2⟩
  · intro bytes n relay hcall
    rcases hw : t.relay.write bytes with ⟨answer, relay'⟩
    simp only [Relay.call, hw] at hcall
    match answer with
    | .ready (.ok m) =>
      cases hcall
      obtain ⟨-, -, hle, hpos⟩ := Relay.write_ok hw
      obtain ⟨hn, hp⟩ := Relay.write_accepts hw
      exact ⟨t.relay.length_kept_lt, hn, hle, hpos, hp⟩
    | .ready (.error fault) | .pending => cases hcall
  · intro call reply relay hcall hreply
    refine Relay.call_idle hcall ?_
    rcases hreply with hreply | hreply | hreply
    · exact .inl hreply
    · exact .inr ⟨_, hreply, by decide⟩
    · exact .inr ⟨_, hreply, by decide⟩
  · intro relay hcall
    rcases hw : t.relay.sendPending with ⟨answer, relay'⟩
    simp only [Relay.call, hw] at hcall
    match answer with
    | .ready (.ok ()) =>
      cases hcall
      obtain ⟨-, -, hp⟩ := Relay.sendPending_ok hw
      exact hp
    | .ready (.error fault) | .pending => cases hcall
  · intro framing hf hne hb
    exact h.ended_iff hf hne hb

/-- Bytes written ahead of the head, and a shutdown behind the last of them. -/
theorem buffer_run_twoFrames :
    ∃ t, ({} : Traffic).run? [.call (.write [97, 98]), .call .flush, .call (.writeHead .ok .chunked), .call .flush,
        .takeHead, .call (.write [99]), .call .shutdown, .takeFrame, .takeFrame] = some t ∧
      t.accepted = [97, 98, 99] ∧
      t.received.flatten ++ t.relay.queue.flatten ++ t.relay.pending = t.accepted ∧
      t.relay.takeFrame.1 = .ended := by
  obtain ⟨t, hr, hfacts⟩ := (Option.any_eq_true (fun t : Traffic => decide (t.accepted = [97, 98, 99] ∧
    t.dropped = false ∧ t.framing = some .chunked ∧ t.relay.hosted.isSome = true ∧ t.relay.queue = [] ∧
    t.shut = true)) (({} : Traffic).run? [.call (.write [97, 98]), .call .flush,
      .call (.writeHead .ok .chunked), .call .flush, .takeHead, .call (.write [99]), .call .shutdown,
      .takeFrame, .takeFrame])).1 (by decide +kernel)
  obtain ⟨ha, hd, hf, hb, hq, hshut⟩ := of_decide_eq_true hfacts
  obtain ⟨hbytes, -, -, -, -, -, -, -, hended⟩ := buffer_run hr
  exact ⟨t, hr, ha, hbytes hd, (hended .chunked hf (by simp) hb).2 ⟨hq, hshut⟩⟩

end Traffic

end Courier
