import Courier.Sink.Relay

/-!
# The two sides of a relay

`Relay.Coherent` is what holds of a relay whatever writer and host do to it, in any order: frames are
queued only towards a host that can still receive them, and head, body and queue agree on whether it
can. `Relay.Sent` says what the writer's operations do to the bytes under way (nothing is lost between
the bytes gathered and the frames queued), `Relay.HostStep` what the host's operations leave alone.
-/

namespace Courier

namespace Relay

/-- Whether the host may still get the body: it has dropped neither the head nor the body. -/
def isHeld (r : Relay) : Bool := r.slot ≠ .given || r.hosted.isSome

structure Coherent (r : Relay) : Prop where
  slot_of_hosted : r.hosted.isSome = true → r.slot = .given
  receiving_of_full : ∀ head, r.slot = .full head → r.receiving = decide (head.framing ≠ .empty)
  receiving_of_frames : r.hosted = some .frames → r.receiving = true
  held : r.receiving = true → (∃ head, r.slot = .full head) ∨ r.hosted = some .frames
  queue : r.receiving = false → r.queue = []
  room : r.queue.length ≤ queueLimit
  frames : ∀ frame ∈ r.queue, frame ≠ [] ∧ frame.length ≤ frameLimit
  pending : r.pending.length ≤ frameLimit
  due : r.headDue = true → r.sending = false ∧ r.hosted = none ∧ ∀ head, r.slot ≠ .full head

theorem coherent_new : ({} : Relay).Coherent := by
  constructor <;> simp

theorem Coherent.isHeld_of_receiving {r : Relay} (h : r.Coherent) (hr : r.receiving = true) :
    r.isHeld = true := by
  rcases h.held hr with ⟨head, hs⟩ | hb
  · simp [isHeld, hs]
  · simp [isHeld, hb]

/-! ### The writer -/

/-- The writer has handed over `taken` and queued `sent`, and the bytes in between are `pending`. -/
structure Sent (r : Relay) (taken : Bytes) (sent : List Bytes) (r' : Relay) : Prop where
  frame : r' = { r with queue := r.queue ++ sent, pending := r'.pending }
  bytes : sent.flatten ++ r'.pending = r.pending ++ taken
  receiving : sent ≠ [] → r.receiving = true
  coherent : r.Coherent → r'.Coherent

/-- Why the writer cannot send what it has gathered. -/
structure Refused (r : Relay) (fault : Fault) : Prop where
  pending : r.pending ≠ []
  cause : r.sending = false ∧ fault = Fault.ofTransport .headNotSent ∨
    r.sending = true ∧ r.receiving = false ∧ fault = Fault.ofTransport .bodyDropped

variable {r r' : Relay} {bytes : Bytes} {fault : Fault} {n : Nat}

theorem sendPending_ok (h : r.sendPending = (.ready (.ok ()), r')) :
    ∃ sent, r.Sent [] sent r' ∧ r'.pending = [] := by
  unfold sendPending at h
  split at h
  · rename_i hp
    cases h
    have hp : r.pending = [] := List.isEmpty_iff.1 hp
    exact ⟨[], ⟨by simp, by simp [hp], by simp, id⟩, hp⟩
  rename_i hp
  split at h
  · cases h
  split at h
  · cases h
  split at h
  · cases h
  · rename_i hs hr hq
    cases h
    have hr : r.receiving = true := by simpa using hr
    refine ⟨[r.pending], ⟨rfl, by simp, fun _ => hr, fun hc => ?_⟩, rfl⟩
    refine ⟨hc.slot_of_hosted, hc.receiving_of_full, hc.receiving_of_frames, hc.held, ?_, ?_, ?_, ?_,
      hc.due⟩
    · intro h; simp [hr] at h
    · simp only [List.length_append, List.length_singleton]; omega
    · intro f hf
      rcases List.mem_append.1 hf with hf | hf
      · exact hc.frames f hf
      · rw [List.mem_singleton.1 hf]
        exact ⟨by simpa using hp, hc.pending⟩
    · simp

theorem sendPending_error (h : r.sendPending = (.ready (.error fault), r')) :
    r.Refused fault ∧ r' = r := by
  unfold sendPending at h
  split at h
  · cases h
  rename_i hp
  split at h
  · rename_i hs
    cases h
    exact ⟨⟨by simpa using hp, .inl ⟨by simpa using hs, rfl⟩⟩, rfl⟩
  rename_i hs
  split at h
  · rename_i hr
    cases h
    exact ⟨⟨by simpa using hp, .inr ⟨by simpa using hs, by simpa using hr, rfl⟩⟩, rfl⟩
  split at h <;> cases h

/-- The writer waits only for the host to take a frame off a full queue. -/
theorem sendPending_pending (h : r.sendPending = (.pending, r')) :
    queueLimit ≤ r.queue.length ∧ r.receiving = true := by
  unfold sendPending at h
  split at h
  · cases h
  split at h
  · cases h
  split at h
  · cases h
  rename_i hr
  split at h
  · rename_i hq
    exact ⟨hq, by simpa using hr⟩
  · cases h

theorem sent_gather (r : Relay) (bytes : Bytes) :
    r.Sent (bytes.take (r.gather bytes).1) [] (r.gather bytes).2 := by
  refine ⟨by simp [gather], by simp [gather], by simp, fun hc => ?_⟩
  refine ⟨hc.slot_of_hosted, hc.receiving_of_full, hc.receiving_of_frames, hc.held, hc.queue, hc.room,
    hc.frames, ?_, hc.due⟩
  have := hc.pending
  simp only [gather, List.length_append, List.length_take]
  omega

theorem gather_le (r : Relay) (bytes : Bytes) : (r.gather bytes).1 ≤ bytes.length := by
  simp only [gather, List.length_take]; omega

theorem gather_pos (hb : bytes ≠ []) (hp : r.pending.length < frameLimit) : 0 < (r.gather bytes).1 := by
  have := List.length_pos_iff.2 hb
  simp only [gather, List.length_take]; omega

theorem Sent.trans {r₁ r₂ r₃ : Relay} {t₁ t₂ : Bytes} {s₁ s₂ : List Bytes} (h₁ : r₁.Sent t₁ s₁ r₂)
    (h₂ : r₂.Sent t₂ s₂ r₃) : r₁.Sent (t₁ ++ t₂) (s₁ ++ s₂) r₃ := by
  refine ⟨?_, ?_, fun hs => ?_, fun hc => h₂.coherent (h₁.coherent hc)⟩
  · rw [h₂.frame, h₁.frame]; simp
  · rw [List.flatten_append, List.append_assoc, h₂.bytes, ← List.append_assoc, h₁.bytes, List.append_assoc]
  · by_cases h : s₁ = []
    · have := h₂.receiving (by simpa [h] using hs)
      rwa [h₁.frame] at this
    · exact h₁.receiving h

theorem write_ok (h : r.write bytes = (.ready (.ok n), r')) :
    ∃ sent, r.Sent (bytes.take n) sent r' ∧ n ≤ bytes.length ∧ (bytes ≠ [] → 0 < n) := by
  unfold write at h
  split at h
  · split at h
    · rename_i r₁ hs
      cases h
      obtain ⟨sent, hsent, hp⟩ := sendPending_ok hs
      refine ⟨sent, ?_, gather_le .., fun hb => gather_pos hb (by simp [hp, frameLimit])⟩
      have hall := hsent.trans (sent_gather r₁ bytes)
      rwa [List.nil_append, List.append_nil] at hall
    all_goals cases h
  · rename_i hp
    cases h
    exact ⟨[], sent_gather r bytes, gather_le .., fun hb => gather_pos hb (Nat.lt_of_not_le hp)⟩

theorem write_error (h : r.write bytes = (.ready (.error fault), r')) : r.Refused fault ∧ r' = r := by
  unfold write at h
  split at h
  · split at h
    · cases h
    · rename_i hs
      cases h; exact sendPending_error hs
    · cases h
  · cases h

theorem write_pending (h : r.write bytes = (.pending, r')) :
    queueLimit ≤ r.queue.length ∧ r.receiving = true := by
  unfold write at h
  split at h
  · split at h
    · cases h
    · cases h
    · rename_i hs
      exact sendPending_pending hs
  · cases h

/-- The relay with the head on its way. -/
def withHead (r : Relay) (head : Head) : Relay :=
  { r with
    headDue := false
    headers := []
    sending := head.framing ≠ .empty
    slot := .full head
    receiving := head.framing ≠ .empty }

/-- The head that a relay makes of its header set. -/
def headOf (r : Relay) (status : Status) (framing : Framing) : Head where
  status
  headers := match framing with
    | .length n => r.headers.insert .contentLength (Bytes.ofString (toString n))
    | _ => r.headers
  framing

theorem writeHead_of_due (status : Status) (framing : Framing) (hd : r.headDue = true)
    (hs : r.slot ≠ .given) : r.writeHead status framing = (.ok (), r.withHead (r.headOf status framing)) := by
  unfold writeHead
  cases hslot : r.slot with
  | given => exact absurd hslot hs
  | empty | full => cases framing <;> simp [hd, withHead, headOf]

/-- The relay whose head nobody wants. -/
def headLost (r : Relay) (framing : Framing) : Relay :=
  { r with headDue := false, headers := [], sending := framing ≠ .empty }

theorem writeHead_of_given (status : Status) (framing : Framing) (hd : r.headDue = true)
    (hs : r.slot = .given) :
    r.writeHead status framing = (.error (Fault.ofTransport .bodyDropped), r.headLost framing) := by
  cases framing <;> simp [writeHead, headLost, hd, hs]

theorem writeHead_of_not_due (status : Status) (framing : Framing) (hd : r.headDue = false) :
    r.writeHead status framing = (.error (Fault.ofTransport .headAlreadySent), r) := by
  simp [writeHead, hd]

namespace Coherent

theorem setHeaders (h : r.Coherent) (headers : Headers) : Coherent { r with headers } :=
  ⟨h.slot_of_hosted, h.receiving_of_full, h.receiving_of_frames, h.held, h.queue, h.room, h.frames,
    h.pending, h.due⟩

theorem withHead (h : r.Coherent) (hs : r.slot = .empty) (head : Head) : (r.withHead head).Coherent := by
  have hb : r.hosted = none := by
    cases hb : r.hosted with
    | none => rfl
    | some b => exact absurd (h.slot_of_hosted (by simp [hb])) (by simp [hs])
  have hr : r.receiving = false := by
    cases hr : r.receiving with
    | false => rfl
    | true => rcases h.held hr with ⟨_, hf⟩ | hf <;> simp [hs, hb] at hf
  refine ⟨?_, ?_, ?_, ?_, fun _ => h.queue hr, h.room, h.frames, h.pending, ?_⟩ <;>
    simp [Relay.withHead, hb]

theorem headLost (h : r.Coherent) (framing : Framing) : (r.headLost framing).Coherent :=
  ⟨h.slot_of_hosted, h.receiving_of_full, h.receiving_of_frames, h.held, h.queue, h.room, h.frames,
    h.pending, by simp [Relay.headLost]⟩

theorem detach (h : r.Coherent) : r.detach.Coherent :=
  ⟨h.slot_of_hosted, h.receiving_of_full, h.receiving_of_frames, h.held, h.queue, h.room, h.frames,
    h.pending, by simp [Relay.detach]⟩

end Coherent

/-! ### The host -/

/-- What one step of the host may change: it takes the frames `got` off the queue, or drops what is
left. What belongs to the writer stays. -/
structure HostStep (r : Relay) (got : List Bytes) (r' : Relay) : Prop where
  frame : r' = { r with
    slot := r'.slot, receiving := r'.receiving, queue := r'.queue, hosted := r'.hosted
    outcome := r'.outcome }
  queue : got ++ r'.queue <+: r.queue
  held : r'.isHeld = true → r.isHeld = true ∧ got ++ r'.queue = r.queue
  slot : r'.slot = r.slot ∨ r'.slot = .given
  hosted : r'.hosted = r.hosted ∨ r'.hosted = none ∨ ∃ head, r.slot = .full head ∧
    r'.hosted = some (if head.framing = .empty then .blank else .frames)
  coherent : r'.Coherent

namespace Coherent

theorem hosted_of_slot (h : r.Coherent) (hs : r.slot ≠ .given) : r.hosted = none := by
  cases hb : r.hosted with
  | none => rfl
  | some b => exact absurd (h.slot_of_hosted (by simp [hb])) hs

/-- The host turns away from the slot, and the queue with it if the queue came through the slot. -/
theorem turnAway (h : r.Coherent) (hs : r.slot ≠ .given) :
    Coherent { r with slot := .given, receiving := false, queue := [] } := by
  have hb := h.hosted_of_slot hs
  refine ⟨by simp, by simp, by simp [hb], by simp, by simp, by simp, by simp, h.pending, fun hd => ?_⟩
  exact ⟨(h.due hd).1, hb, by simp⟩

theorem receiving_of_empty (h : r.Coherent) (hs : r.slot = .empty) : r.receiving = false := by
  have hb := h.hosted_of_slot (by simp [hs])
  cases hr : r.receiving with
  | false => rfl
  | true => rcases h.held hr with ⟨_, hf⟩ | hf <;> simp [hs, hb] at hf

theorem hostStep_refl (h : r.Coherent) : r.HostStep [] r :=
  ⟨rfl, by simp, fun hh => ⟨hh, rfl⟩, .inl rfl, .inl rfl, h⟩

theorem hostStep_dropHead (h : r.Coherent) : r.HostStep [] r.dropHead := by
  unfold Relay.dropHead
  split
  · exact h.hostStep_refl
  · rename_i hs
    have hb := h.hosted_of_slot (by simp [hs])
    have hr := h.receiving_of_empty hs
    have hc := h.turnAway (by simp [hs])
    rw [← h.queue hr, ← hr] at hc
    exact ⟨rfl, by simp, by simp [isHeld, hb], .inr rfl, .inl rfl, hc⟩
  · rename_i head hs
    have hb := h.hosted_of_slot (by simp [hs])
    exact ⟨rfl, by simp, by simp [isHeld, hb], .inr rfl, .inl rfl, h.turnAway (by simp [hs])⟩

theorem hostStep_dropBody (h : r.Coherent) : r.HostStep [] r.dropBody := by
  unfold Relay.dropBody
  split
  · exact h.hostStep_refl
  · rename_i b hb
    have hs := h.slot_of_hosted (by simp [hb])
    refine ⟨rfl, by simp, by simp [isHeld, hs], .inl rfl, .inr (.inl rfl), ?_⟩
    exact ⟨by simp, by simp [hs], by simp, by simp, by simp, by simp, by simp, h.pending,
      fun hd => ⟨(h.due hd).1, rfl, (h.due hd).2.2⟩⟩

theorem hostStep_takeHead {head : Head} (h : r.Coherent) (ht : r.takeHead = (.arrived head, r')) :
    r.slot = .full head ∧ r.HostStep [] r' := by
  unfold takeHead at ht
  split at ht
  · cases ht
  · split at ht <;> cases ht
  rename_i hs
  cases ht
  have hr := h.receiving_of_full _ hs
  refine ⟨hs, rfl, by simp, fun _ => ⟨by simp [isHeld, hs], rfl⟩, .inr rfl, .inr (.inr ⟨_, hs, rfl⟩), ?_⟩
  refine ⟨by simp, by simp, fun hb => ?_, fun hr' => .inr ?_, h.queue, h.room, h.frames, h.pending, ?_⟩
  · by_cases hf : head.framing = .empty
    · simp [hf] at hb
    · simp [hr, hf]
  · have hf : head.framing ≠ .empty := by rw [hr] at hr'; simpa using hr'
    simp [hf]
  · exact fun hd => absurd hs ((h.due hd).2.2 head)

theorem hostStep_takeFrame {frame : Bytes} (h : r.Coherent)
    (ht : r.takeFrame = (.arrived frame, r')) : r.HostStep [frame] r' := by
  unfold takeFrame at ht
  split at ht
  · cases ht
  · cases ht
  rename_i hb
  split at ht
  · rename_i queue hq
    cases ht
    have hm := h.frames
    have hl := h.room
    rw [hq] at hm hl
    refine ⟨rfl, by simp [hq], fun _ => ⟨by simp [isHeld, hb], by simp [hq]⟩, .inl rfl, .inl rfl, ?_⟩
    refine ⟨h.slot_of_hosted, h.receiving_of_full, h.receiving_of_frames, h.held, fun hr => ?_, ?_,
      fun f hf => hm f (by simp [hf]), h.pending, h.due⟩
    · have := h.receiving_of_frames hb
      simp [this] at hr
    · exact Nat.le_of_succ_le hl
  · split at ht <;> cases ht

theorem hostStep_outcome (h : r.Coherent) (outcome : Outcome) : r.HostStep [] { r with outcome } :=
  ⟨rfl, by simp, fun hh => ⟨hh, rfl⟩, .inl rfl, .inl rfl, h.slot_of_hosted, h.receiving_of_full,
    h.receiving_of_frames, h.held, h.queue, h.room, h.frames, h.pending, h.due⟩

end Coherent

theorem takeHead_idle {answer : Arrival Head} (h : r.takeHead = (answer, r'))
    (ha : ∀ head, answer ≠ .arrived head) (he : answer ≠ .ended) : r' = r := by
  unfold takeHead at h
  split at h
  · cases h; rfl
  · split at h
    · cases h; rfl
    · cases h; exact absurd rfl he
  · rename_i head hs
    cases h; exact absurd rfl (ha head)

theorem takeHead_ended (h : r.takeHead = (.ended, r')) : r'.dropHead = r.dropHead := by
  unfold takeHead at h
  split at h
  · cases h
  · rename_i hs
    split at h <;> cases h
    simp [dropHead, hs]
  · cases h

theorem takeFrame_idle {answer : Arrival Bytes} (h : r.takeFrame = (answer, r'))
    (ha : ∀ frame, answer ≠ .arrived frame) : r' = r := by
  unfold takeFrame at h
  split at h
  · cases h; rfl
  · cases h; rfl
  · split at h
    · rename_i frame queue hq
      cases h; exact absurd rfl (ha frame)
    · cases h; rfl

theorem outcome_takeHead (r : Relay) : r.takeHead.2.outcome = r.outcome := by
  unfold takeHead
  split
  · rfl
  · split <;> rfl
  · rfl

theorem outcome_takeFrame (r : Relay) : r.takeFrame.2.outcome = r.outcome := by
  unfold takeFrame
  split
  · rfl
  · rfl
  · split <;> rfl

theorem outcome_dropHead (r : Relay) : r.dropHead.outcome = r.outcome := by
  unfold dropHead; split <;> rfl

theorem outcome_dropBody (r : Relay) : r.dropBody.outcome = r.outcome := by
  unfold dropBody; split <;> rfl

/-- A host that has dropped everything holds nothing. -/
theorem isHeld_drop (r : Relay) : r.dropHead.dropBody.isHeld = false := by
  have hs : r.dropHead.slot = .given := by
    unfold dropHead; split <;> first | assumption | rfl
  unfold dropBody
  split
  · rename_i hb
    simp [isHeld, hs, hb]
  · simp [isHeld, hs]

theorem HostStep.trans {r₁ r₂ r₃ : Relay} {got₁ got₂ : List Bytes} (h₁ : r₁.HostStep got₁ r₂)
    (h₂ : r₂.HostStep got₂ r₃) : r₁.HostStep (got₁ ++ got₂) r₃ := by
  refine ⟨?_, ?_, fun hh => ?_, ?_, ?_, h₂.coherent⟩
  · rw [h₂.frame, h₁.frame]
  · obtain ⟨t₁, h₁⟩ := h₁.queue
    obtain ⟨t₂, h₂⟩ := h₂.queue
    exact ⟨t₂ ++ t₁, by rw [← h₁, ← h₂]; simp⟩
  · obtain ⟨hh, h₂⟩ := h₂.held hh
    obtain ⟨hh, h₁⟩ := h₁.held hh
    exact ⟨hh, by rw [← h₁, ← h₂]; simp⟩
  · rcases h₂.slot with hs | hs
    · rw [hs]; exact h₁.slot
    · exact .inr hs
  · rcases h₂.hosted with hb | hb | ⟨head, hs, hb⟩
    · rw [hb]; exact h₁.hosted
    · exact .inr (.inl hb)
    · rcases h₁.slot with hs' | hs'
      · exact .inr (.inr ⟨head, hs' ▸ hs, hb⟩)
      · simp [hs'] at hs

end Relay

end Courier
