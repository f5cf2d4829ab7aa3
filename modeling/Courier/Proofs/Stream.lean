import Courier.Transfer.Producer

/-!
# A live stream between its producer and its reader

`Channel.Fed` relates a channel whose reader is there to the producer that feeds it: the chunks accepted
so far, the one that waits, and those not yet sent are all the chunks, in this order. The producer's
steps move the borders (`Fed.step`); a read takes bytes off the front and meets the end only when the
producer has stopped (`Fed.read`).
-/

namespace Courier

/-- Of the chunks that a producer sends, those that were accepted: all but those left and the one that
is on its way. -/
def Producer.accepted (p : Producer) (chunks : List Bytes) : List Bytes :=
  chunks.take (chunks.length - p.rest.length - p.sending.toList.length)

namespace Channel

structure Fed (ch : Channel) (p : Producer) (chunks accepted : List Bytes) : Prop where
  once : p.again = []
  split : accepted ++ ch.waiting.map (·.2) ++ p.rest = chunks
  sending : ch.waiting.map (·.1) = p.sending.toList
  writers : ∃ others, ch.writers = (!p.stopped) :: others ∧ others.any id = false
  stopped : p.stopped = true → p.sending = none ∧ p.rest = []
  reading : ch.reading = true
  queue : ∀ chunk ∈ ch.queue, chunk ≠ []

theorem offered_new : Offered {} := ⟨rfl, rfl, ⟨[], rfl, rfl⟩, nofun⟩

theorem Offered.fed {ch : Channel} (h : ch.Offered) (chunks : List Bytes) : ch.Fed { rest := chunks } chunks [] where
  once := rfl
  split := by rw [h.waiting]; rfl
  sending := by rw [h.waiting]; rfl
  writers := h.writers
  stopped := nofun
  reading := h.reading
  queue := h.queue

/-- The chunks as they are queued: an empty one never is. -/
def solid (chunks : List Bytes) : List Bytes := chunks.filter fun chunk => !chunk.isEmpty

theorem flatten_solid (chunks : List Bytes) : (solid chunks).flatten = chunks.flatten := by
  induction chunks with
  | nil => rfl
  | cons chunk chunks ih =>
    cases chunk with
    | nil => simpa [solid] using ih
    | cons b chunk => simpa [solid] using ih

/-- A send that waits alone is completed when its chunk is empty or the queue has room. -/
theorem settle_single {ch ch' : Channel} {number : Nat} {chunk : Bytes} {done : List (Nat × SendResult)}
    (hw : ch.waiting = [(number, chunk)]) (hr : ch.reading = true) (hs : ch.settle = (done, ch')) :
    done = [(number, .sent)] ∧ ch' = { ch with queue := ch.queue ++ solid [chunk], waiting := [] } ∨
      done = [] ∧ ch' = ch ∧ capacity ≤ ch.queue.length := by
  unfold settle at hs
  rw [if_pos hr, hw] at hs
  simp only [enqueue] at hs
  split at hs
  · rename_i he
    cases hs
    exact .inl ⟨rfl, by simp [solid, he]⟩
  rename_i he
  split at hs
  · cases hs
    exact .inl ⟨rfl, by simp [solid, he]⟩
  · rename_i hq
    cases hs
    exact .inr ⟨rfl, by simp [← hw], Nat.le_of_not_lt hq⟩

/-- A read has to wait just when nothing is there and someone is left to send. -/
theorem read_pending_iff (ch : Channel) (room : Nat) :
    (ch.read room).1 = .pending ↔ ch.current = [] ∧ ch.queue = [] ∧ ch.hasWriters = true := by
  unfold read
  split
  · rename_i hc hq
    cases ch.hasWriters <;> simp [hc, hq]
  · rename_i chunk queue hc hq
    simp [hq]
  · rename_i hn hc
    constructor
    · intro h
      cases h
    · rintro ⟨h0, hq, -⟩
      exact absurd hq (hn h0)

/-- A read with room yields nothing just when nothing is there and nobody is left to send. -/
theorem read_nil_iff {ch : Channel} {room : Nat} (hqueue : ∀ chunk ∈ ch.queue, chunk ≠ []) (hr : 0 < room) :
    (ch.read room).1 = .ready [] ↔ (ch.current = [] ∧ ch.queue = []) ∧ ch.hasWriters = false := by
  have hroom : room ≠ 0 := by omega
  unfold read
  split
  · rename_i hc hq
    cases ch.hasWriters <;> simp [hc, hq]
  · rename_i chunk queue hc hq
    have hne := hqueue chunk (by simp [hq])
    simp [hc, hq, List.take_eq_nil_iff, hne, hroom]
  · rename_i hn hc
    have hcurrent : ch.current ≠ [] := by
      intro h0
      cases hq : ch.queue with
      | nil => exact hn h0 hq
      | cons chunk queue => exact hc chunk queue h0 hq
    simp [List.take_eq_nil_iff, hcurrent, hroom]

/-- A read that meets the end changes nothing. -/
theorem read_end {ch ch' : Channel} {room : Nat} (hqueue : ∀ chunk ∈ ch.queue, chunk ≠ []) (hr : 0 < room)
    (hs : ch.read room = (.ready [], ch')) :
    ch' = ch ∧ ch.current = [] ∧ ch.queue = [] ∧ ch.hasWriters = false := by
  obtain ⟨⟨hc, hq⟩, hw⟩ := (read_nil_iff hqueue hr).1 (congrArg Prod.fst hs)
  simp only [read, hc, hq, hw] at hs
  cases hs
  exact ⟨rfl, hc, hq, hw⟩

namespace Fed

variable {ch ch' : Channel} {p p' : Producer} {chunks accepted : List Bytes}

theorem accepted_eq (h : ch.Fed p chunks accepted) : p.accepted chunks = accepted := by
  have hl : ch.waiting.length = p.sending.toList.length := by
    simpa using congrArg List.length h.sending
  have hn : chunks.length - p.rest.length - p.sending.toList.length = accepted.length := by
    rw [← h.split, ← hl]
    simp only [List.length_append, List.length_map]
    omega
  rw [Producer.accepted, hn, ← h.split, List.append_assoc]
  exact List.take_left

theorem waiting_of_none (h : ch.Fed p chunks accepted) (hs : p.sending = none) : ch.waiting = [] := by
  have := h.sending
  rw [hs] at this
  simpa using this

theorem waiting_of_some {number : Nat} (h : ch.Fed p chunks accepted) (hs : p.sending = some number) :
    ∃ chunk, ch.waiting = [(number, chunk)] := by
  have := h.sending
  rw [hs] at this
  obtain ⟨⟨n, chunk⟩, hw, hn⟩ := List.map_eq_singleton_iff.1 this
  exact ⟨chunk, by rw [hw, ← hn]⟩

/-- A producer that has stopped has had all its chunks accepted. -/
theorem accepted_of_stopped (h : ch.Fed p chunks accepted) (hs : p.stopped = true) : accepted = chunks := by
  obtain ⟨hn, hr⟩ := h.stopped hs
  rw [← h.split, h.waiting_of_none hn, hr]
  simp

theorem step (h : ch.Fed p chunks accepted) (hs : p.step? ch = some (p', ch')) :
    ∃ new, ch'.Fed p' chunks (accepted ++ new) ∧ ch'.queue = ch.queue ++ solid new ∧
      ch'.current = ch.current := by
  unfold Producer.step? at hs
  split at hs
  · cases hs
  rename_i hp
  have hp : p.stopped = false := by simpa using hp
  split at hs
  · rename_i number _ hsend
    obtain ⟨chunk, hw⟩ := h.waiting_of_some hsend
    rcases he : ch.settle with ⟨done, ch₁⟩
    rw [he] at hs
    rcases settle_single hw h.reading he with ⟨rfl, rfl⟩ | ⟨rfl, rfl, -⟩
    · simp only [List.lookup_cons_self] at hs
      cases hs
      refine ⟨[chunk], ⟨h.once, ?_, rfl, h.writers, fun h => ?_, h.reading, fun c hc => ?_⟩, rfl, rfl⟩
      · rw [← h.split, hw]; simp
      · simp [hp] at h
      · rcases List.mem_append.1 hc with hc | hc
        · exact h.queue c hc
        · simpa [solid] using (List.mem_filter.1 hc).2
    · cases hs
  · rename_i chunk rest hsend hrest
    cases hs
    refine ⟨[], ⟨h.once, ?_, ?_, h.writers, fun h => ?_, h.reading, h.queue⟩, by simp [send, solid], rfl⟩
    · rw [← h.split, hrest]; simp [send]
    · simp [send, h.waiting_of_none hsend]
    · simp [hp] at h
  · rename_i hsend hrest
    rw [h.once] at hs
    cases hs
    refine ⟨[], ⟨rfl, ?_, h.sending, ?_, fun _ => ⟨hsend, hrest⟩, h.reading, h.queue⟩, ?_, rfl⟩
    · rw [← h.split]; simp [closeWriter]
    · obtain ⟨others, hw, hclosed⟩ := h.writers
      exact ⟨others, by simp [closeWriter, hw], hclosed⟩
    · simp [closeWriter, solid]

/-- A producer that has not stopped waits only for room in the queue. -/
theorem step_of_room (h : ch.Fed p chunks accepted) (hp : p.stopped = false)
    (hq : ch.queue.length < capacity) : ∃ p' ch', p.step? ch = some (p', ch') := by
  unfold Producer.step?
  rw [hp]
  cases hsend : p.sending with
  | some number =>
    obtain ⟨chunk, hw⟩ := h.waiting_of_some hsend
    rcases he : ch.settle with ⟨done, ch₁⟩
    rcases settle_single hw h.reading he with ⟨rfl, rfl⟩ | ⟨-, -, hl⟩
    · simp
    · exact absurd hl (by omega)
  | none =>
    cases hrest : p.rest with
    | cons chunk rest => simp
    | nil => simp [h.once]

theorem hasWriters (h : ch.Fed p chunks accepted) (hw : ch.hasWriters = false) : p.stopped = true := by
  obtain ⟨others, hwriters, -⟩ := h.writers
  unfold Channel.hasWriters at hw
  rw [hwriters, List.any_cons] at hw
  simpa using (Bool.or_eq_false_iff.1 (Bool.or_eq_false_iff.1 hw).1).1

/-- A read with room takes bytes off the front, or meets the end of the stream. -/
theorem read {room : Nat} {bytes : Bytes} (h : ch.Fed p chunks accepted) (hr : 0 < room)
    (hs : ch.read room = (.ready bytes, ch')) :
    ch'.Fed p chunks accepted ∧
      bytes ++ ch'.current ++ ch'.queue.flatten = ch.current ++ ch.queue.flatten ∧
      (bytes = [] → ch.current = [] ∧ ch.queue = [] ∧ p.stopped = true) := by
  have hend : bytes = [] → ch.current = [] ∧ ch.queue = [] ∧ p.stopped = true := by
    rintro rfl
    obtain ⟨-, hc, hq, hw⟩ := read_end h.queue hr hs
    exact ⟨hc, hq, h.hasWriters hw⟩
  unfold Channel.read at hs
  split at hs
  · split at hs <;> cases hs
    exact ⟨h, by simp, hend⟩
  · rename_i chunk queue hc hq
    cases hs
    have hm := h.queue
    rw [hq] at hm
    exact ⟨⟨h.once, h.split, h.sending, h.writers, h.stopped, h.reading, fun c hc => hm c (by simp [hc])⟩,
      by simp [hc, hq], hend⟩
  · cases hs
    exact ⟨⟨h.once, h.split, h.sending, h.writers, h.stopped, h.reading, h.queue⟩, by simp, hend⟩

/-- A read has to wait only while the producer goes on. -/
theorem read_pending {room : Nat} (h : ch.Fed p chunks accepted) (hs : ch.read room = (.pending, ch')) :
    ch' = ch ∧ ch.queue = [] ∧ p.stopped = false := by
  unfold Channel.read at hs
  split at hs
  · rename_i hc hq
    split at hs
    · rename_i hw
      cases hs
      refine ⟨rfl, hq, ?_⟩
      cases hp : p.stopped with
      | false => rfl
      | true =>
        obtain ⟨hn, -⟩ := h.stopped hp
        obtain ⟨others, hwriters, hclosed⟩ := h.writers
        simp [Channel.hasWriters, hwriters, hclosed, hp, h.waiting_of_none hn] at hw
    · cases hs
  · cases hs
  · cases hs

end Fed

end Channel

end Courier
