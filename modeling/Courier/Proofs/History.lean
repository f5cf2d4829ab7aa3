import Courier.Payload.History
import Courier.Proofs.Stream
import Mathlib.Data.List.Nodup

/-!
# Live streams with any number of writers

`History.Ordered` splits the sends of chunks that are not empty at one place: the chunks before it were sent,
and those behind it wait. The chunks that were sent are split once more, into those that a read has begun and
those that are queued, and what was delivered ends inside the last one begun. Moves only shift these borders,
because sends are completed in the order in which they wait (`Channel.enqueue_eq`).
-/

namespace Courier

namespace Channel

/-- The sends that need room in the queue. -/
def heavy (sends : List (Nat × Bytes)) : List (Nat × Bytes) := sends.filter fun send => !send.2.isEmpty

theorem heavy_append (left right : List (Nat × Bytes)) : heavy (left ++ right) = heavy left ++ heavy right :=
  List.filter_append ..

theorem map_heavy (sends : List (Nat × Bytes)) : (heavy sends).map (·.2) = solid (sends.map (·.2)) :=
  by simp [heavy, solid, List.filter_map, Function.comp_def]

theorem heavy_eq_self {sends : List (Nat × Bytes)} (h : ∀ send ∈ sends, send.2 ≠ []) : heavy sends = sends :=
  List.filter_eq_self.2 fun send hm => by simp [h send hm]

theorem ne_nil_of_mem_heavy {sends : List (Nat × Bytes)} {send : Nat × Bytes} (h : send ∈ heavy sends) :
    send.2 ≠ [] := by
  simpa using (List.mem_filter.1 h).2

/-- Sends are completed oldest first while there is room; an empty chunk needs none. -/
theorem enqueue_eq (queue : List Bytes) (waiting : List (Nat × Bytes)) :
    (enqueue queue waiting).2 = (queue ++ ((heavy waiting).take (capacity - queue.length)).map (·.2),
      (heavy waiting).drop (capacity - queue.length)) ∧
    ∀ n, n ∈ (enqueue queue waiting).1 ↔ ∃ chunk, (n, chunk) ∈ waiting ∧
      (chunk = [] ∨ (n, chunk) ∈ (heavy waiting).take (capacity - queue.length)) := by
  induction waiting generalizing queue with
  | nil => simp [enqueue, heavy]
  | cons send rest ih =>
    obtain ⟨number, chunk⟩ := send
    rw [enqueue]
    by_cases he : chunk = []
    · subst he
      obtain ⟨hq, hd⟩ := ih queue
      have hheavy : heavy ((number, []) :: rest) = heavy rest := rfl
      simp only [List.isEmpty_nil, if_true, hheavy, hq, List.mem_cons, hd, true_and]
      intro n
      constructor
      · rintro (rfl | ⟨chunk, hm, hc⟩)
        · exact ⟨[], .inl rfl, .inl rfl⟩
        · exact ⟨chunk, .inr hm, hc⟩
      · rintro ⟨chunk, hm | hm, hc⟩
        · exact .inl (congrArg (·.1) hm)
        · exact .inr ⟨chunk, hm, hc⟩
    · have hheavy : heavy ((number, chunk) :: rest) = (number, chunk) :: heavy rest := by simp [heavy, he]
      rw [if_neg (by simpa using he), hheavy]
      by_cases hroom : queue.length < capacity
      · obtain ⟨hq, hd⟩ := ih (queue ++ [chunk])
        have hsub : capacity - queue.length = capacity - (queue ++ [chunk]).length + 1 := by
          rw [List.length_append, List.length_singleton]
          omega
        simp only [if_pos hroom, hsub, hq, List.take_succ_cons, List.drop_succ_cons, List.map_cons,
          List.append_assoc, List.singleton_append, List.mem_cons, hd, true_and]
        intro n
        constructor
        · rintro (rfl | ⟨c, hm, hc⟩)
          · exact ⟨chunk, .inl rfl, .inr (.inl rfl)⟩
          · exact ⟨c, .inr hm, hc.imp_right .inr⟩
        · rintro ⟨c, hm | hm, hc⟩
          · exact .inl (congrArg (·.1) hm)
          · rcases hc with hc | hc | hc
            · exact .inr ⟨c, hm, .inl hc⟩
            · exact .inl (congrArg (·.1) hc)
            · exact .inr ⟨c, hm, .inr hc⟩
      · obtain ⟨hq, hd⟩ := ih queue
        have hsub : capacity - queue.length = 0 := by omega
        rw [hsub] at hq hd
        simp only [if_neg hroom, hsub, hq, List.take_zero, List.drop_zero, List.map_nil, List.append_nil,
          List.mem_cons, hd, List.not_mem_nil, or_false, true_and]
        intro n
        constructor
        · rintro ⟨c, hm, hc⟩
          exact ⟨c, .inr hm, hc⟩
        · rintro ⟨c, hm | hm, hc⟩
          · cases hm
            exact absurd hc he
          · exact ⟨c, hm, hc⟩

theorem settle_of_reading {ch : Channel} (hr : ch.reading = true) :
    ∃ numbers : List Nat, ch.settle = (numbers.map (·, .sent), { ch with
        queue := ch.queue ++ ((heavy ch.waiting).take (capacity - ch.queue.length)).map (·.2)
        waiting := (heavy ch.waiting).drop (capacity - ch.queue.length) }) ∧
      ∀ n, n ∈ numbers ↔ ∃ chunk, (n, chunk) ∈ ch.waiting ∧
        (chunk = [] ∨ (n, chunk) ∈ (heavy ch.waiting).take (capacity - ch.queue.length)) := by
  obtain ⟨hq, hd⟩ := enqueue_eq ch.queue ch.waiting
  refine ⟨(enqueue ch.queue ch.waiting).1, ?_, hd⟩
  unfold settle
  rw [if_pos hr]
  simp only [hq]

/-- While every send needs room and there is none, an empty chunk is all that can be sent. -/
theorem enqueue_blocked {queue : List Bytes} {waiting : List (Nat × Bytes)} (number : Nat)
    (hw : ∀ send ∈ waiting, send.2 ≠ []) (hq : waiting ≠ [] → capacity ≤ queue.length) :
    enqueue queue (waiting ++ [(number, [])]) = ([number], queue, waiting) := by
  induction waiting with
  | nil => rfl
  | cons send rest ih =>
    have hfull := hq (by simp)
    have hrest := ih (fun s hs => hw s (by simp [hs])) fun _ => hfull
    have hne : send.2.isEmpty = false := by simpa using hw send (by simp)
    rw [List.cons_append, enqueue, hne, if_neg (by simp), if_neg (by omega), hrest]

/-- Sends that are completed leave the chunks in their order, the empty ones left out. -/
theorem queue_settle {ch ch' : Channel} {done : List (Nat × SendResult)} (hr : ch.reading = true)
    (hs : ch.settle = (done, ch')) : ch'.current = ch.current ∧
      ch'.queue ++ solid (ch'.waiting.map (·.2)) = ch.queue ++ solid (ch.waiting.map (·.2)) := by
  obtain ⟨numbers, he, -⟩ := settle_of_reading hr
  rw [hs] at he
  cases he
  generalize capacity - ch.queue.length = room
  -- only sends that need room go on waiting, so no empty chunk is among them
  have hdrop : solid (((heavy ch.waiting).drop room).map (·.2)) = ((heavy ch.waiting).drop room).map (·.2) := by
    rw [← map_heavy, heavy_eq_self fun send hm => ne_nil_of_mem_heavy (List.mem_of_mem_drop hm)]
  refine ⟨rfl, ?_⟩
  rw [hdrop, List.append_assoc, ← List.map_append, List.take_append_drop, map_heavy]

theorem settle_of_none_waiting {ch : Channel} (h : ch.waiting = []) : ch.settle = ([], ch) := by
  obtain ⟨queue, current, reading, writers, waiting, started⟩ := ch
  subst h
  cases reading <;> rfl

theorem waiting_of_hasWriters {ch : Channel} (h : ch.hasWriters = false) : ch.waiting = [] := by
  unfold hasWriters at h
  simpa using (Bool.or_eq_false_iff.1 h).2

theorem isOpen_of_hasWriters {ch : Channel} (h : ch.hasWriters = false) (writer : Nat) :
    ch.isOpen writer = false := by
  unfold hasWriters at h
  have hall := (Bool.or_eq_false_iff.1 h).1
  unfold isOpen
  rw [List.getD_eq_getElem?_getD]
  cases he : ch.writers[writer]? with
  | none => rfl
  | some b =>
    have hm := List.mem_of_getElem? he
    simpa using List.any_eq_false.1 hall b hm

end Channel

namespace Channel.History

/-- A flow whose body is there. `done` are the sends of chunks that are not empty and that were sent, `begun`
the chunks of them that reads have begun. -/
structure Ordered (s : History) (done : List (Nat × Bytes)) (begun : List Bytes) : Prop where
  reading : s.channel.reading = true
  numbers : (s.sends.map (·.1)).Nodup
  started : ∀ send ∈ s.sends, send.1 < s.channel.started
  waiting : (s.channel.waiting.map (·.1)).Nodup ∧ s.channel.waiting ⊆ s.sends
  split : heavy s.sends = done ++ heavy s.channel.waiting
  results : ∀ n result, (n, result) ∈ s.results ↔
    result = .sent ∧ n ∈ s.sends.map (·.1) ∧ n ∉ s.channel.waiting.map (·.1)
  queue : done.map (·.2) = begun ++ s.channel.queue
  bytes : s.delivered ++ s.channel.current = begun.flatten
  current : s.channel.current ≠ [] →
    ∃ before chunk taken, begun = before ++ [chunk] ∧ chunk = taken ++ s.channel.current
  room : s.channel.queue.length ≤ capacity

/-- No send that waits can be completed. -/
structure Quiet (s : History) : Prop where
  heavy : ∀ send ∈ s.channel.waiting, send.2 ≠ []
  full : s.channel.waiting ≠ [] → capacity ≤ s.channel.queue.length
  closed : s.channel.isClosed = true → s.channel.waiting = []

theorem ordered_new : ({} : History).Ordered [] [] := by
  constructor <;> simp [heavy]

theorem quiet_new : ({} : History).Quiet := by
  constructor <;> simp

namespace Ordered

variable {s s' : History} {done : List (Nat × Bytes)} {begun : List Bytes}

theorem results_settle {taken left : List (Nat × Bytes)} {numbers : List Nat} (h : s.Ordered done begun)
    (hw : heavy s.channel.waiting = taken ++ left)
    (hn : ∀ n, n ∈ numbers ↔ ∃ chunk, (n, chunk) ∈ s.channel.waiting ∧ (chunk = [] ∨ (n, chunk) ∈ taken))
    (n : Nat) (result : SendResult) :
    (n, result) ∈ s.results ++ numbers.map (·, .sent) ↔
      result = .sent ∧ n ∈ s.sends.map (·.1) ∧ n ∉ left.map (·.1) := by
  have hmem (send : Nat × Bytes) (hm : send ∈ s.channel.waiting) :
      send.2 = [] ∨ send ∈ taken ∨ send ∈ left := by
    by_cases he : send.2 = []
    · exact .inl he
    · have : send ∈ heavy s.channel.waiting := List.mem_filter.2 ⟨hm, by simpa using he⟩
      rw [hw] at this
      exact .inr (List.mem_append.1 this)
  have hleft (send : Nat × Bytes) (hm : send ∈ left) : send ∈ s.channel.waiting ∧ send.2 ≠ [] := by
    have hm : send ∈ heavy s.channel.waiting := by rw [hw]; exact List.mem_append_right _ hm
    exact ⟨(List.mem_filter.1 hm).1, ne_nil_of_mem_heavy hm⟩
  -- a number waits with one chunk only
  have huniq := List.inj_on_of_nodup_map h.waiting.1
  have hdisj : List.Disjoint taken left := by
    have hnodup : (heavy s.channel.waiting).Nodup := (h.waiting.1.of_map _).filter _
    rw [hw] at hnodup
    exact List.disjoint_of_nodup_append hnodup
  rw [List.mem_append, h.results]
  constructor
  · rintro (⟨hr, hs, hnw⟩ | hnew)
    · refine ⟨hr, hs, fun hl => hnw ?_⟩
      obtain ⟨send, hm, rfl⟩ := List.mem_map.1 hl
      exact List.mem_map_of_mem (hleft send hm).1
    · obtain ⟨m, hm, he⟩ := List.mem_map.1 hnew
      cases he
      obtain ⟨chunk, hm, hc⟩ := (hn n).1 hm
      refine ⟨rfl, List.mem_map_of_mem (h.waiting.2 hm), fun hl => ?_⟩
      obtain ⟨send, hl, he⟩ := List.mem_map.1 hl
      have : send = (n, chunk) := huniq (hleft send hl).1 hm he
      subst this
      rcases hc with hc | hc
      · exact (hleft _ hl).2 hc
      · exact hdisj hc hl
  · rintro ⟨hr, hs, hl⟩
    by_cases hw : n ∈ s.channel.waiting.map (·.1)
    · obtain ⟨⟨m, chunk⟩, hm, rfl⟩ := List.mem_map.1 hw
      refine .inr (List.mem_map.2 ⟨m, (hn m).2 ⟨chunk, hm, ?_⟩, by rw [hr]⟩)
      rcases hmem _ hm with he | ht | hleft
      · exact .inl he
      · exact .inr ht
      · exact absurd (List.mem_map_of_mem hleft) hl
    · exact .inl ⟨hr, hs, hw⟩

/-- The sends that the queue has room for are completed, and all that send nothing. -/
theorem settle (h : s.Ordered done begun) : s.settle.Quiet ∧ ∃ done', s.settle.Ordered done' begun := by
  obtain ⟨numbers, hs, hn⟩ := settle_of_reading h.reading
  have hroom := h.room
  generalize hk : capacity - s.channel.queue.length = room at hs hn
  generalize ht : (heavy s.channel.waiting).take room = taken at hs hn
  generalize hl : (heavy s.channel.waiting).drop room = left at hs hn
  have hboth : heavy s.channel.waiting = taken ++ left := by rw [← ht, ← hl, List.take_append_drop]
  have hleft : ∀ send ∈ left, send.2 ≠ [] ∧ send ∈ s.channel.waiting := by
    intro send hm
    have hm : send ∈ heavy s.channel.waiting := by rw [hboth]; exact List.mem_append_right _ hm
    exact ⟨ne_nil_of_mem_heavy hm, (List.mem_filter.1 hm).1⟩
  have hf : s.settle = { s with
      channel := { s.channel with queue := s.channel.queue ++ taken.map (·.2), waiting := left }
      results := s.results ++ numbers.map (·, .sent) } := by
    rw [History.settle, hs]
  have hlen : taken.length = min room (heavy s.channel.waiting).length := by rw [← ht, List.length_take]
  have hmore : left ≠ [] → room < (heavy s.channel.waiting).length := by
    intro hne
    refine Nat.lt_of_not_le fun hle => hne ?_
    rw [← hl, List.drop_eq_nil_of_le hle]
  rw [hf]
  refine ⟨⟨fun send hm => (hleft send hm).1, fun hne => ?_, fun hc => ?_⟩, done ++ taken, ?_⟩
  · have := hmore hne
    show capacity ≤ (s.channel.queue ++ taken.map (·.2)).length
    rw [List.length_append, List.length_map]
    omega
  · have hc : (!s.channel.reading) = true := hc
    rw [h.reading] at hc
    cases hc
  constructor
  case reading => exact h.reading
  case numbers => exact h.numbers
  case started => exact h.started
  case waiting =>
    refine ⟨?_, fun send hm => h.waiting.2 (hleft send hm).2⟩
    have hsub : left.Sublist s.channel.waiting := by
      rw [← hl]
      exact (List.drop_sublist room _).trans List.filter_sublist
    exact h.waiting.1.sublist (hsub.map _)
  case split =>
    show heavy s.sends = done ++ taken ++ heavy left
    rw [heavy_eq_self fun send hm => (hleft send hm).1, List.append_assoc, ← hboth, h.split]
  case results => exact h.results_settle hboth hn
  case queue =>
    show (done ++ taken).map (·.2) = begun ++ (s.channel.queue ++ taken.map (·.2))
    rw [List.map_append, h.queue, List.append_assoc]
  case bytes => exact h.bytes
  case current => exact h.current
  case room =>
    show (s.channel.queue ++ taken.map (·.2)).length ≤ capacity
    rw [List.length_append, List.length_map]
    omega

theorem start (h : s.Ordered done begun) (chunk : Bytes) : (s.start chunk).Ordered done begun := by
  have hfresh : s.channel.started ∉ s.sends.map (·.1) := by
    intro hm
    obtain ⟨send, hm, he⟩ := List.mem_map.1 hm
    have := h.started send hm
    omega
  have hwaiting : s.channel.started ∉ s.channel.waiting.map (·.1) := by
    intro hm
    obtain ⟨send, hm, he⟩ := List.mem_map.1 hm
    exact hfresh (List.mem_map.2 ⟨send, h.waiting.2 hm, he⟩)
  constructor
  case reading => exact h.reading
  case numbers =>
    show ((s.sends ++ [(s.channel.started, chunk)]).map (·.1)).Nodup
    rw [List.map_append, List.map_singleton, List.nodup_append]
    refine ⟨h.numbers, List.nodup_singleton _, fun n hn m hm => ?_⟩
    rw [List.mem_singleton.1 hm]
    rintro rfl
    exact hfresh hn
  case started =>
    show ∀ send ∈ s.sends ++ [(s.channel.started, chunk)], send.1 < s.channel.started + 1
    intro send hm
    rcases List.mem_append.1 hm with hm | hm
    · exact Nat.lt_succ_of_lt (h.started send hm)
    · rw [List.mem_singleton.1 hm]
      exact Nat.lt_succ_self _
  case waiting =>
    constructor
    · show ((s.channel.waiting ++ [(s.channel.started, chunk)]).map (·.1)).Nodup
      rw [List.map_append, List.map_singleton, List.nodup_append]
      refine ⟨h.waiting.1, List.nodup_singleton _, fun n hn m hm => ?_⟩
      rw [List.mem_singleton.1 hm]
      rintro rfl
      exact hwaiting hn
    · exact List.append_subset.2 ⟨List.subset_append_of_subset_left _ h.waiting.2, List.subset_append_right ..⟩
  case split =>
    show heavy (s.sends ++ [(s.channel.started, chunk)]) =
      done ++ heavy (s.channel.waiting ++ [(s.channel.started, chunk)])
    rw [heavy_append, heavy_append, h.split, List.append_assoc]
  case results =>
    intro n result
    show (n, result) ∈ s.results ↔ result = .sent ∧ n ∈ (s.sends ++ [(s.channel.started, chunk)]).map (·.1) ∧
      n ∉ (s.channel.waiting ++ [(s.channel.started, chunk)]).map (·.1)
    rw [h.results, List.map_append, List.map_append, List.mem_append, List.mem_append, List.map_singleton,
      List.mem_singleton]
    constructor
    · rintro ⟨hr, hs, hw⟩
      refine ⟨hr, .inl hs, ?_⟩
      rintro (hn | rfl)
      · exact hw hn
      · exact hfresh hs
    · rintro ⟨hr, hs, hw⟩
      rcases hs with hs | hs
      · exact ⟨hr, hs, fun hn => hw (.inl hn)⟩
      · exact absurd (.inr hs) hw
  case queue => exact h.queue
  case bytes => exact h.bytes
  case current => exact h.current
  case room => exact h.room

theorem withWriters (h : s.Ordered done begun) (writers : List Bool) :
    Ordered { s with channel := { s.channel with writers } } done begun :=
  ⟨h.reading, h.numbers, h.started, h.waiting, h.split, h.results, h.queue, h.bytes, h.current, h.room⟩

/-- A read moves bytes of the chunk that is begun, and begins the next one if none is. -/
theorem read (h : s.Ordered done begun) (room : Nat) : ∃ begun', (s.read room).Ordered done begun' := by
  unfold History.read Channel.read
  split
  · rename_i bytes channel hread
    split at hread
    · split at hread <;> cases hread
      refine ⟨begun, ?_⟩
      rw [List.append_nil]
      exact h
    · rename_i chunk queue hc hq
      cases hread
      have hqueue := h.queue
      have hbytes := h.bytes
      have hroom := h.room
      rw [hq] at hqueue hroom
      rw [hc, List.append_nil] at hbytes
      refine ⟨begun ++ [chunk], h.reading, h.numbers, h.started, h.waiting, h.split, h.results, ?_, ?_, ?_,
        Nat.le_of_succ_le hroom⟩
      · rw [hqueue]
        simp
      · simp [hbytes]
      · intro _
        exact ⟨begun, chunk, chunk.take room, rfl, (List.take_append_drop ..).symm⟩
    · cases hread
      refine ⟨begun, h.reading, h.numbers, h.started, h.waiting, h.split, h.results, h.queue, ?_, ?_, h.room⟩
      · show s.delivered ++ s.channel.current.take room ++ s.channel.current.drop room = begun.flatten
        rw [List.append_assoc, List.take_append_drop, h.bytes]
      · intro hne
        have hcurrent : s.channel.current ≠ [] := by
          intro h0
          have hne : s.channel.current.drop room ≠ [] := hne
          rw [h0, List.drop_nil] at hne
          exact hne rfl
        obtain ⟨before, chunk, taken, hb, hchunk⟩ := h.current hcurrent
        refine ⟨before, chunk, taken ++ s.channel.current.take room, hb, ?_⟩
        show chunk = taken ++ s.channel.current.take room ++ s.channel.current.drop room
        rw [List.append_assoc, List.take_append_drop, hchunk]
  · rename_i channel hread
    split at hread
    · split at hread <;> cases hread
      exact ⟨begun, h⟩
    · cases hread
    · cases hread

/-- What was sent, empty chunks left out. -/
theorem solid_sent (h : s.Ordered done begun) (hq : s.Quiet) : solid s.sent = begun ++ s.channel.queue := by
  have hsplit := h.split
  rw [heavy_eq_self hq.heavy] at hsplit
  have hnodup : ((done ++ s.channel.waiting).map (·.1)).Nodup := by
    rw [← hsplit]
    exact h.numbers.sublist (List.filter_sublist.map _)
  rw [List.map_append, List.nodup_append] at hnodup
  have hdone : ∀ send ∈ done, (send.1, SendResult.sent) ∈ s.results := by
    intro send hm
    have hs : send ∈ s.sends := by
      have : send ∈ heavy s.sends := by rw [hsplit]; exact List.mem_append_left _ hm
      exact (List.mem_filter.1 this).1
    refine (h.results _ _).2 ⟨rfl, List.mem_map_of_mem hs, fun hw => ?_⟩
    exact hnodup.2.2 _ (List.mem_map_of_mem hm) _ hw rfl
  have hwaiting : ∀ send ∈ s.channel.waiting, (send.1, SendResult.sent) ∉ s.results := by
    intro send hm hr
    exact ((h.results _ _).1 hr).2.2 (List.mem_map_of_mem hm)
  calc solid s.sent
    _ = ((heavy s.sends).filter fun send => (send.1, SendResult.sent) ∈ s.results).map (·.2) := by
      rw [sent, ← map_heavy, heavy, heavy, List.filter_comm]
    _ = done.map (·.2) := by
      rw [hsplit, List.filter_append, List.filter_eq_self.2 fun send hm => by simpa using hdone send hm,
        List.filter_eq_nil_iff.2 fun send hm => by simpa using hwaiting send hm, List.append_nil]
    _ = begun ++ s.channel.queue := h.queue

theorem ne_nil_of_mem_queue (h : s.Ordered done begun) (hq : s.Quiet) :
    ∀ chunk ∈ s.channel.queue, chunk ≠ [] := by
  intro chunk hm
  have : chunk ∈ solid s.sent := by
    rw [h.solid_sent hq]
    exact List.mem_append_right _ hm
  simpa [solid] using (List.mem_filter.1 this).2

/-- Delivered, begun or queued: that is where the chunks are that were sent. -/
theorem bytes_eq (h : s.Ordered done begun) (hq : s.Quiet) :
    s.delivered ++ s.channel.current ++ s.channel.queue.flatten = s.sent.flatten := by
  rw [← flatten_solid s.sent, h.solid_sent hq, List.flatten_append, h.bytes]

/-- The bytes of one read are a piece of one chunk. -/
theorem read_piece {room : Nat} {bytes : Bytes} {next : Channel} (h : s.Ordered done begun) (hq : s.Quiet)
    (hr : s.channel.read room = (.ready bytes, next)) (hb : bytes ≠ []) :
    ∃ before chunk after taken left, solid s.sent = before ++ chunk :: after ∧
      chunk = taken ++ bytes ++ left ∧ s.delivered = before.flatten ++ taken := by
  have hsolid := h.solid_sent hq
  have hbytes := h.bytes
  unfold Channel.read at hr
  split at hr
  · split at hr <;> cases hr
    exact absurd rfl hb
  · rename_i chunk queue hc hqueue
    cases hr
    rw [hc, List.append_nil] at hbytes
    exact ⟨begun, chunk, queue, [], chunk.drop room, by rw [hsolid, hqueue],
      by rw [List.nil_append, List.take_append_drop], by rw [hbytes, List.append_nil]⟩
  · cases hr
    have hcurrent : s.channel.current ≠ [] := by
      intro h0
      rw [h0, List.take_nil] at hb
      exact hb rfl
    obtain ⟨before, chunk, taken, rfl, hchunk⟩ := h.current hcurrent
    refine ⟨before, chunk, s.channel.queue, taken, s.channel.current.drop room, ?_, ?_, ?_⟩
    · rw [hsolid, List.append_assoc, List.singleton_append]
    · rw [List.append_assoc, List.take_append_drop, hchunk]
    · rw [List.flatten_append, List.flatten_singleton, hchunk, ← List.append_assoc] at hbytes
      exact List.append_cancel_right hbytes

/-- All is delivered when nothing is begun and nothing queued. -/
theorem delivered_eq_iff (h : s.Ordered done begun) (hq : s.Quiet) :
    s.delivered = s.sent.flatten ↔ s.channel.current = [] ∧ s.channel.queue = [] := by
  rw [← h.bytes_eq hq, List.append_assoc, List.self_eq_append_right, List.append_eq_nil_iff]
  refine and_congr_right fun _ => ⟨fun hflat => ?_, fun h0 => by rw [h0, List.flatten_nil]⟩
  refine List.eq_nil_iff_forall_not_mem.2 fun chunk hm => ?_
  exact h.ne_nil_of_mem_queue hq chunk hm (List.flatten_eq_nil_iff.1 hflat chunk hm)

/-- A read with room is told the end just when all is delivered and nobody is left to send. -/
theorem read_end_iff {room : Nat} (h : s.Ordered done begun) (hq : s.Quiet) (hr : 0 < room) :
    (s.channel.read room).1 = .ready [] ↔ s.delivered = s.sent.flatten ∧ s.channel.hasWriters = false := by
  rw [h.delivered_eq_iff hq, Channel.read_nil_iff (h.ne_nil_of_mem_queue hq) hr]

end Ordered

/-- A flow whose body is gone. -/
structure Dropped (s : History) : Prop where
  closed : s.channel.isClosed = true
  empty : s.channel.queue = [] ∧ s.channel.current = []

variable {s s' : History}

theorem settle_of_closed (h : s.channel.isClosed = true) :
    s.settle = { s with
      channel := { s.channel with waiting := [] }
      results := s.results ++ s.channel.waiting.map (·.1, .closed) } := by
  have hr : s.channel.reading = false := by simpa [isClosed] using h
  simp [settle, Channel.settle, hr]

theorem settle_of_none_waiting (h : s.channel.waiting = []) : s.settle = s := by
  simp [settle, Channel.settle_of_none_waiting h]

theorem isClosed_settle (s : History) : s.settle.channel.isClosed = s.channel.isClosed := by
  cases hr : s.channel.reading <;> simp [settle, Channel.settle, isClosed, hr]

namespace Dropped

theorem settle (h : s.Dropped) : s.settle.Quiet ∧ s.settle.Dropped := by
  rw [settle_of_closed h.closed]
  exact ⟨⟨by simp, by simp, fun _ => rfl⟩, h.closed, h.empty⟩

end Dropped

/-- What holds behind every move. -/
def Sound (s : History) : Prop := s.Quiet ∧ ((∃ done begun, s.Ordered done begun) ∨ s.Dropped)

namespace Sound

theorem ordered (h : s.Sound) (hc : s.channel.isClosed = false) : ∃ done begun, s.Ordered done begun := by
  rcases h.2 with h | h
  · exact h
  · rw [h.closed] at hc
    cases hc

theorem step {move : Move} (h : s.Sound) (hs : s.step? move = some s') : s'.Sound := by
  obtain ⟨g, hg, rfl⟩ := Option.map_eq_some_iff.1 hs
  suffices hmoved : (∃ done begun, g.Ordered done begun) ∨ g.Dropped by
    rcases hmoved with ⟨done, begun, hg⟩ | hg
    · obtain ⟨hq, done', hg⟩ := hg.settle
      exact ⟨hq, .inl ⟨done', begun, hg⟩⟩
    · exact ⟨hg.settle.1, .inr hg.settle.2⟩
  cases move with
  | send writer chunk =>
    obtain ⟨-, hg⟩ := Option.ite_none_right_eq_some.1 hg
    cases hg
    rcases h.2 with ⟨done, begun, h⟩ | h
    · exact .inl ⟨done, begun, h.start chunk⟩
    · exact .inr ⟨h.closed, h.empty⟩
  | clone writer | close writer =>
    obtain ⟨-, hg⟩ := Option.ite_none_right_eq_some.1 hg
    cases hg
    rcases h.2 with ⟨done, begun, h⟩ | h
    · exact .inl ⟨done, begun, h.withWriters _⟩
    · exact .inr ⟨h.closed, h.empty⟩
  | ask writer =>
    obtain ⟨-, hg⟩ := Option.ite_none_right_eq_some.1 hg
    cases hg
    exact h.2
  | read room =>
    obtain ⟨hc, hg⟩ := Option.ite_none_left_eq_some.1 hg
    cases hg
    obtain ⟨done, begun, h⟩ := h.ordered (by simpa using hc)
    obtain ⟨begun', h⟩ := h.read room
    exact .inl ⟨done, begun', h⟩
  | dropBody =>
    obtain ⟨-, hg⟩ := Option.ite_none_left_eq_some.1 hg
    cases hg
    exact .inr ⟨rfl, rfl, rfl⟩

end Sound

theorem run?_cons (move : Move) (moves : List Move) :
    s.run? (move :: moves) = (s.step? move).bind fun s => s.run? moves := by
  simp [run?, List.foldlM_cons]

/-- What every move keeps holds after every run. -/
theorem run?_induction {P : History → Prop} (hP : ∀ s move s', P s → s.step? move = some s' → P s')
    {moves : List Move} (h : P s) (hr : s.run? moves = some s') : P s' := by
  induction moves generalizing s with
  | nil =>
    cases hr
    exact h
  | cons move moves ih =>
    rw [run?_cons] at hr
    obtain ⟨g, hs, hr⟩ := Option.bind_eq_some_iff.1 hr
    exact ih (hP s move g h hs) hr

theorem sound_run {moves : List Move} (hr : ({} : History).run? moves = some s) : s.Sound :=
  run?_induction (fun _ _ _ h hs => h.step hs) ⟨quiet_new, .inl ⟨[], [], ordered_new⟩⟩ hr

/-! ### The end of a stream -/

/-- Nothing is there, and nobody is left to send. -/
structure Over (s : History) : Prop where
  empty : s.channel.current = [] ∧ s.channel.queue = []
  writers : s.channel.hasWriters = false

namespace Over

theorem read (h : s.Over) (room : Nat) : s.channel.read room = (.ready [], s.channel) := by
  simp [Channel.read, h.empty.1, h.empty.2, h.writers]

theorem settle (h : s.Over) : s.settle.Over := by
  rw [settle_of_none_waiting (waiting_of_hasWriters h.writers)]
  exact h

theorem step {move : Move} (h : s.Over) (hs : s.step? move = some s') : s'.Over := by
  obtain ⟨g, hg, rfl⟩ := Option.map_eq_some_iff.1 hs
  cases move with
  | send writer | clone writer | close writer | ask writer =>
    simp [move?, isOpen_of_hasWriters h.writers writer] at hg
  | read room =>
    obtain ⟨-, hg⟩ := Option.ite_none_left_eq_some.1 hg
    cases hg
    have hread : s.read room = s := by
      unfold History.read
      rw [h.read room]
      simp
    rw [hread]
    exact h.settle
  | dropBody =>
    obtain ⟨-, hg⟩ := Option.ite_none_left_eq_some.1 hg
    cases hg
    exact settle ⟨⟨rfl, rfl⟩, h.writers⟩

end Over

theorem Ordered.over {done : List (Nat × Bytes)} {begun : List Bytes} {room : Nat} (h : s.Ordered done begun)
    (hq : s.Quiet) (hr : 0 < room) (hread : (s.channel.read room).1 = .ready []) : s.Over := by
  obtain ⟨hall, hw⟩ := (h.read_end_iff hq hr).1 hread
  exact ⟨(h.delivered_eq_iff hq).1 hall, hw⟩

/-! ### The whole stream -/

/-- A send on a stream that nobody reads any more fails, and so does all that waits. -/
theorem send_of_closed {writer : Nat} {chunk : Bytes} (hc : s.channel.isClosed = true)
    (hs : s.step? (.send writer chunk) = some s') : (s.channel.started, .closed) ∈ s'.results := by
  obtain ⟨g, hg, rfl⟩ := Option.map_eq_some_iff.1 hs
  obtain ⟨-, hg⟩ := Option.ite_none_right_eq_some.1 hg
  cases hg
  have hc : (s.start chunk).channel.isClosed = true := hc
  rw [settle_of_closed hc]
  refine List.mem_append_right _ (List.mem_map.2 ⟨(s.channel.started, chunk), ?_, rfl⟩)
  exact List.mem_append_right _ (List.mem_singleton.2 rfl)

theorem isClosed_step {move : Move} (hc : s.channel.isClosed = true) (hs : s.step? move = some s') :
    s'.channel.isClosed = true := by
  obtain ⟨g, hg, rfl⟩ := Option.map_eq_some_iff.1 hs
  cases move with
  | send writer | clone writer | close writer | ask writer =>
    obtain ⟨-, hg⟩ := Option.ite_none_right_eq_some.1 hg
    cases hg
    rw [isClosed_settle]
    exact hc
  | read room | dropBody =>
    obtain ⟨hn, -⟩ := Option.ite_none_left_eq_some.1 hg
    exact absurd hc hn

theorem isClosed_run {moves : List Move} (hc : s.channel.isClosed = true) (hr : s.run? moves = some s') :
    s'.channel.isClosed = true :=
  run?_induction (fun _ _ _ hc hs => isClosed_step hc hs) hc hr

/-- An empty chunk is sent at once, and changes nothing that a reader can find. -/
theorem send_nil {writer : Nat} (hq : s.Quiet) (hs : s.step? (.send writer []) = some s') :
    s'.channel = { s.channel with started := s.channel.started + 1 } ∧
      (s.channel.started, if s.channel.isClosed then SendResult.closed else .sent) ∈ s'.results := by
  cases hc : s.channel.isClosed with
  | true =>
    refine ⟨?_, send_of_closed hc hs⟩
    obtain ⟨g, hg, rfl⟩ := Option.map_eq_some_iff.1 hs
    obtain ⟨-, hg⟩ := Option.ite_none_right_eq_some.1 hg
    cases hg
    have hstart : (s.start []).channel.isClosed = true := hc
    rw [settle_of_closed hstart]
    show { (s.channel.send []) with waiting := [] } = _
    rw [← hq.closed hc]
    rfl
  | false =>
    obtain ⟨g, hg, rfl⟩ := Option.map_eq_some_iff.1 hs
    obtain ⟨-, hg⟩ := Option.ite_none_right_eq_some.1 hg
    cases hg
    have hr : s.channel.reading = true := by simpa [isClosed] using hc
    have hblocked := enqueue_blocked s.channel.started hq.heavy hq.full
    have hsettle : (s.start []).settle = { s.start [] with
        channel := { s.channel with started := s.channel.started + 1 }
        results := s.results ++ [(s.channel.started, .sent)] } := by
      simp [History.settle, Channel.settle, start, Channel.send, hr, hblocked]
    rw [hsettle]
    exact ⟨rfl, List.mem_append_right _ (List.mem_singleton.2 rfl)⟩

/-- With the body go all sends that wait. -/
theorem dropBody_closes (hs : s.step? .dropBody = some s') : s'.channel.isClosed = true ∧
    s'.channel.waiting = [] ∧ ∀ send ∈ s.channel.waiting, (send.1, .closed) ∈ s'.results := by
  obtain ⟨g, hg, rfl⟩ := Option.map_eq_some_iff.1 hs
  obtain ⟨-, hg⟩ := Option.ite_none_left_eq_some.1 hg
  cases hg
  rw [settle_of_closed rfl]
  exact ⟨rfl, rfl, fun send hm => List.mem_append_right _ (List.mem_map.2 ⟨send, hm, rfl⟩)⟩

/-- What holds of a live stream after any moves of its writers and its reader. While the body exists, what was
delivered, what is left of the chunk begun and what is queued are the chunks that were sent, in the order of
their sends; every read delivers a piece of one of them. A read with room is told the end just when everything
is delivered and no writer is left, not even one that an unfinished send holds, and then so is every later read;
a read has to wait just when nothing is there and a writer is left. An empty chunk is sent at once and unseen.
Once the body is gone, every send fails that was unfinished or is still to come. -/
theorem stream_sound {moves : List Move} (hr : ({} : History).run? moves = some s) :
    (s.channel.isClosed = false →
      s.delivered ++ s.channel.current ++ s.channel.queue.flatten = s.sent.flatten) ∧
    s.channel.queue.length ≤ 8 ∧ (∀ chunk ∈ s.channel.queue, chunk ≠ []) ∧
    (s.channel.isClosed = false → ∀ room bytes next, s.channel.read room = (.ready bytes, next) → bytes ≠ [] →
      ∃ before chunk after taken left, Channel.solid s.sent = before ++ chunk :: after ∧
        chunk = taken ++ bytes ++ left ∧ s.delivered = before.flatten ++ taken) ∧
    (s.channel.isClosed = false → ∀ room, 0 < room →
      ((s.channel.read room).1 = .ready [] ↔ s.delivered = s.sent.flatten ∧ s.channel.hasWriters = false) ∧
      ((s.channel.read room).1 = .ready [] → ∀ later s', s.run? later = some s' → ∀ room',
        (s'.channel.read room').1 = .ready [])) ∧
    (∀ room, (s.channel.read room).1 = .pending ↔
      s.channel.current = [] ∧ s.channel.queue = [] ∧ s.channel.hasWriters = true) ∧
    (∀ writer s', s.step? (.send writer []) = some s' →
      s'.channel = { s.channel with started := s.channel.started + 1 } ∧
      (s.channel.started, if s.channel.isClosed then SendResult.closed else .sent) ∈ s'.results) ∧
    (∀ s', s.step? .dropBody = some s' → s'.channel.isClosed = true ∧ s'.channel.waiting = [] ∧
      ∀ send ∈ s.channel.waiting, (send.1, .closed) ∈ s'.results) ∧
    (s.channel.isClosed = true → s.channel.waiting = [] ∧
      ∀ later s', s.run? later = some s' → s'.channel.isClosed = true ∧
        ∀ writer chunk s'', s'.step? (.send writer chunk) = some s'' →
          (s'.channel.started, .closed) ∈ s''.results) := by
  have h := sound_run hr
  have hqueue : s.channel.queue.length ≤ 8 ∧ ∀ chunk ∈ s.channel.queue, chunk ≠ [] := by
    rcases h.2 with ⟨done, begun, ho⟩ | hd
    · exact ⟨ho.room, ho.ne_nil_of_mem_queue h.1⟩
    · rw [hd.empty.1]
      simp
  refine ⟨fun hc => ?_, hqueue.1, hqueue.2, fun hc room bytes next hread hb => ?_, fun hc room hroom => ?_,
    s.channel.read_pending_iff, fun writer s' hs => send_nil h.1 hs, fun s' hs => dropBody_closes hs,
    fun hc => ⟨h.1.closed hc, fun later s' hlater => ?_⟩⟩
  · obtain ⟨done, begun, ho⟩ := h.ordered hc
    exact ho.bytes_eq h.1
  · obtain ⟨done, begun, ho⟩ := h.ordered hc
    exact ho.read_piece h.1 hread hb
  · obtain ⟨done, begun, ho⟩ := h.ordered hc
    refine ⟨ho.read_end_iff h.1 hroom, fun hread later s' hlater room' => ?_⟩
    have hover : s'.Over := run?_induction (fun _ _ _ h hs => h.step hs) (ho.over h.1 hroom hread) hlater
    rw [hover.read room']
  · have hc' := isClosed_run hc hlater
    exact ⟨hc', fun writer chunk s'' hs => send_of_closed hc' hs⟩

/-- Two writers, an empty chunk and a read of no bytes, read to the end. -/
theorem stream_sound_twoWriters :
    ∃ s, ({} : History).run? [.send 0 [97, 98], .clone 0, .send 1 [], .read 0, .read 1, .send 1 [99], .close 0,
        .close 1, .read 5, .read 5] = some s ∧
      s.delivered = [97, 98, 99] ∧ s.sent = [[97, 98], [], [99]] ∧
      ∀ later s', s.run? later = some s' → ∀ room, (s'.channel.read room).1 = .ready [] := by
  obtain ⟨s, hr, hfacts⟩ := (Option.any_eq_true (fun s : History => decide (s.channel.isClosed = false ∧
    s.channel.hasWriters = false ∧ s.delivered = [97, 98, 99] ∧ s.sent = [[97, 98], [], [99]]))
    (({} : History).run? [.send 0 [97, 98], .clone 0, .send 1 [], .read 0, .read 1, .send 1 [99], .close 0,
      .close 1, .read 5, .read 5])).1 (by decide +kernel)
  obtain ⟨hc, hw, hd, hs⟩ := of_decide_eq_true hfacts
  obtain ⟨-, -, -, -, hends, -⟩ := stream_sound hr
  obtain ⟨hiff, hlater⟩ := hends hc 1 Nat.one_pos
  exact ⟨s, hr, hd, hs, hlater (hiff.2 ⟨by rw [hd, hs]; rfl, hw⟩)⟩

end Channel.History

end Courier
