import Courier.Context.History

/-!
# Polling and waiting agree

A waiter is finished just when its context was found cancelled once since the wait began. `Waiter.Fair` is why
no change is missed: one who has turned away from the signal does so when the signal can never hold again.
`History.Kept` is kept by every step, and `finished_run` follows one waiter through a run.
-/

namespace Courier

theorem Context.isCancelled_iff {context : Context} {signal : Signal} {now : Nat} :
    context.isCancelled signal now = true ↔ signal.value = true ∨ context.isOver now = true := by
  simp [isCancelled]

theorem Context.min?_snoc (times : List Nat) (time : Nat) :
    (times ++ [time]).min? = some ((times.min?.map (min · time)).getD time) := by
  cases times with
  | nil => rfl
  | cons first times => simp only [List.cons_append, List.min?_cons', List.foldl_append]; rfl

/-! ### A waiter -/

namespace Waiter

variable {w : Waiter} {signal signal' : Signal} {now : Nat}

/-- A waiter that does not watch the signal has nothing to see there any more. -/
def Fair (w : Waiter) (signal : Signal) : Prop :=
  w.watching = false → signal.value = false ∧ signal.settable = false

theorem Fair.later (h : w.Fair signal) (hs : signal.settable = false → signal' = signal) : w.Fair signal' := by
  intro hw
  obtain ⟨hv, ha⟩ := h hw
  rw [hs ha]
  exact ⟨hv, ha⟩

@[simp] theorem context_poll : (w.poll signal now).context = w.context := by
  unfold poll
  split
  · rfl
  · split <;> rfl

theorem Fair.poll (h : w.Fair signal) : (w.poll signal now).Fair signal := by
  unfold Waiter.poll
  split
  · exact h
  split
  · exact h
  · rename_i hn
    intro hw
    cases hwatch : w.watching with
    | false => exact h hwatch
    | true =>
      rw [hwatch] at hn hw
      exact ⟨by simpa using hn, hw⟩

theorem Fair.finished_poll (h : w.Fair signal) :
    (w.poll signal now).finished = true ↔ w.finished = true ∨ w.context.isCancelled signal now = true := by
  rw [Context.isCancelled_iff]
  unfold Waiter.poll
  split
  · rename_i hf
    simp [hf]
  rename_i hf
  split
  · rename_i hs
    simp [(Bool.and_eq_true_iff.1 hs).2]
  · rename_i hs
    have hv : signal.value = false := by
      cases hw : w.watching with
      | false => exact (h hw).1
      | true => simpa [hw] using hs
    simp [hf, hv]

end Waiter

/-! ### One step -/

namespace Context.History

/-- What holds of the contexts and the waiters behind every step. -/
structure Kept (s : History) : Prop where
  deadline : ∀ made ∈ s.contexts, made.context.deadline = made.deadlines.min?
  fair : ∀ w ∈ s.waiters, w.Fair s.signal
  polled : ∀ w ∈ s.waiters, w.context.isCancelled s.signal s.now = true → w.finished = true

/-- What a move changes, before the waiters look. -/
structure Moved (s : History) (move : Move) (s' : History) : Prop where
  deadline : (∀ made ∈ s.contexts, made.context.deadline = made.deadlines.min?) →
    ∀ made ∈ s'.contexts, made.context.deadline = made.deadlines.min?
  signal : s.signal.settable = false → s'.signal = s.signal
  value : s'.signal.value = move.value?.getD s.signal.value
  waiters : ∃ new, s'.waiters = s.waiters ++ new ∧ ∀ w ∈ new, w.watching = true

variable {s s' : History} {move : Move}

theorem moved_change {index : Nat} {f : Made → Made} (hv : move.value? = none) (h : s.change? index f = some s')
    (hf : ∀ made, made.context.deadline = made.deadlines.min? →
      (f made).context.deadline = (f made).deadlines.min?) : s.Moved move s' := by
  obtain ⟨made, hm, rfl⟩ := Option.map_eq_some_iff.1 h
  refine ⟨fun hk other ho => ?_, fun _ => rfl, by rw [hv]; rfl, [], (List.append_nil _).symm, by simp⟩
  rcases List.mem_or_eq_of_mem_set ho with ho | rfl
  · exact hk other ho
  · exact hf made (hk made (List.mem_of_getElem? hm))

theorem moved_of_move? (h : s.move? move = some s') : s.Moved move s' := by
  cases move with
  | set value =>
    obtain ⟨hs, h⟩ := Option.ite_none_right_eq_some.1 h
    cases h
    refine ⟨id, fun hn => ?_, by simp [Signal.set, hs, Move.value?], [], (List.append_nil _).symm, by simp⟩
    rw [hs] at hn
    cases hn
  | abandon =>
    cases h
    refine ⟨id, fun hn => ?_, rfl, [], (List.append_nil _).symm, by simp⟩
    show ({ s.signal with settable := false } : Signal) = s.signal
    rw [← hn]
  | advance span =>
    cases h
    exact ⟨id, fun _ => rfl, rfl, [], (List.append_nil _).symm, by simp⟩
  | deadline index time =>
    refine moved_change rfl h fun made hk => ?_
    rw [min?_snoc, ← hk]
    rfl
  | timeout index span =>
    refine moved_change rfl h fun made hk => ?_
    rw [min?_snoc, ← hk]
    rfl
  | peer index peer => exact moved_change rfl h fun made hk => hk
  | clone index =>
    obtain ⟨made, hm, rfl⟩ := Option.map_eq_some_iff.1 h
    refine ⟨fun hk other ho => ?_, fun _ => rfl, rfl, [], (List.append_nil _).symm, by simp⟩
    rcases List.mem_append.1 ho with ho | ho
    · exact hk other ho
    · rw [List.mem_singleton.1 ho]
      exact hk made (List.mem_of_getElem? hm)
  | wait index =>
    obtain ⟨made, hm, rfl⟩ := Option.map_eq_some_iff.1 h
    exact ⟨id, fun _ => rfl, rfl, _, rfl, by simp⟩

theorem step?_eq_some (h : s.step? move = some s') :
    ∃ s₁, s.move? move = some s₁ ∧ s.Moved move s₁ ∧ s' = s₁.look := by
  obtain ⟨s₁, hm, rfl⟩ := Option.map_eq_some_iff.1 h
  exact ⟨s₁, hm, moved_of_move? hm, rfl⟩

theorem Kept.step (h : s.Kept) (hs : s.step? move = some s') : s'.Kept := by
  obtain ⟨s₁, -, hm, rfl⟩ := step?_eq_some hs
  obtain ⟨new, hwaiters, hnew⟩ := hm.waiters
  have hfair : ∀ w ∈ s₁.waiters, w.Fair s₁.signal := by
    intro w hw
    rw [hwaiters] at hw
    rcases List.mem_append.1 hw with hw | hw
    · exact (h.fair w hw).later hm.signal
    · intro hn
      rw [hnew w hw] at hn
      cases hn
  refine ⟨hm.deadline h.deadline, fun w hw => ?_, fun w hw hc => ?_⟩
  · obtain ⟨v, hv, rfl⟩ := List.mem_map.1 hw
    exact (hfair v hv).poll
  · obtain ⟨v, hv, rfl⟩ := List.mem_map.1 hw
    rw [Waiter.context_poll] at hc
    exact (hfair v hv).finished_poll.2 (.inr hc)

/-- A step makes a waiter finish just when it leaves its context cancelled. -/
theorem Kept.waiter_step {index : Nat} {w : Waiter} (h : s.Kept) (hw : s.waiters[index]? = some w)
    (hs : s.step? move = some s') :
    ∃ w', s'.waiters[index]? = some w' ∧ w'.context = w.context ∧
      (w'.finished = true ↔ w.finished = true ∨ w.context.isCancelled s'.signal s'.now = true) := by
  obtain ⟨s₁, -, hm, rfl⟩ := step?_eq_some hs
  obtain ⟨new, hwaiters, -⟩ := hm.waiters
  refine ⟨w.poll s₁.signal s₁.now, ?_, Waiter.context_poll, ?_⟩
  · have hlt := (List.getElem?_eq_some_iff.1 hw).1
    simp only [look, List.getElem?_map, hwaiters, List.getElem?_append_left hlt, hw, Option.map_some]
  · exact ((h.fair w (List.mem_of_getElem? hw)).later hm.signal).finished_poll

/-! ### Runs -/

theorem run?_nil : s.run? [] = some s := rfl

theorem run?_cons {moves : List Move} : s.run? (move :: moves) = (s.step? move).bind (·.run? moves) := by
  simp [run?]

theorem run?_append {moves later : List Move} :
    s.run? (moves ++ later) = (s.run? moves).bind (·.run? later) := by
  simp [run?, List.foldlM_append]

theorem Kept.run {moves : List Move} (h : s.Kept) (hr : s.run? moves = some s') : s'.Kept := by
  induction moves generalizing s with
  | nil =>
    cases hr
    exact h
  | cons move moves ih =>
    rw [run?_cons] at hr
    obtain ⟨s₁, hs, hr⟩ := Option.bind_eq_some_iff.1 hr
    exact ih (h.step hs) hr

theorem value_run {moves : List Move} (hr : s.run? moves = some s') :
    s'.signal.value = (moves.filterMap Move.value?).getLastD s.signal.value := by
  induction moves generalizing s with
  | nil =>
    cases hr
    rfl
  | cons move moves ih =>
    rw [run?_cons] at hr
    obtain ⟨s₁, hs, hr⟩ := Option.bind_eq_some_iff.1 hr
    obtain ⟨s₂, -, hm, rfl⟩ := step?_eq_some hs
    have hv : s₂.look.signal.value = move.value?.getD s.signal.value := hm.value
    rw [ih hr, hv]
    cases hvalue : move.value? with
    | none => rw [List.filterMap_cons_none hvalue]; rfl
    | some value => rw [List.filterMap_cons_some hvalue, List.getLastD_cons]; rfl

/-- A waiter is finished just when its context was cancelled behind some of the steps. -/
theorem Kept.finished_run {moves : List Move} {index : Nat} {w : Waiter} (h : s.Kept)
    (hw : s.waiters[index]? = some w) (hr : s.run? moves = some s') :
    ∃ w', s'.waiters[index]? = some w' ∧ w'.context = w.context ∧
      (w'.finished = true ↔ w.finished = true ∨ ∃ mid rest s₁, moves = mid ++ rest ∧ s.run? mid = some s₁ ∧
        w.context.isCancelled s₁.signal s₁.now = true) := by
  induction moves generalizing s w with
  | nil =>
    cases hr
    refine ⟨w, hw, rfl, .inl, ?_⟩
    rintro (hf | ⟨mid, rest, s₁, he, hs, hc⟩)
    · exact hf
    · obtain ⟨rfl, -⟩ := List.append_eq_nil_iff.1 he.symm
      cases hs
      exact h.polled w (List.mem_of_getElem? hw) hc
  | cons move moves ih =>
    rw [run?_cons] at hr
    obtain ⟨s₁, hs, hr⟩ := Option.bind_eq_some_iff.1 hr
    obtain ⟨w₁, hw₁, hcontext₁, hfin₁⟩ := h.waiter_step hw hs
    obtain ⟨w', hw', hcontext, hfin⟩ := ih (h.step hs) hw₁ hr
    rw [hcontext₁] at hcontext hfin
    refine ⟨w', hw', hcontext, hfin.trans ?_⟩
    rw [hfin₁]
    constructor
    · rintro ((hf | hc) | ⟨mid, rest, s₂, rfl, hs₂, hc⟩)
      · exact .inl hf
      · exact .inr ⟨[move], moves, s₁, rfl, by rw [run?_cons, hs]; rfl, hc⟩
      · exact .inr ⟨move :: mid, rest, s₂, rfl, by rw [run?_cons, hs]; exact hs₂, hc⟩
    · rintro (hf | ⟨mid, rest, s₂, he, hs₂, hc⟩)
      · exact .inl (.inl hf)
      cases mid with
      | nil =>
        cases hs₂
        exact .inl (.inl (h.polled w (List.mem_of_getElem? hw) hc))
      | cons first mid =>
        obtain ⟨rfl, rfl⟩ := List.cons.inj he
        rw [run?_cons, hs] at hs₂
        exact .inr ⟨mid, rest, s₂, rfl, hs₂, hc⟩

theorem kept_start (signal : Signal) (now : Nat) : (start signal now).Kept := by
  refine ⟨?_, ?_, ?_⟩ <;> simp [start]

/-- A wait begins on a copy of the context as it is, and looks at once. -/
theorem begun_of_wait {index : Nat} (hs : s.step? (.wait index) = some s') :
    ∃ made w, s.contexts[index]? = some made ∧ s'.waiters[s.waiters.length]? = some w ∧ w.context = made.context ∧
      (w.finished = true ↔ made.context.isCancelled s'.signal s'.now = true) := by
  obtain ⟨s₁, hm, rfl⟩ := Option.map_eq_some_iff.1 hs
  obtain ⟨made, hmade, rfl⟩ := Option.map_eq_some_iff.1 hm
  have hfair : ({ context := made.context } : Waiter).Fair s.signal := fun hn => by cases hn
  refine ⟨made, ({ context := made.context } : Waiter).poll s.signal s.now, hmade, by simp [look],
    Waiter.context_poll, ?_⟩
  rw [hfair.finished_poll]
  exact or_iff_right (by simp)

/-- The signal that is let go completes no wait, and keeps its value. -/
theorem Kept.abandon (h : s.Kept) (hs : s.step? .abandon = some s') :
    s'.signal.value = s.signal.value ∧ s'.now = s.now ∧
      s'.waiters.map Waiter.finished = s.waiters.map Waiter.finished := by
  cases hs
  refine ⟨rfl, rfl, ?_⟩
  simp only [look, List.map_map]
  refine List.map_congr_left fun w hw => Bool.eq_iff_iff.2 ?_
  have hfair : w.Fair s.signal.abandon := fun hn => ⟨(h.fair w hw hn).1, rfl⟩
  rw [Function.comp_apply, hfair.finished_poll]
  constructor
  · rintro (hf | hc)
    · exact hf
    · exact h.polled w hw hc
  · exact .inl

/-- The contexts made from one signal, and the waits on them, after any history. The earliest deadline counts,
in whatever order they were given; a context is cancelled just when the value that was set last is true or a
deadline has come; a wait is over just when its copy of a context was cancelled behind some step since it
began; the signal that is let go ends no wait and keeps its value, and a deadline ends a wait all the same. -/
theorem waiting_run {signal : Signal} {now : Nat} {moves : List Move}
    (hr : (start signal now).run? moves = some s) :
    (∀ made ∈ s.contexts, (made.context.deadline = none ↔ made.deadlines = []) ∧
      (∀ time, made.context.deadline = some time ↔
        time ∈ made.deadlines ∧ ∀ other ∈ made.deadlines, time ≤ other) ∧
      (made.context.isCancelled s.signal s.now = true ↔
        (moves.filterMap Move.value?).getLastD signal.value = true ∨ ∃ time ∈ made.deadlines, time ≤ s.now)) ∧
    (∀ before index after, moves = before ++ .wait index :: after →
      ∃ s₀ made w, (start signal now).run? before = some s₀ ∧ s₀.contexts[index]? = some made ∧
        s.waiters[s₀.waiters.length]? = some w ∧ w.context = made.context ∧
        (w.finished = true ↔ ∃ mid rest s₁, after = mid ++ rest ∧
          (start signal now).run? (before ++ .wait index :: mid) = some s₁ ∧
          made.context.isCancelled s₁.signal s₁.now = true)) ∧
    (∀ s', s.step? .abandon = some s' → s'.signal.value = s.signal.value ∧ s'.now = s.now ∧
      s'.waiters.map Waiter.finished = s.waiters.map Waiter.finished) ∧
    (∀ w ∈ s.waiters, w.context.isOver s.now = true → w.finished = true) := by
  have h := (kept_start signal now).run hr
  refine ⟨fun made hm => ?_, ?_, fun s' hs => h.abandon hs, fun w hw ho =>
    h.polled w hw (Context.isCancelled_iff.2 (.inr ho))⟩
  · have hd := h.deadline made hm
    have hmin (time : Nat) : made.context.deadline = some time ↔
        time ∈ made.deadlines ∧ ∀ other ∈ made.deadlines, time ≤ other := by
      rw [hd, List.min?_eq_some_iff]
    refine ⟨by rw [hd, List.min?_eq_none_iff], hmin, ?_⟩
    rw [Context.isCancelled_iff, value_run hr]
    refine or_congr_right ?_
    unfold Context.isOver
    constructor
    · intro ho
      obtain ⟨time, ht, hle⟩ := (Option.any_eq_true _ _).1 ho
      exact ⟨time, ((hmin time).1 ht).1, of_decide_eq_true hle⟩
    · rintro ⟨time, ht, hle⟩
      cases hdead : made.context.deadline with
      | none =>
        rw [hd, List.min?_eq_none_iff] at hdead
        rw [hdead] at ht
        cases ht
      | some least =>
        have := ((hmin least).1 hdead).2 time ht
        simp only [Option.any_some, decide_eq_true_eq]
        omega
  · rintro before index after rfl
    rw [run?_append] at hr
    obtain ⟨s₀, hbefore, hr⟩ := Option.bind_eq_some_iff.1 hr
    rw [run?_cons] at hr
    obtain ⟨s₁, hs, hr⟩ := Option.bind_eq_some_iff.1 hr
    obtain ⟨made, w₁, hmade, hw₁, hcontext₁, hfin₁⟩ := begun_of_wait hs
    obtain ⟨w, hw, hcontext, hfin⟩ := (((kept_start signal now).run hbefore).step hs).finished_run hw₁ hr
    rw [hcontext₁] at hcontext hfin
    have hsplit (mid : List Move) :
        (start signal now).run? (before ++ .wait index :: mid) = s₁.run? mid := by
      rw [run?_append, hbefore, Option.bind_some, run?_cons, hs, Option.bind_some]
    refine ⟨s₀, made, w, hbefore, hmade, hw, hcontext, hfin.trans ?_⟩
    simp only [hsplit]
    constructor
    · rintro (hf | hlater)
      · exact ⟨[], after, s₁, rfl, rfl, hfin₁.1 hf⟩
      · exact hlater
    · exact .inr

/-- A deadline ends a wait on a signal that was let go, and not the wait that began before it was given. -/
theorem waiting_run_abandoned :
    ∃ s early late,
      (start {} 0).run? [.deadline 0 10, .wait 0, .deadline 0 5, .wait 0, .abandon, .advance 7] = some s ∧
      s.waiters = [early, late] ∧ late.context.deadline = some 5 ∧ late.finished = true ∧
      early.finished = false := by
  have hr : (start {} 0).run?
      [.deadline 0 10, .wait 0, .deadline 0 5, .wait 0, .abandon, .advance 7] = some _ := rfl
  obtain ⟨-, -, -, hover⟩ := waiting_run hr
  exact ⟨_, _, _, rfl, rfl, rfl, hover _ (List.mem_cons_of_mem _ (List.mem_singleton.2 rfl)) rfl, rfl⟩

end Context.History

end Courier
