import Courier.Host.Acceptor

/-!
# When an acceptor stops

What an acceptor has heard of its stop signal is that it was set, or that nobody is left to set it; what the
signal holds is what it was set to last. The two are kept side by side through a run (`Kept`). An acceptor does
what its signal says as long as they agree, and only so long (`stopping_run`).
-/

namespace Courier

namespace Acceptor

variable {κ : Type} {signal : Signal} {a a' : Acceptor κ} {move : Move κ} {moves : List (Move κ)}

/-- What the stop signal is set to. -/
def Move.value? : Move κ → Option Bool
  | .set value => some value
  | _ => none

/-- Whether the move is one of those that change the stop signal or end its changes. -/
def Move.isNews : Move κ → Bool
  | .set _ | .abandon => true
  | _ => false

def Move.arrival? : Move κ → Option κ
  | .arrive connection => some connection
  | _ => none

def Move.isAccept : Move κ → Bool
  | .accept => true
  | _ => false

/-- The acceptor can stop now exactly if its signal holds. -/
def Heeds (a : Acceptor κ) : Prop := (∃ a', a.step? .stop = some a') ↔ a.stop.value = true

theorem isServing_iff : a.isServing = true ↔ a.state = .serving := by simp [isServing]

theorem step?_stop : (∃ a', a.step? .stop = some a') ↔ a.isServing = true ∧ a.hasNews = true := by
  simp [step?]

/-- What each move asks for and what it changes. -/
theorem step?_eq_some (h : a.step? move = some a') :
    match move with
    | .arrive connection => a' = { a with backlog := a.backlog ++ [connection] }
    | .set value => a.stop.settable = true ∧ a' = { a with stop := { a.stop with value }, isChanged := true }
    | .abandon => a' = { a with stop := a.stop.abandon }
    | .accept => a.isServing = true ∧ ∃ connection backlog, a.backlog = connection :: backlog ∧
        a' = { a with backlog, accepted := a.accepted ++ [connection] }
    | .fail fault => a.isServing = true ∧ a' = { a with state := .failed (.accept fault) }
    | .stop => a.isServing = true ∧ a.hasNews = true ∧
        a' = { a with state := .stopped, notices := a.notices ++ [.shuttingDown] } := by
  cases move with
  | arrive connection => exact (Option.some.inj h).symm
  | set value =>
    simp only [step?, Option.ite_none_right_eq_some, Option.some.injEq] at h
    refine ⟨h.1, ?_⟩
    rw [← h.2, Signal.set, if_pos h.1]
  | abandon => exact (Option.some.inj h).symm
  | accept =>
    cases hserving : a.isServing <;> cases hbacklog : a.backlog <;>
      simp only [step?, hserving, hbacklog, reduceCtorEq, Option.some.injEq] at h
    exact ⟨rfl, _, _, rfl, h.symm⟩
  | fail fault =>
    simp only [step?, Option.ite_none_right_eq_some, Option.some.injEq] at h
    exact ⟨h.1, h.2.symm⟩
  | stop =>
    simp only [step?, Bool.and_eq_true, Option.ite_none_right_eq_some, Option.some.injEq] at h
    exact ⟨h.1.1, h.1.2, h.2.symm⟩

/-- What is known of an acceptor that began with `signal` and made the moves. -/
structure Kept (signal : Signal) (moves : List (Move κ)) (a : Acceptor κ) : Prop where
  value : a.stop.value = (moves.filterMap Move.value?).getLastD signal.value
  news : a.hasNews = true ↔ signal.settable = false ∨ ∃ move ∈ moves, move.isNews = true
  arrived : a.accepted ++ a.backlog = moves.filterMap Move.arrival?
  handed : a.accepted.length = moves.countP Move.isAccept
  stopped : a.state = .stopped ↔ .stop ∈ moves

theorem kept_start (signal : Signal) : Kept signal [] ({ stop := signal } : Acceptor κ) where
  value := rfl
  news := by simp [hasNews]
  arrived := rfl
  handed := rfl
  stopped := by simp

/-- What one move adds to what is known. -/
theorem Kept.snoc (h : Kept signal moves a) (hvalue : a'.stop.value = move.value?.getD a.stop.value)
    (hnews : a'.hasNews = (a.hasNews || move.isNews))
    (harrived : a'.accepted ++ a'.backlog = a.accepted ++ a.backlog ++ move.arrival?.toList)
    (hhanded : a'.accepted.length = a.accepted.length + [move].countP Move.isAccept)
    (hstopped : a'.state = .stopped ↔ a.state = .stopped ∨ move = .stop) : Kept signal (moves ++ [move]) a' where
  value := by
    rw [hvalue, h.value]
    cases hv : move.value? <;> simp [hv]
  news := by
    rw [hnews, Bool.or_eq_true, h.news]
    simp [or_assoc]
  arrived := by
    rw [harrived, h.arrived]
    cases ha : move.arrival? <;> simp [ha]
  handed := by rw [hhanded, h.handed, List.countP_append]
  stopped := by
    rw [hstopped, h.stopped]
    simp [eq_comm]

theorem Kept.step (h : Kept signal moves a) (hs : a.step? move = some a') : Kept signal (moves ++ [move]) a' := by
  cases move with
  | arrive connection =>
    obtain rfl : a' = _ := step?_eq_some hs
    exact h.snoc rfl (Bool.or_false _).symm (List.append_assoc ..).symm rfl (by simp)
  | set value =>
    obtain ⟨-, rfl⟩ := step?_eq_some hs
    exact h.snoc rfl (by simp [hasNews, Move.isNews]) (List.append_nil _).symm rfl (by simp)
  | abandon =>
    obtain rfl : a' = _ := step?_eq_some hs
    exact h.snoc rfl (by simp [hasNews, Move.isNews, Signal.abandon]) (List.append_nil _).symm rfl (by simp)
  | accept =>
    obtain ⟨-, connection, backlog, hbacklog, rfl⟩ := step?_eq_some hs
    exact h.snoc rfl (Bool.or_false _).symm (by simp [hbacklog, Move.arrival?]) List.length_append (by simp)
  | fail fault =>
    obtain ⟨hserving, rfl⟩ := step?_eq_some hs
    have hstate := isServing_iff.1 hserving
    exact h.snoc rfl (Bool.or_false _).symm (List.append_nil _).symm rfl (by simp [hstate])
  | stop =>
    obtain ⟨-, -, rfl⟩ := step?_eq_some hs
    exact h.snoc rfl (Bool.or_false _).symm (List.append_nil _).symm rfl (by simp)

theorem Kept.run {later : List (Move κ)} (h : Kept signal moves a) (hr : a.run? later = some a') :
    Kept signal (moves ++ later) a' := by
  induction later generalizing moves a with
  | nil =>
    cases hr
    rwa [List.append_nil]
  | cons move later ih =>
    simp only [run?, List.foldlM_cons, Option.bind_eq_bind, Option.bind_eq_some_iff] at hr
    obtain ⟨a₁, hs, hr⟩ := hr
    rw [List.append_cons]
    exact ih (h.step hs) hr

/-- An acceptor can stop when its signal was set, to whatever value, and when nobody is left to set it: it does
what the signal says exactly if that came about, and the last value is true, or neither. Until then it hands the
connections that arrive to a task of their own, one with every accept, in their order. -/
theorem stopping_run (hr : ({ stop := signal } : Acceptor κ).run? moves = some a) :
    ((∃ a', a.step? .stop = some a') ↔
      a.isServing = true ∧ (signal.settable = false ∨ ∃ move ∈ moves, move.isNews = true)) ∧
    (a.isServing = true → (a.Heeds ↔
      ((signal.settable = false ∨ ∃ move ∈ moves, move.isNews = true) ↔
        (moves.filterMap Move.value?).getLastD signal.value = true))) ∧
    (a.state = .stopped ↔ .stop ∈ moves) ∧
    a.accepted ++ a.backlog = moves.filterMap Move.arrival? ∧
    a.accepted.length = moves.countP Move.isAccept ∧
    ((∃ a', a.step? .accept = some a') ↔ a.isServing = true ∧ a.backlog ≠ []) := by
  have hkept := (kept_start signal).run hr
  rw [List.nil_append] at hkept
  have hstop : (∃ a', a.step? .stop = some a') ↔
      a.isServing = true ∧ (signal.settable = false ∨ ∃ move ∈ moves, move.isNews = true) := by
    rw [step?_stop, hkept.news]
  refine ⟨hstop, fun hserving => ?_, hkept.stopped, hkept.arrived, hkept.handed, ?_⟩
  · rw [Heeds, hstop, hkept.value, and_iff_right hserving]
  · constructor
    · rintro ⟨a', ha⟩
      obtain ⟨hserving, connection, backlog, hbacklog, -⟩ := step?_eq_some ha
      exact ⟨hserving, by simp [hbacklog]⟩
    · rintro ⟨hserving, hbacklog⟩
      obtain ⟨connection, backlog, hbacklog⟩ := List.exists_cons_of_ne_nil hbacklog
      exact ⟨_, by rw [step?, hserving, hbacklog]⟩

/-- A signal that is set to false stops an acceptor, with a connection still to be accepted. -/
theorem stopping_run_false :
    ∃ a : Acceptor Nat, ({ stop := {} } : Acceptor Nat).run? [.arrive 1, .arrive 2, .accept, .set false] = some a ∧
      (∃ a', a.step? .stop = some a') ∧ ¬ a.Heeds ∧ a.accepted ++ a.backlog = [1, 2] := by
  have hr : ({ stop := {} } : Acceptor Nat).run? [.arrive 1, .arrive 2, .accept, .set false] = some _ := rfl
  obtain ⟨hstop, hheeds, -, harrived, -⟩ := stopping_run hr
  have hnews : ∃ move ∈ ([.arrive 1, .arrive 2, .accept, .set false] : List (Move Nat)), move.isNews = true :=
    ⟨.set false, by simp, rfl⟩
  refine ⟨_, hr, hstop.2 ⟨rfl, .inr hnews⟩, fun hh => ?_, harrived⟩
  cases ((hheeds rfl).1 hh).1 (.inr hnews)

/-- An acceptor stops although its signal does not hold, and one that nobody tells goes on waiting although its
signal holds. -/
theorem not_forall_heeded :
    (¬ ∀ (signal : Signal) (moves : List (Move Unit)) (a : Acceptor Unit),
      ({ stop := signal } : Acceptor Unit).run? (moves ++ [.stop]) = some a → a.stop.value = true) ∧
    ¬ ∀ (signal : Signal) (moves : List (Move Unit)) (a : Acceptor Unit),
      ({ stop := signal } : Acceptor Unit).run? moves = some a → a.isServing = true → a.stop.value = true →
        ∃ a', a.step? .stop = some a' := by
  constructor
  · intro h
    cases h {} [.abandon] _ rfl
  · intro h
    obtain ⟨a', ha⟩ := h { value := true } [] _ rfl rfl rfl
    cases ha

end Acceptor

end Courier
