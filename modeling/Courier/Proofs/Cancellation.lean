import Courier.Proofs.Course
import Courier.Proofs.Waiting

/-!
# Which contexts outlive their connection

Nothing but the task sets the signal of a request. A task that returns has set it, and so has one that heard of
the end of the connection. A service that breaks down before that takes the signal with it: the contexts of the
request are then cancelled by their own deadlines or never (`Course.cancellation_run`).
-/

namespace Courier

theorem Context.isOver_later {context : Context} {now later : Nat} (h : context.isOver now = true)
    (hl : now ≤ later) : context.isOver later = true := by
  unfold isOver at h ⊢
  cases hd : context.deadline with
  | none =>
    rw [hd] at h
    cases h
  | some time =>
    rw [hd] at h
    simp only [Option.any_some, decide_eq_true_eq] at h ⊢
    omega

theorem Context.isCancelled_later {context : Context} {signal signal' : Signal} {now later : Nat}
    (h : context.isCancelled signal now = true) (hs : signal.value = true → signal'.value = true)
    (hl : now ≤ later) : context.isCancelled signal' later = true := by
  rw [isCancelled_iff] at h ⊢
  exact h.imp hs (isOver_later · hl)

namespace Course

variable {σ : Type} [ResponseSink σ] {c c' : Course σ} {move : Move σ}

/-- What holds in a course of those who wait: nobody turned away from a signal that may still hold, and nobody
went on before the context was cancelled. -/
structure Kept (c : Course σ) : Prop where
  sound : c.task.Sound c.closed
  fair : ∀ w ∈ c.waiters, w.Fair c.task.cancelled
  justified : ∀ w ∈ c.waiters, w.finished = true → w.context.isCancelled c.task.cancelled c.now = true

theorem Kept.step (h : c.Kept) (hs : c.step? move = some c') : c'.Kept := by
  have hsound := sound_step h.sound hs
  cases move with
  | request m =>
    obtain ⟨task, ht, rfl, -⟩ := request_of_step? hs
    obtain ⟨hvalue, hstill⟩ := h.sound.cancelled (RequestTask.turn_of_step? ht)
    exact ⟨hsound, fun w hw => (h.fair w hw).later hstill,
      fun w hw hf => Context.isCancelled_later (h.justified w hw hf) hvalue (Nat.le_refl _)⟩
  | turn | close | abandon =>
    cases hs
    exact ⟨hsound, h.fair, h.justified⟩
  | advance span =>
    cases hs
    exact ⟨hsound, h.fair, fun w hw hf => Context.isCancelled_later (h.justified w hw hf) id (Nat.le_add_right ..)⟩
  | wait context =>
    cases hs
    refine ⟨hsound, fun w hw => ?_, fun w hw hf => ?_⟩
    · rcases List.mem_append.1 hw with hw | hw
      · exact h.fair w hw
      · rw [List.mem_singleton.1 hw]
        exact nofun
    · rcases List.mem_append.1 hw with hw | hw
      · exact h.justified w hw hf
      · rw [List.mem_singleton.1 hw] at hf
        cases hf
  | look =>
    cases hs
    refine ⟨hsound, fun w hw => ?_, fun w hw hf => ?_⟩
    · obtain ⟨v, hv, rfl⟩ := List.mem_map.1 hw
      exact (h.fair v hv).poll
    · obtain ⟨v, hv, rfl⟩ := List.mem_map.1 hw
      rw [Waiter.context_poll]
      rcases (h.fair v hv).finished_poll.1 hf with hf | hc
      · exact h.justified v hv hf
      · exact hc

theorem kept_run {moves : List (Move σ)} (h : c.Kept) (hr : c.run? moves = some c') : c'.Kept :=
  run?_invariant (fun _ _ _ h hs => h.step hs) h hr

/-- The signal is set when the end of the connection is heard of, and when the task returns. -/
theorem signal_step (h : c.task.Sound c.closed) (hs : c.step? move = some c') :
    c'.task.cancelled.value = true ↔
      c.task.cancelled.value = true ∨ .request .hear = move ∨ c'.task.stage = .returned := by
  constructor
  · intro hv
    rcases step_cases hs with ⟨m, task, rfl, ht, rfl, -⟩ | ⟨-, ⟨sink, htask⟩, -⟩
    · have hmove := RequestTask.step?_eq_some ht
      cases m with
      | hear => exact .inr (.inl rfl)
      | finish =>
        obtain ⟨-, -, rfl⟩ := hmove
        exact .inr (.inr rfl)
      | answer | breakDown =>
        obtain ⟨-, -, rfl⟩ := hmove
        exact .inl hv
      | deliver =>
        obtain ⟨-, x, -, rfl⟩ := hmove
        exact .inl hv
      | produce =>
        obtain ⟨x, -, rfl⟩ := hmove
        exact .inl hv
    · rw [htask] at hv
      exact .inl hv
  · rintro (hv | rfl | hreturned)
    · exact cancelled_step h hs hv
    · obtain ⟨task, ht, rfl, -⟩ := request_of_step? hs
      obtain ⟨hstage, -, rfl⟩ := RequestTask.step?_eq_some ht
      have hset := h.settable (RequestTask.isRunning_iff.2 (.inl hstage))
      simp [Signal.set, hset]
    · exact ((sound_step h hs).of_returned hreturned).1

theorem signal_run {moves : List (Move σ)} (h : c.task.Sound c.closed) (hr : c.run? moves = some c') :
    c'.task.cancelled.value = true ↔
      c.task.cancelled.value = true ∨ .request .hear ∈ moves ∨ c'.task.stage = .returned := by
  induction moves generalizing c with
  | nil =>
    cases hr
    exact ⟨.inl, fun hv => hv.elim id fun hv => (h.of_returned (hv.resolve_left nofun)).1⟩
  | cons move moves ih =>
    rw [run?_cons] at hr
    obtain ⟨c₁, hs, hr⟩ := Option.bind_eq_some_iff.1 hr
    have hkeep : c₁.task.stage = .returned → c'.task.stage = .returned := fun hreturned =>
      (not_running_run hr (by simp [RequestTask.isRunning, hreturned])).1.trans hreturned
    have hstep := signal_step h hs
    have hrun := ih (sound_step h hs) hr
    rw [List.mem_cons]
    grind

/-- Which contexts are cancelled when the task is over. If it has returned, or has heard of the end of the
connection, all of them are, and nobody waits any more who looks. If not, the service broke down before, and no
context is ever cancelled but by its own deadline. -/
theorem cancellation_run {request : Request} {closed : Signal} {sink : σ} {chunks : List Bytes}
    {moves : List (Move σ)} (hr : (start request closed sink chunks).run? moves = some c)
    (hn : c.task.isRunning = false) :
    (∀ context : Context, context.isCancelled c.task.cancelled c.now = true ↔
      (.request .hear ∈ moves ∨ c.task.stage = .returned) ∨ context.isOver c.now = true) ∧
    (∀ w ∈ c.waiters, (w.poll c.task.cancelled c.now).finished = true ↔
      (.request .hear ∈ moves ∨ c.task.stage = .returned) ∨ w.context.isOver c.now = true) ∧
    (c.task.stage = .broken → .request .hear ∉ moves → ∀ later c', c.run? later = some c' →
      ∀ context : Context, context.isCancelled c'.task.cancelled c'.now = true ↔ context.isOver c'.now = true) := by
  have hstart : (start request closed sink chunks).Kept := ⟨rfl, nofun, nofun⟩
  have hkept := kept_run hstart hr
  have hsignal : c.task.cancelled.value = true ↔ .request .hear ∈ moves ∨ c.task.stage = .returned := by
    rw [signal_run hstart.sound hr]
    exact ⟨fun hv => hv.resolve_left nofun, .inr⟩
  have hcancelled (context : Context) : context.isCancelled c.task.cancelled c.now = true ↔
      (.request .hear ∈ moves ∨ c.task.stage = .returned) ∨ context.isOver c.now = true := by
    rw [Context.isCancelled_iff, hsignal]
  refine ⟨hcancelled, fun w hw => ?_, fun hbroken hheard later c' hlater context => ?_⟩
  · rw [← hcancelled w.context, (hkept.fair w hw).finished_poll]
    exact ⟨fun hf => hf.elim (hkept.justified w hw) id, .inr⟩
  · rw [Context.isCancelled_iff, (not_running_run hlater hn).2, hsignal]
    refine ⟨fun hc => hc.resolve_left ?_, .inr⟩
    rintro (hv | hreturned)
    · exact hheard hv
    · rw [hbroken] at hreturned
      cases hreturned

/-- A service that breaks down leaves two behind that wait, and the deadline of one of them comes. -/
theorem cancellation_run_broken :
    ∃ c early late, (start {} {} ({} : Recorder) []).run?
        [.wait { deadline := some 5 }, .wait {}, .request .breakDown, .close, .advance 7] = some c ∧
      c.waiters = [early, late] ∧ (early.poll c.task.cancelled c.now).finished = true ∧
      ¬ (late.poll c.task.cancelled c.now).finished = true := by
  have hr : (start {} {} ({} : Recorder) []).run?
      [.wait { deadline := some 5 }, .wait {}, .request .breakDown, .close, .advance 7] = some _ := rfl
  obtain ⟨-, hwaiters, -⟩ := cancellation_run hr rfl
  refine ⟨_, _, _, hr, rfl, (hwaiters _ (List.mem_cons_self ..)).2 (.inr rfl), fun hf => ?_⟩
  rcases (hwaiters _ (List.mem_cons_of_mem _ (List.mem_singleton.2 rfl))).1 hf with (hheard | hreturned) | hover
  · simp at hheard
  · cases hreturned
  · cases hover

/-- The connection has ended, the task is over, and someone waits for ever. -/
theorem not_forall_cancelled :
    ¬ ∀ (moves : List (Move Recorder)) (c : Course Recorder), (start {} {} {} []).run? moves = some c →
      c.closed.isOver = true → c.task.isRunning = false →
      (∀ context : Context, context.isCancelled c.task.cancelled c.now = true) ∧
        ∀ w ∈ c.waiters, (w.poll c.task.cancelled c.now).finished = true := by
  intro h
  have hcancelled := (h [.wait {}, .request .breakDown, .close, .look] _ rfl rfl rfl).1 {}
  cases hcancelled

end Course

end Courier
