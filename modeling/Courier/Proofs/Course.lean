import Courier.Proofs.Outcome
import Courier.Proofs.Turns

/-!
# How a request goes

The stage of a request task tells what the signal of the request is (`RequestTask.Sound`): it holds when the end
of the connection was heard of, or the delivery was found finished, and not before. The end of the connection
changes nothing in the delivery, which goes on as it would alone, to its one end.
-/

namespace Courier

variable {σ : Type}

/-! ### The task -/

/-- How the stage of a task, the signal of its request and the end of the connection belong together. -/
def RequestTask.Sound (closed : Signal) (task : RequestTask σ) : Prop :=
  match task.stage with
  | .racing => task.cancelled = {}
  | .finishing => task.cancelled = { value := true } ∧ closed.isOver = true
  | .returned =>
    task.cancelled = { value := true, settable := false } ∧ task.exchange.delivery.isFinished = true
  | .broken =>
    task.cancelled.settable = false ∧ (task.cancelled.value = true → closed.isOver = true) ∧
      task.exchange.delivery.isFinished = true

namespace RequestTask

variable {task task' : RequestTask σ} {closed closed' : Signal}

theorem isRunning_iff : task.isRunning = true ↔ task.stage = .racing ∨ task.stage = .finishing := by
  simp [isRunning]

namespace Sound

theorem settable (h : task.Sound closed) (hr : task.isRunning = true) : task.cancelled.settable = true := by
  unfold Sound at h
  rcases isRunning_iff.1 hr with hs | hs <;> rw [hs] at h
  · rw [h]
  · rw [h.1]

theorem isOver_of_cancelled (h : task.Sound closed) (hv : task.cancelled.value = true)
    (hf : task.exchange.delivery.isFinished = false) : closed.isOver = true := by
  unfold Sound at h
  split at h
  · rw [h] at hv
    cases hv
  · exact h.2
  · rw [hf] at h
    cases h.2
  · exact h.2.1 hv

theorem of_returned (h : task.Sound closed) (hs : task.stage = .returned) :
    task.cancelled.value = true ∧ task.exchange.delivery.isFinished = true := by
  unfold Sound at h
  rw [hs] at h
  exact ⟨by rw [h.1], h.2⟩

/-- The exchange may change as long as a finished delivery stays finished. -/
theorem exchange {x : Exchange σ} (h : task.Sound closed)
    (hx : task.exchange.delivery.isFinished = true → x.delivery.isFinished = true) :
    Sound closed { task with exchange := x } := by
  unfold Sound at h ⊢
  dsimp only
  split at h
  · exact h
  · exact h
  · exact ⟨h.1, hx h.2⟩
  · exact ⟨h.1, h.2.1, hx h.2.2⟩

theorem later (h : task.Sound closed) (hc : closed.isOver = true → closed'.isOver = true) :
    task.Sound closed' := by
  unfold Sound at h ⊢
  split at h
  · exact h
  · exact ⟨h.1, hc h.2⟩
  · exact h
  · exact ⟨h.1, fun hv => hc (h.2.1 hv), h.2.2⟩

end Sound

end RequestTask

section

variable [ResponseSink σ]

namespace RequestTask

variable {task task' : RequestTask σ} {closed : Signal}

theorem Turn.finished (ht : task.Turn closed task') (hf : task.exchange.delivery.isFinished = true) :
    task'.exchange.delivery.isFinished = true := by
  cases ht with
  | answer _ hd => simp [Delivery.isFinished, hd] at hf
  | breakDown => rfl
  | deliver _ ha =>
    rw [ha.not_finished] at hf
    cases hf
  | produce | hear | finish => exact hf

theorem Turn.not_running (ht : task.Turn closed task') (hr : task.isRunning = false) :
    task'.stage = task.stage ∧ task'.cancelled = task.cancelled := by
  cases ht with
  | produce => exact ⟨rfl, rfl⟩
  | hear hs => simp [isRunning, hs] at hr
  | answer hn | breakDown hn | deliver hn | finish hn =>
    rw [hn] at hr
    cases hr

theorem Sound.turn (h : task.Sound closed) (ht : task.Turn closed task') : task'.Sound closed := by
  cases ht with
  | answer hr hd => exact h.exchange fun hf => by simp [Delivery.isFinished, hd] at hf
  | deliver hr ha => exact h.exchange fun hf => by simp [ha.not_finished] at hf
  | produce hp hb hs => exact h.exchange id
  | breakDown hr hs =>
    refine ⟨rfl, fun hv => ?_, rfl⟩
    unfold Sound at h
    rcases isRunning_iff.1 hr with hstage | hstage <;> rw [hstage] at h
    · rw [collapse, h] at hv
      cases hv
    · exact h.2
  | hear hs ho =>
    unfold Sound at h
    rw [hs] at h
    exact ⟨by rw [h]; rfl, ho⟩
  | finish hr hf =>
    have hset := h.settable hr
    refine ⟨?_, hf⟩
    simp [conclude, Signal.set, Signal.abandon, hset]

/-- The signal of a request is not taken back, and does not change when nobody is left to set it. -/
theorem Sound.cancelled (h : task.Sound closed) (ht : task.Turn closed task') :
    (task.cancelled.value = true → task'.cancelled.value = true) ∧
      (task.cancelled.settable = false → task'.cancelled = task.cancelled) := by
  refine ⟨fun hv => ?_, fun hs => ?_⟩
  · cases ht with
    | answer | deliver | produce | breakDown => exact hv
    | hear hs =>
      have hset := h.settable (isRunning_iff.2 (.inl hs))
      simp [Signal.set, hset]
    | finish hr =>
      have hset := h.settable hr
      simp [conclude, Signal.set, Signal.abandon, hset]
  · refine (ht.not_running ?_).2
    cases hr : task.isRunning with
    | false => rfl
    | true =>
      rw [h.settable hr] at hs
      cases hs

end RequestTask

namespace Course

variable {c c' : Course σ} {move : Move σ}

/-! ### One step -/

theorem step?_request {m : RequestTask.Move} {task : RequestTask σ} (ht : c.task.step? c.closed m = some task)
    (hm : m = .hear → c.delivery.isFinished = false) : c.step? (.request m) = some { c with task } := by
  unfold step?
  dsimp only
  split
  · rename_i hf
    rw [hm rfl] at hf
    cases hf
  · rw [ht]
    rfl

theorem request_of_step? {m : RequestTask.Move} (hs : c.step? (.request m) = some c') :
    ∃ task, c.task.step? c.closed m = some task ∧ c' = { c with task } ∧
      (m = .hear → c.delivery.isFinished = false) := by
  unfold step? at hs
  dsimp only at hs
  split at hs
  · cases hs
  · rename_i hn
    obtain ⟨task, ht, rfl⟩ := Option.map_eq_some_iff.1 hs
    refine ⟨task, ht, rfl, fun hm => ?_⟩
    cases hf : c.delivery.isFinished with
    | false => rfl
    | true => exact (hn hm hf).elim

/-- A step is one of the task, or changes the task in nothing but its sink and may end the connection. -/
theorem step_cases (hs : c.step? move = some c') :
    (∃ m task, move = .request m ∧ c.task.step? c.closed m = some task ∧ c' = { c with task } ∧
      (m = .hear → c.delivery.isFinished = false)) ∨
    (∀ m, move ≠ .request m) ∧ (∃ sink, c'.task = { c.task with exchange.delivery.sink := sink }) ∧
      (c.closed.isOver = true → c'.closed.isOver = true) := by
  cases move with
  | request m =>
    obtain ⟨task, ht, hc, hm⟩ := request_of_step? hs
    exact .inl ⟨m, task, rfl, ht, hc, hm⟩
  | turn sink =>
    cases hs
    exact .inr ⟨(fun m hm => by cases hm), ⟨sink, rfl⟩, id⟩
  | close =>
    cases hs
    refine .inr ⟨(fun m hm => by cases hm), ⟨_, rfl⟩, fun ho => ?_⟩
    cases hset : c.closed.settable with
    | false => simpa [Signal.set, hset] using ho
    | true => simp [Signal.set, hset, Signal.isOver]
  | abandon =>
    cases hs
    exact .inr ⟨(fun m hm => by cases hm), ⟨_, rfl⟩, fun _ => by simp [Signal.isOver, Signal.abandon]⟩
  | advance | wait | look =>
    cases hs
    exact .inr ⟨(fun m hm => by cases hm), ⟨_, rfl⟩, id⟩

theorem sound_step (h : c.task.Sound c.closed) (hs : c.step? move = some c') : c'.task.Sound c'.closed := by
  rcases step_cases hs with ⟨m, task, -, ht, rfl, -⟩ | ⟨-, ⟨sink, htask⟩, hclosed⟩
  · exact h.turn (RequestTask.turn_of_step? ht)
  · rw [htask]
    exact (h.later hclosed).exchange id

theorem cancelled_step (h : c.task.Sound c.closed) (hs : c.step? move = some c')
    (hv : c.task.cancelled.value = true) : c'.task.cancelled.value = true := by
  rcases step_cases hs with ⟨m, task, -, ht, rfl, -⟩ | ⟨-, ⟨sink, htask⟩, -⟩
  · exact (h.cancelled (RequestTask.turn_of_step? ht)).1 hv
  · rw [htask]
    exact hv

theorem finished_step (hs : c.step? move = some c') (hf : c.delivery.isFinished = true) :
    c'.delivery.isFinished = true := by
  rcases step_cases hs with ⟨m, task, -, ht, rfl, -⟩ | ⟨-, ⟨sink, htask⟩, -⟩
  · exact (RequestTask.turn_of_step? ht).finished hf
  · rw [delivery, htask]
    exact hf

theorem not_running_step (hs : c.step? move = some c') (hn : c.task.isRunning = false) :
    c'.task.stage = c.task.stage ∧ c'.task.cancelled = c.task.cancelled := by
  rcases step_cases hs with ⟨m, task, -, ht, rfl, -⟩ | ⟨-, ⟨sink, htask⟩, -⟩
  · exact (RequestTask.turn_of_step? ht).not_running hn
  · rw [htask]
    exact ⟨rfl, rfl⟩

/-- Only a step of the delivery finishes it, unless the service breaks down. -/
theorem finishing_step (hs : c.step? move = some c') (hu : c.delivery.isFinished = false)
    (hf : c'.delivery.isFinished = true) : move = .request .deliver ∨ c'.task.stage = .broken := by
  have hsame (h : c'.delivery.isFinished = c.delivery.isFinished) : False := by
    rw [h, hu] at hf
    cases hf
  rcases step_cases hs with ⟨m, task, rfl, ht, rfl, -⟩ | ⟨-, ⟨sink, htask⟩, -⟩
  · have hmove := RequestTask.step?_eq_some ht
    cases m with
    | deliver => exact .inl rfl
    | breakDown =>
      obtain ⟨-, -, rfl⟩ := hmove
      exact .inr rfl
    | answer response =>
      obtain ⟨-, -, rfl⟩ := hmove
      cases hf
    | produce =>
      obtain ⟨x, hx, rfl⟩ := hmove
      obtain ⟨p, body, p', body', -, -, -, rfl⟩ := Exchange.produce?_eq_some hx
      exact (hsame rfl).elim
    | hear | finish =>
      obtain ⟨-, -, rfl⟩ := hmove
      exact (hsame rfl).elim
  · exact (hsame (by rw [delivery, htask]; rfl)).elim

theorem quiet_step {m : RequestTask.Move} (hs : c.step? (.request m) = some c')
    (hf : c.delivery.isFinished = true) : m = .produce ∨ m = .finish := by
  obtain ⟨task, ht, -, hm⟩ := request_of_step? hs
  have hstate : c.task.exchange.delivery.state = .finished := of_decide_eq_true hf
  have hmove := RequestTask.step?_eq_some ht
  cases m with
  | produce => exact .inl rfl
  | finish => exact .inr rfl
  | answer response => simp [hstate] at hmove
  | breakDown => simp [RequestTask.isInService, hstate] at hmove
  | deliver => simp [Exchange.deliver?, Delivery.step?, hstate] at hmove
  | hear =>
    rw [hm rfl] at hf
    cases hf

/-- The exchange goes as it would without the task and its connection. -/
theorem alone_step (hs : c.step? move = some c') (hb : c'.task.stage ≠ .broken) (later : List (Move σ)) :
    c.task.exchange.run? ((move :: later).filterMap Move.alone?) =
      c'.task.exchange.run? (later.filterMap Move.alone?) := by
  cases move with
  | request m =>
    obtain ⟨task, ht, rfl, -⟩ := request_of_step? hs
    have hmove := RequestTask.step?_eq_some ht
    cases m with
    | answer response =>
      obtain ⟨-, hstate, rfl⟩ := hmove
      simp [Move.alone?, Exchange.run?, Exchange.move?, hstate]
    | breakDown =>
      obtain ⟨-, -, rfl⟩ := hmove
      exact absurd rfl hb
    | deliver =>
      obtain ⟨-, x, hx, rfl⟩ := hmove
      simp [Move.alone?, Exchange.run?, Exchange.move?, hx]
    | produce =>
      obtain ⟨x, hx, rfl⟩ := hmove
      simp [Move.alone?, Exchange.run?, Exchange.move?, hx]
    | hear | finish =>
      obtain ⟨-, -, rfl⟩ := hmove
      rfl
  | turn | close | abandon | advance | wait | look =>
    cases hs
    rfl

/-! ### Runs -/

theorem run?_cons {moves : List (Move σ)} : c.run? (move :: moves) = (c.step? move).bind (·.run? moves) := by
  simp [run?]

theorem run?_invariant {P : Course σ → Prop} {moves : List (Move σ)}
    (hP : ∀ c c' move, P c → c.step? move = some c' → P c') (h : P c) (hr : c.run? moves = some c') : P c' := by
  induction moves generalizing c with
  | nil =>
    cases hr
    exact h
  | cons move moves ih =>
    rw [run?_cons] at hr
    obtain ⟨c₁, hs, hr⟩ := Option.bind_eq_some_iff.1 hr
    exact ih (hP c c₁ move h hs) hr

theorem sound_run {moves : List (Move σ)} (h : c.task.Sound c.closed) (hr : c.run? moves = some c') :
    c'.task.Sound c'.closed :=
  run?_invariant (P := fun c => c.task.Sound c.closed) (fun _ _ _ h hs => sound_step h hs) h hr

theorem not_running_run {moves : List (Move σ)} (hr : c.run? moves = some c') (hn : c.task.isRunning = false) :
    c'.task.stage = c.task.stage ∧ c'.task.cancelled = c.task.cancelled := by
  induction moves generalizing c with
  | nil =>
    cases hr
    exact ⟨rfl, rfl⟩
  | cons move moves ih =>
    rw [run?_cons] at hr
    obtain ⟨c₁, hs, hr⟩ := Option.bind_eq_some_iff.1 hr
    obtain ⟨hstage, hcancelled⟩ := not_running_step hs hn
    have hn₁ : c₁.task.isRunning = false := by rwa [RequestTask.isRunning, hstage]
    exact ⟨(ih hr hn₁).1.trans hstage, (ih hr hn₁).2.trans hcancelled⟩

theorem broken_run {moves : List (Move σ)} (hr : c.run? moves = some c') (hb : c.task.stage = .broken) :
    c'.task.stage = .broken :=
  (not_running_run hr (by simp [RequestTask.isRunning, hb])).1.trans hb

theorem alone_run {moves : List (Move σ)} (hr : c.run? moves = some c') (hb : c'.task.stage ≠ .broken) :
    c.task.exchange.run? (moves.filterMap Move.alone?) = some c'.task.exchange := by
  induction moves generalizing c with
  | nil =>
    cases hr
    rfl
  | cons move moves ih =>
    rw [run?_cons] at hr
    obtain ⟨c₁, hs, hr⟩ := Option.bind_eq_some_iff.1 hr
    rw [alone_step hs (fun hn => hb (broken_run hr hn)), ih hr]

theorem quiet_run {moves : List (Move σ)} (hr : c.run? moves = some c') (hf : c.delivery.isFinished = true) :
    ∀ m, .request m ∈ moves → m = .produce ∨ m = .finish := by
  induction moves generalizing c with
  | nil => exact nofun
  | cons move moves ih =>
    rw [run?_cons] at hr
    obtain ⟨c₁, hs, hr⟩ := Option.bind_eq_some_iff.1 hr
    intro m hm
    rcases List.mem_cons.1 hm with rfl | hm
    · exact quiet_step hs hf
    · exact ih hr (finished_step hs hf) m hm

/-- A run that finishes the delivery does so with one step of it, and does not drive it behind that. -/
theorem finishing_run {moves : List (Move σ)} (hr : c.run? moves = some c') (hu : c.delivery.isFinished = false)
    (hf : c'.delivery.isFinished = true) (hb : c'.task.stage ≠ .broken) :
    ∃ before after mid mid', moves = before ++ .request .deliver :: after ∧ c.run? before = some mid ∧
      mid.delivery.isFinished = false ∧ mid.step? (.request .deliver) = some mid' ∧
      mid'.delivery.isFinished = true ∧ ∀ m, .request m ∈ after → m = .produce ∨ m = .finish := by
  induction moves generalizing c with
  | nil =>
    cases hr
    rw [hu] at hf
    cases hf
  | cons move moves ih =>
    rw [run?_cons] at hr
    obtain ⟨c₁, hs, hr₁⟩ := Option.bind_eq_some_iff.1 hr
    cases hf₁ : c₁.delivery.isFinished with
    | true =>
      -- this is the step; if it were a breakdown, the task would stay broken
      rcases finishing_step hs hu hf₁ with rfl | hn
      · exact ⟨[], moves, c, c₁, rfl, rfl, hu, hs, hf₁, quiet_run hr₁ hf₁⟩
      · exact absurd (broken_run hr₁ hn) hb
    | false =>
      obtain ⟨before, after, mid, mid', rfl, hbefore, hrest⟩ := ih hr₁ hf₁
      refine ⟨move :: before, after, mid, mid', rfl, ?_, hrest⟩
      rw [run?_cons, hs, Option.bind_some, hbefore]

theorem deliver_isSome (hr : c.task.isRunning = true) :
    (c.step? (.request .deliver)).isSome = c.delivery.step?.isSome := by
  cases hd : c.delivery.step? with
  | none =>
    have ht : c.task.step? c.closed .deliver = none := by
      have hd : c.task.exchange.delivery.step? = none := hd
      simp [RequestTask.step?, hr, Exchange.deliver?, hd]
    cases hs : c.step? (.request .deliver) with
    | none => rfl
    | some c' =>
      obtain ⟨task, ht', -⟩ := request_of_step? hs
      rw [ht] at ht'
      cases ht'
  | some d =>
    have ht : c.task.step? c.closed .deliver = some { c.task with exchange.delivery := d } := by
      have hd : c.task.exchange.delivery.step? = some d := hd
      simp [RequestTask.step?, hr, Exchange.deliver?, hd]
    rw [step?_request ht fun hm => by cases hm]
    rfl

theorem finish_returns (hr : c.task.isRunning = true) (hf : c.delivery.isFinished = true) :
    ∃ c', c.step? (.request .finish) = some c' ∧ c'.task.stage = .returned := by
  have ht : c.task.step? c.closed .finish = some c.task.conclude := by
    have hf : c.task.exchange.delivery.isFinished = true := hf
    simp [RequestTask.step?, hr, hf]
  exact ⟨_, step?_request ht (fun hm => by cases hm), rfl⟩

/-- How a request goes, wherever the end of its connection falls. Its signal does not hold as long as the delivery
is made and the connection has not ended; it is not taken back; and it holds when the task returns. Until then
the task never keeps the delivery from a step, and returns when there is none to make. Unless the service breaks
down, one step finishes the delivery and none is made behind it, and the exchange goes as it would alone, so
that sink and log come out as on any other order of steps without a connection. -/
theorem lifecycle_run {request : Request} {closed : Signal} {sink : σ} {chunks : List Bytes}
    {moves : List (Move σ)} (hr : (start request closed sink chunks).run? moves = some c) :
    (start request closed sink chunks).task.cancelled.value = false ∧
    (c.delivery.isFinished = false → c.closed.isOver = false → c.task.cancelled.value = false) ∧
    (∀ later c', c.run? later = some c' → c.task.cancelled.value = true → c'.task.cancelled.value = true) ∧
    (c.task.stage = .returned → c.task.cancelled.value = true ∧ c.delivery.isFinished = true) ∧
    (c.task.isRunning = true → (c.step? (.request .deliver)).isSome = c.delivery.step?.isSome ∧
      (c.delivery.isFinished = true → ∃ c', c.step? (.request .finish) = some c' ∧ c'.task.stage = .returned)) ∧
    (c.task.stage ≠ .broken → c.delivery.isFinished = true → ∃ before after mid mid',
      moves = before ++ .request .deliver :: after ∧
      (start request closed sink chunks).run? before = some mid ∧ mid.delivery.isFinished = false ∧
      mid.step? (.request .deliver) = some mid' ∧ mid'.delivery.isFinished = true ∧
      ∀ m, .request m ∈ after → m = .produce ∨ m = .finish) ∧
    (c.task.stage ≠ .broken →
      (Exchange.arrive request sink chunks).run? (moves.filterMap Move.alone?) = some c.task.exchange) ∧
    (∀ service : Service, (∀ ch, (service request).body = some (.stream ch) → ch.Offered) →
      (∀ move ∈ moves.filterMap Move.alone?, move.IsOwn (service request)) →
      c.task.stage ≠ .broken → c.delivery.isFinished = true →
      ∀ others x, (∀ move ∈ others, Exchange.Move.IsOwn (service request) move) →
        (Exchange.arrive request sink chunks).run? others = some x → x.delivery.isFinished = true →
        c.delivery.sink = x.delivery.sink ∧ c.delivery.events = x.delivery.events) := by
  have hstart : (start request closed sink chunks).task.Sound (start request closed sink chunks).closed := rfl
  have hsound := sound_run hstart hr
  refine ⟨rfl, fun hu ho => ?_, fun later c' hlater hv => ?_, hsound.of_returned,
    fun hrun => ⟨deliver_isSome hrun, finish_returns hrun⟩, fun hb hf => finishing_run hr rfl hf hb, alone_run hr,
    fun service hn hm hb hf others x ho hx hxf => Exchange.outcome_unique hn hm ho (alone_run hr hb) hx hf hxf⟩
  · cases hv : c.task.cancelled.value with
    | false => rfl
    | true =>
      rw [hsound.isOver_of_cancelled hv hu] at ho
      cases ho
  · exact (run?_invariant (P := fun c => c.task.Sound c.closed ∧ c.task.cancelled.value = true)
      (fun _ _ _ h hs => ⟨sound_step h.1 hs, cancelled_step h.1 hs h.2⟩) ⟨hsound, hv⟩ hlater).2

/-- The connection ends while the body is copied, and the sink gets all of it. -/
theorem lifecycle_run_closed :
    ∃ c₁ c, (start {} {} ({} : Recorder) []).run?
        [.request (.answer { body := some (.bytes [97, 98]) }), .request .deliver, .request .deliver] = some c₁ ∧
      c₁.task.cancelled.value = false ∧
      (start {} {} ({} : Recorder) []).run?
        [.request (.answer { body := some (.bytes [97, 98]) }), .request .deliver, .request .deliver, .close,
          .request .hear, .request .deliver, .request .deliver, .request .deliver, .request .deliver,
          .request .finish] = some c ∧
      c.task.stage = .returned ∧ c.task.cancelled.value = true ∧ c.delivery.sink.body = [97, 98] := by
  have hopen : ((start {} {} ({} : Recorder) []).run?
      [.request (.answer { body := some (.bytes [97, 98]) }), .request .deliver, .request .deliver]).map
        (fun c => (c.delivery.isFinished, c.closed.isOver)) = some (false, false) := by decide +kernel
  have hclosed : ((start {} {} ({} : Recorder) []).run?
      [.request (.answer { body := some (.bytes [97, 98]) }), .request .deliver, .request .deliver, .close,
        .request .hear, .request .deliver, .request .deliver, .request .deliver, .request .deliver,
        .request .finish]).map (fun c => c.task.stage) = some .returned := by decide +kernel
  have halone : ((Exchange.arrive {} ({} : Recorder) []).run?
      [.answer { body := some (.bytes [97, 98]) }, .deliver, .deliver, .deliver, .deliver, .deliver, .deliver]).map
        (fun x => (x.delivery.isFinished, x.delivery.sink.body)) = some (true, [97, 98]) := by decide +kernel
  obtain ⟨c₁, hr₁, hc₁⟩ := Option.map_eq_some_iff.1 hopen
  obtain ⟨c, hr, hstage⟩ := Option.map_eq_some_iff.1 hclosed
  obtain ⟨x, hx, hxc⟩ := Option.map_eq_some_iff.1 halone
  obtain ⟨hu, ho⟩ := Prod.mk.inj hc₁
  obtain ⟨hxf, hbody⟩ := Prod.mk.inj hxc
  obtain ⟨-, hbefore, -⟩ := lifecycle_run hr₁
  obtain ⟨-, -, -, hreturned, -, -, -, hsame⟩ := lifecycle_run hr
  obtain ⟨hv, hf⟩ := hreturned hstage
  have hsink := hsame (fun _ => { body := some (.bytes [97, 98]) }) (fun ch h => by cases h)
    (by simp [Move.alone?, Exchange.Move.IsOwn]) (by simp [hstage]) hf _ x (by simp [Exchange.Move.IsOwn]) hx hxf
  exact ⟨c₁, c, hr₁, hbefore hu ho, hr, hstage, hv, by rw [hsink.1, hbody]⟩

end Course

end

end Courier
