import Courier.Host.Run
import Courier.Proofs.Calls
import Courier.Proofs.Relay

/-!
# Who does what in a run

`RequestTask.Turn` spells out the moves of a request task, one rule for each, and `Connection.Turn` those of the
connection around it. Unlike `Connection.Effect` they also cover a service that breaks down, and say how the end
of the connection is told.
-/

namespace Courier

/-- A move of a request task that hears `closed` from its connection. -/
inductive RequestTask.Turn {σ : Type} [ResponseSink σ] (task : RequestTask σ) (closed : Signal) :
    RequestTask σ → Prop
  | answer {response : Response} (hr : task.isRunning = true)
      (hd : task.exchange.delivery.state = .awaiting) :
      Turn task closed { task with exchange.delivery := task.exchange.delivery.answer response }
  | breakDown (hr : task.isRunning = true) (hs : task.isInService = true) : Turn task closed task.collapse
  | deliver {d : Delivery σ} (hr : task.isRunning = true) (ha : task.exchange.delivery.Advance d) :
      Turn task closed { task with exchange.delivery := d }
  | produce {p p' : Producer} {body body' : Body} (hp : task.exchange.producer = some p)
      (hb : task.exchange.delivery.body = some body) (hs : p.feed? body = some (p', body')) :
      Turn task closed { task with
        exchange := { delivery := { task.exchange.delivery with body := some body' }, producer := some p' } }
  | hear (hs : task.stage = .racing) (ho : closed.isOver = true) :
      Turn task closed { task with cancelled := task.cancelled.set true, stage := .finishing }
  | finish (hr : task.isRunning = true) (hf : task.exchange.delivery.isFinished = true) :
      Turn task closed task.conclude

/-- What each move asks for, and what it does. -/
theorem RequestTask.step?_eq_some {σ : Type} [ResponseSink σ] {task task' : RequestTask σ} {closed : Signal}
    {move : Move} (h : task.step? closed move = some task') :
    match move with
    | .answer response => task.isRunning = true ∧ task.exchange.delivery.state = .awaiting ∧
      task' = { task with exchange.delivery := task.exchange.delivery.answer response }
    | .breakDown => task.isRunning = true ∧ task.isInService = true ∧ task' = task.collapse
    | .deliver => task.isRunning = true ∧
      ∃ x, task.exchange.deliver? = some x ∧ task' = { task with exchange := x }
    | .produce => ∃ x, task.exchange.produce? = some x ∧ task' = { task with exchange := x }
    | .hear => task.stage = .racing ∧ closed.isOver = true ∧
      task' = { task with cancelled := task.cancelled.set true, stage := .finishing }
    | .finish => task.isRunning = true ∧ task.exchange.delivery.isFinished = true ∧ task' = task.conclude := by
  cases move with
  | answer response =>
    obtain ⟨hc, h⟩ := Option.ite_none_right_eq_some.1 h
    obtain ⟨hr, hd⟩ := Bool.and_eq_true_iff.1 hc
    exact ⟨hr, of_decide_eq_true hd, (Option.some.inj h).symm⟩
  | breakDown | finish =>
    obtain ⟨hc, h⟩ := Option.ite_none_right_eq_some.1 h
    obtain ⟨hr, hs⟩ := Bool.and_eq_true_iff.1 hc
    exact ⟨hr, hs, (Option.some.inj h).symm⟩
  | deliver =>
    obtain ⟨hr, h⟩ := Option.ite_none_right_eq_some.1 h
    obtain ⟨x, hx, h⟩ := Option.map_eq_some_iff.1 h
    exact ⟨hr, x, hx, h.symm⟩
  | produce =>
    obtain ⟨x, hx, h⟩ := Option.map_eq_some_iff.1 h
    exact ⟨x, hx, h.symm⟩
  | hear =>
    obtain ⟨hc, h⟩ := Option.ite_none_right_eq_some.1 h
    obtain ⟨hs, ho⟩ := Bool.and_eq_true_iff.1 hc
    exact ⟨of_decide_eq_true hs, ho, (Option.some.inj h).symm⟩

theorem RequestTask.turn_of_step? {σ : Type} [ResponseSink σ] {task task' : RequestTask σ} {closed : Signal}
    {move : Move} (h : task.step? closed move = some task') : task.Turn closed task' := by
  have hmove := step?_eq_some h
  cases move with
  | answer response =>
    obtain ⟨hr, hd, rfl⟩ := hmove
    exact .answer hr hd
  | breakDown =>
    obtain ⟨hr, hs, rfl⟩ := hmove
    exact .breakDown hr hs
  | deliver =>
    obtain ⟨hr, x, hx, rfl⟩ := hmove
    obtain ⟨d, hd, rfl⟩ := Option.map_eq_some_iff.1 hx
    exact .deliver hr (Delivery.advance_of_step? hd)
  | produce =>
    obtain ⟨x, hx, rfl⟩ := hmove
    obtain ⟨p, body, p', body', hp, hb, hf, rfl⟩ := Exchange.produce?_eq_some hx
    exact .produce hp hb hf
  | hear =>
    obtain ⟨hs, ho, rfl⟩ := hmove
    exact .hear hs ho
  | finish =>
    obtain ⟨hr, hf, rfl⟩ := hmove
    exact .finish hr hf

namespace Connection

/-- The relay once the ending is published. -/
def published (ending : Ending) (relay : Relay) : Relay :=
  match ending with
  | .clean => relay
  | .faulty fault => relay.publish fault

/-- A move on a connection: of the request task, of the host that goes on, or the next step of the ending. -/
inductive Turn (c : Connection) : Connection → Prop
  | request {task : RequestTask Relay} (ht : c.task.Turn c.closed task) : Turn c { c with task }
  | host {relay : Relay} {head : Option Head} {frames : List Bytes} {notices : List Notice}
      (hl : c.phase = .live) (ho : relay.outcome = c.relay.outcome) (hn : c.notices ⊆ notices) :
      Turn c { c.setRelay relay with head, frames, notices }
  | close {relay : Relay} (ending : Ending) (hl : c.phase = .live) (ho : relay.outcome = c.relay.outcome) :
      Turn c { c.setRelay relay with phase := .ended ending }
  | signal {ending : Ending} (hp : c.phase = .ended ending) :
      Turn c { c with closed := c.closed.set true, phase := .signalled ending }
  | publish {ending : Ending} (hp : c.phase = .signalled ending) :
      Turn c { c.setRelay (published ending c.relay) with
        phase := .published ending
        notices := c.notices ++ [ending.notice] }
  | leave {ending : Ending} (hp : c.phase = .published ending) :
      Turn c { c.setRelay c.relay.dropOutcome with closed := c.closed.abandon, phase := .over ending }

variable {c c' : Connection}

theorem turn_takeHead (hl : c.phase = .live) : c.Turn c.takeHead := by
  unfold takeHead
  have ho := c.relay.outcome_takeHead
  split
  · rename_i head relay ht
    rw [ht] at ho
    exact .host hl ho (List.Subset.refl _)
  · rename_i relay ht
    rw [ht] at ho
    exact .host hl (relay.outcome_dropHead.trans ho) (List.subset_append_left ..)
  · rename_i relay _ _ ht
    rw [ht] at ho
    exact .host hl ho (List.Subset.refl _)

theorem turn_takeFrame (hl : c.phase = .live) : c.Turn c.takeFrame := by
  unfold takeFrame
  have ho := c.relay.outcome_takeFrame
  split
  · rename_i frame relay ht
    rw [ht] at ho
    exact .host hl ho (List.Subset.refl _)
  · rename_i relay _ ht
    rw [ht] at ho
    exact .host hl ho (List.Subset.refl _)

theorem turn_of_step? {move : Move} (h : c.step? move = some c') : c.Turn c' := by
  cases move with
  | request move =>
    obtain ⟨task, ht, rfl⟩ := Option.map_eq_some_iff.1 h
    exact .request (RequestTask.turn_of_step? ht)
  | takeHead =>
    obtain ⟨hl, h⟩ := Option.ite_none_right_eq_some.1 h
    cases h
    exact turn_takeHead hl
  | takeFrame =>
    obtain ⟨hl, h⟩ := Option.ite_none_right_eq_some.1 h
    cases h
    exact turn_takeFrame hl
  | dropHead =>
    obtain ⟨hl, h⟩ := Option.ite_none_right_eq_some.1 h
    cases h
    exact .host hl c.relay.outcome_dropHead (List.Subset.refl _)
  | dropBody =>
    obtain ⟨hl, h⟩ := Option.ite_none_right_eq_some.1 h
    cases h
    exact .host hl c.relay.outcome_dropBody (List.Subset.refl _)
  | close ending =>
    obtain ⟨hl, h⟩ := Option.ite_none_right_eq_some.1 h
    cases h
    exact .close ending hl (c.relay.dropHead.outcome_dropBody.trans c.relay.outcome_dropHead)
  | tell =>
    have h : c.tell? = some c' := h
    unfold tell? at h
    split at h
    · cases h
    · cases h
    · rename_i ending hp
      cases h
      exact .signal hp
    · rename_i ending hp
      cases h
      exact .publish hp
    · rename_i ending hp
      cases h
      exact .leave hp

/-- What every move keeps holds after every run. -/
theorem run?_invariant {P : Connection → Prop} (hP : ∀ c c', P c → c.Turn c' → P c') {moves : List Move}
    (h : P c) (hr : c.run? moves = some c') : P c' := by
  induction moves generalizing c with
  | nil =>
    cases hr
    exact h
  | cons move moves ih =>
    simp only [run?, List.foldlM_cons, Option.bind_eq_bind, Option.bind_eq_some_iff] at hr
    obtain ⟨c₁, hs, hr⟩ := hr
    exact ih (hP c c₁ h (turn_of_step? hs)) hr

end Connection

end Courier
