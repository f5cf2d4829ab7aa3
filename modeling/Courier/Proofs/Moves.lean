import Courier.Host.Run
import Courier.Proofs.Relay
import Courier.Proofs.Steps

/-!
# What one move does

`Connection.Effect` says what a move does to what matters for a response: the delivery goes on, the
producer goes on, the host takes or drops something, or nothing of this happens. `run?_induction` is
the one induction over runs: what every effect keeps holds after every run in which the service does
not break down. That the relay stays coherent is shown here once, for all of them.
-/

namespace Courier

/-! ### The writer keeps a relay coherent -/

namespace Relay.Coherent

variable {r r' : Relay} {bytes : Bytes}

theorem writeHead (h : r.Coherent) (status : Status) (framing : Framing) :
    (r.writeHead status framing).2.Coherent := by
  cases hd : r.headDue with
  | false => rw [writeHead_of_not_due status framing hd]; exact h
  | true =>
    cases hs : r.slot with
    | given => rw [writeHead_of_given status framing hd hs]; exact h.headLost framing
    | empty => rw [writeHead_of_due status framing hd (by simp [hs])]; exact h.withHead hs _
    | full head => exact absurd hs ((h.due hd).2.2 head)

theorem write {answer : Except Fault Nat} (h : r.Coherent) (hw : r.write bytes = (.ready answer, r')) :
    r'.Coherent := by
  match answer with
  | .ok n =>
    obtain ⟨sent, hs, -⟩ := write_ok hw
    exact hs.coherent h
  | .error fault => exact (write_error hw).2 ▸ h

theorem sendPending {answer : Except Fault Unit} (h : r.Coherent)
    (hw : r.sendPending = (.ready answer, r')) : r'.Coherent := by
  match answer with
  | .ok () =>
    obtain ⟨sent, hs, -⟩ := sendPending_ok hw
    exact hs.coherent h
  | .error fault => exact (sendPending_error hw).2 ▸ h

theorem attempt {c c' : Copier} {body body' : Body} (h : r.Coherent)
    (ha : c.Attempt body r c' body' r') : r'.Coherent := by
  cases ha with
  | unit | ended | readAgain | readLost | notReady => exact h
  | written _ hw | unitDone _ hw | stuck _ hw | writeAgain _ hw | writeLost _ hw => exact h.write hw
  | flushed _ hw | closed _ hw | flushLost _ hw => exact h.sendPending hw

theorem advance {d d' : Delivery Relay} (h : d.sink.Coherent) (ha : d.Advance d') : d'.sink.Coherent := by
  have hw (o : Opening) := (h.setHeaders (d.sink.headers.copyFields o.headers)).writeHead o.status o.framing
  cases ha with
  | @headLost o _ _ _ he | @headSent o _ _ he =>
    have := congrArg (·.2.Coherent) he
    exact this ▸ hw o
  | @headOnly o _ _ he =>
    have := congrArg (·.2.Coherent) he
    exact detach (this ▸ hw o)
  | copy _ _ ha => exact h.attempt ha
  | copied | report => exact h.detach
  | copyLost => exact h

end Relay.Coherent

/-! ### Effects -/

namespace Connection

/-- What a move does to the delivery, its producer and what the host has. -/
inductive Effect (c c' : Connection) : Prop
  | answer {response : Response} (ha : c.delivery.state = .awaiting)
      (hd : c'.delivery = c.delivery.answer response)
  | deliver (ha : c.delivery.Advance c'.delivery) (hp : c'.producer = c.producer)
      (hf : c'.frames = c.frames) (hh : c'.head = c.head) (hl : c'.phase = c.phase)
  | produce {p p' : Producer} {ch ch' : Channel} (hp : c.producer = some p)
      (hb : c.delivery.body = some (.stream ch)) (hs : p.step? ch = some (p', ch'))
      (hp' : c'.producer = some p') (hd : c'.delivery = { c.delivery with body := some (.stream ch') })
      (hf : c'.frames = c.frames) (hh : c'.head = c.head) (hl : c'.phase = c.phase)
  | host {got : List Bytes} (hs : c.relay.HostStep got c'.relay)
      (hd : c'.delivery = { c.delivery with sink := c'.relay }) (hp : c'.producer = c.producer)
      (hf : c'.frames = c.frames ++ got)
      (hh : c'.head = c.head ∨ (∃ head, c.relay.slot = .full head ∧ c'.head = some head) ∨
        c'.head = some missingHead)
      (hl : c.phase = .live → c'.relay.isHeld = true →
        c'.phase = .live ∧ c'.relay.outcome = c.relay.outcome)
      (he : c.phase ≠ .live → c'.phase ≠ .live)
  | quiet (hd : c'.delivery = c.delivery) (hp : c'.producer = c.producer) (hf : c'.frames = c.frames)
      (hh : c'.head = c.head) (hl : c'.phase = c.phase)

variable {c c' : Connection}

/-- A step of the host that changes nothing but the relay and what the host has got. -/
theorem effect_setRelay {got : List Bytes} {relay : Relay} {head : Option Head} (notices : List Notice)
    (hs : c.relay.HostStep got relay) (ho : relay.outcome = c.relay.outcome)
    (hh : head = c.head ∨ (∃ h, c.relay.slot = .full h ∧ head = some h) ∨ head = some missingHead) :
    c.Effect { c.setRelay relay with frames := c.frames ++ got, head, notices } :=
  .host hs rfl rfl rfl hh (fun hl _ => ⟨hl, ho⟩) id

theorem takeHead_effect (hc : c.relay.Coherent) : c.Effect c.takeHead := by
  unfold takeHead
  split
  · rename_i head relay ht
    obtain ⟨hs, hstep⟩ := hc.hostStep_takeHead ht
    have ho : relay.outcome = c.relay.outcome := by
      have := c.relay.outcome_takeHead
      rwa [ht] at this
    have he := effect_setRelay c.notices hstep ho (.inr (.inl ⟨head, hs, rfl⟩))
    rwa [List.append_nil] at he
  · rename_i relay ht
    rw [Relay.takeHead_ended ht]
    have he := effect_setRelay (c.notices ++ [.headMissing]) hc.hostStep_dropHead
      c.relay.outcome_dropHead (.inr (.inr rfl))
    rwa [List.append_nil] at he
  · rename_i relay ha he ht
    rw [Relay.takeHead_idle ht ha he]
    exact .quiet rfl rfl rfl rfl rfl

theorem takeFrame_effect (hc : c.relay.Coherent) : c.Effect c.takeFrame := by
  unfold takeFrame
  split
  · rename_i frame relay ht
    have ho : relay.outcome = c.relay.outcome := by
      have := c.relay.outcome_takeFrame
      rwa [ht] at this
    exact effect_setRelay c.notices (hc.hostStep_takeFrame ht) ho (.inl rfl)
  · rename_i relay ha ht
    rw [Relay.takeFrame_idle ht ha]
    exact .quiet rfl rfl rfl rfl rfl

/-- A step in telling the end of the connection. -/
theorem effect_told {relay : Relay} {closed : Signal} (phase : Phase) {notices : List Notice}
    (hs : c.relay.HostStep [] relay) (hl : c.phase ≠ .live) (hl' : phase ≠ .live) :
    c.Effect { c.setRelay relay with closed, phase, notices } :=
  .host hs rfl rfl (List.append_nil _).symm (.inl rfl) (fun h => absurd h hl) fun _ => hl'

theorem tell_effect (hc : c.relay.Coherent) (h : c.tell? = some c') : c.Effect c' := by
  unfold tell? at h
  split at h
  · cases h
  · cases h
  · rename_i ending hp
    cases h
    exact effect_told (.signalled ending) hc.hostStep_refl (by simp [hp]) (by simp)
  · rename_i ending hp
    cases h
    refine effect_told (.published ending) ?_ (by simp [hp]) (by simp)
    cases ending with
    | clean => exact hc.hostStep_refl
    | faulty fault =>
      show c.relay.HostStep [] (c.relay.publish fault)
      unfold Relay.publish
      split
      · exact hc.hostStep_outcome _
      · exact hc.hostStep_refl
  · rename_i ending hp
    cases h
    exact effect_told (.over ending) (hc.hostStep_outcome _) (by simp [hp]) (by simp)

theorem request_effect {move : RequestTask.Move} {task : RequestTask Relay}
    (h : c.task.step? c.closed move = some task) (hb : task.stage ≠ .broken) :
    c.Effect { c with task } := by
  unfold RequestTask.step? at h
  split at h
  · split at h
    · rename_i hr
      cases h
      have ha : c.task.exchange.delivery.state = .awaiting := by simpa using (Bool.and_eq_true_iff.1 hr).2
      exact .answer ha rfl
    · cases h
  · split at h
    · cases h; exact absurd rfl hb
    · cases h
  · split at h
    · obtain ⟨x, hx, rfl⟩ := Option.map_eq_some_iff.1 h
      obtain ⟨d, hd, rfl⟩ := Option.map_eq_some_iff.1 hx
      exact .deliver (Delivery.advance_of_step? hd) rfl rfl rfl rfl
    · cases h
  · obtain ⟨x, hx, rfl⟩ := Option.map_eq_some_iff.1 h
    obtain ⟨p, body, p', body', hp, hbody, hf, rfl⟩ := Exchange.produce?_eq_some hx
    unfold Producer.feed? at hf
    split at hf
    · obtain ⟨⟨p', ch'⟩, hs, hf⟩ := Option.map_eq_some_iff.1 hf
      cases hf
      exact .produce hp hbody hs rfl rfl rfl rfl rfl
    · cases hf
  · split at h
    · cases h; exact .quiet rfl rfl rfl rfl rfl
    · cases h
  · split at h
    · cases h; exact .quiet rfl rfl rfl rfl rfl
    · cases h

theorem step?_effect {move : Move} (hc : c.relay.Coherent) (h : c.step? move = some c')
    (hb : c'.isBroken = false) : c.Effect c' := by
  unfold step? at h
  cases move with
  | request move =>
    obtain ⟨task, ht, rfl⟩ := Option.map_eq_some_iff.1 h
    exact request_effect ht (by simpa [isBroken] using hb)
  | takeHead =>
    obtain ⟨-, h⟩ := Option.ite_none_right_eq_some.1 h
    cases h; exact takeHead_effect hc
  | takeFrame =>
    obtain ⟨-, h⟩ := Option.ite_none_right_eq_some.1 h
    cases h; exact takeFrame_effect hc
  | dropHead =>
    obtain ⟨-, h⟩ := Option.ite_none_right_eq_some.1 h
    cases h
    have he := effect_setRelay c.notices hc.hostStep_dropHead c.relay.outcome_dropHead (.inl rfl)
    rwa [List.append_nil] at he
  | dropBody =>
    obtain ⟨-, h⟩ := Option.ite_none_right_eq_some.1 h
    cases h
    have he := effect_setRelay c.notices hc.hostStep_dropBody c.relay.outcome_dropBody (.inl rfl)
    rwa [List.append_nil] at he
  | close ending =>
    obtain ⟨hl, h⟩ := Option.ite_none_right_eq_some.1 h
    cases h
    have hs := hc.hostStep_dropHead.trans hc.hostStep_dropHead.coherent.hostStep_dropBody
    refine .host hs rfl rfl (List.append_nil _).symm (.inl rfl) (fun _ hh => ?_) fun h => absurd hl h
    have := c.relay.isHeld_drop
    simp_all [Connection.setRelay, relay]
  | tell => exact tell_effect hc h

theorem isBroken_of_step? {move : Move} (h : c.step? move = some c') (hb : c.isBroken = true) :
    c'.isBroken = true := by
  have hs : c.task.stage = .broken := by simpa [isBroken] using hb
  have hr : c.task.isRunning = false := by simp [RequestTask.isRunning, hs]
  have hkeep (c₁ : Connection) (ht : c₁.task.stage = c.task.stage) : c₁.isBroken = true := by
    simp [isBroken, ht, hs]
  unfold step? at h
  cases move with
  | request move =>
    obtain ⟨task, ht, rfl⟩ := Option.map_eq_some_iff.1 h
    cases move with
    | produce =>
      obtain ⟨x, hx, rfl⟩ := Option.map_eq_some_iff.1 ht
      exact hkeep _ rfl
    | answer | breakDown | deliver | hear | finish => simp [RequestTask.step?, hr, hs] at ht
  | takeHead =>
    obtain ⟨-, h⟩ := Option.ite_none_right_eq_some.1 h
    cases h
    unfold takeHead
    split <;> exact hkeep _ rfl
  | takeFrame =>
    obtain ⟨-, h⟩ := Option.ite_none_right_eq_some.1 h
    cases h
    unfold takeFrame
    split <;> exact hkeep _ rfl
  | dropHead | dropBody | close =>
    obtain ⟨-, h⟩ := Option.ite_none_right_eq_some.1 h
    cases h; exact hkeep _ rfl
  | tell =>
    simp only [tell?] at h
    split at h
    · cases h
    · cases h
    all_goals cases h; exact hkeep _ rfl

theorem isBroken_of_run? {moves : List Move} (h : c.run? moves = some c') (hb : c.isBroken = true) :
    c'.isBroken = true := by
  induction moves generalizing c with
  | nil => cases h; exact hb
  | cons move moves ih =>
    simp only [run?, List.foldlM_cons, Option.bind_eq_bind, Option.bind_eq_some_iff] at h
    obtain ⟨c₁, hs, h⟩ := h
    exact ih h (isBroken_of_step? hs hb)

theorem Effect.coherent (h : c.Effect c') (hc : c.relay.Coherent) : c'.relay.Coherent := by
  cases h with
  | answer _ hd | produce _ _ _ _ hd | quiet hd =>
    have hr : c'.relay = c.relay := (congrArg Delivery.sink hd :)
    exact hr ▸ hc
  | deliver ha => exact Relay.Coherent.advance hc ha
  | host hs => exact hs.coherent

/-- What every effect keeps holds after every run that the service lives to see. -/
theorem run?_induction {P : Connection → Prop}
    (hP : ∀ c c', c.relay.Coherent → P c → c.Effect c' → P c') (moves : List Move) (hc : c.relay.Coherent)
    (h : P c) (hr : c.run? moves = some c') (hb : c'.isBroken = false) : c'.relay.Coherent ∧ P c' := by
  induction moves generalizing c with
  | nil =>
    cases hr
    exact ⟨hc, h⟩
  | cons move moves ih =>
    simp only [run?, List.foldlM_cons, Option.bind_eq_bind, Option.bind_eq_some_iff] at hr
    obtain ⟨c₁, hs, hr⟩ := hr
    have hb₁ : c₁.isBroken = false := by
      cases hb₁ : c₁.isBroken with
      | false => rfl
      | true => rw [isBroken_of_run? hr hb₁] at hb; cases hb
    have he := step?_effect hc hs hb₁
    exact ih (he.coherent hc) (hP c c₁ hc h he) hr

end Connection

end Courier
