import Courier.Proofs.Serving
import Courier.Proofs.Turns

/-!
# What a lost response is put down to

A delivery that fails because its body was dropped asks how the connection has ended, and that is told in steps
of its own. `Connection.Standing` ties what can be known of the ending to the step that the telling has come to,
at every moment; from the call that fails on, `Connection.Loses` follows the delivery to its one event. So the
order in which the two tasks go on does not show in the event.
-/

namespace Courier

/-! ### Severities -/

namespace Fault

/-- Once the whole chain is looked at, it does not matter how much further one would look. -/
theorem severityWithin_eq {fault : Fault} {limit limit' : Nat} (h : fault.causes.length ≤ limit)
    (h' : fault.causes.length ≤ limit') : fault.severityWithin limit = fault.severityWithin limit' := by
  induction fault generalizing limit limit' with
  | ioWith kind inner ih | connection inner ih | engine inner ih =>
    simp only [causes, List.length_cons] at h h'
    obtain ⟨limit, rfl⟩ : ∃ l, limit = l + 1 := ⟨limit - 1, by omega⟩
    obtain ⟨limit', rfl⟩ : ∃ l, limit' = l + 1 := ⟨limit' - 1, by omega⟩
    simp only [severityWithin, code?, next?]
    exact ih (by omega) (by omega)
  | os | io | bodyDropped | headNotSent | headAlreadySent | engineRefused | copyStopped | streamClosed | foreign =>
    simp only [causes, List.length_singleton] at h h'
    obtain ⟨limit, rfl⟩ : ∃ l, limit = l + 1 := ⟨limit - 1, by omega⟩
    obtain ⟨limit', rfl⟩ : ∃ l, limit' = l + 1 := ⟨limit' - 1, by omega⟩
    simp only [severityWithin, code?, next?]

/-- The fault of a connection is as loud where it is the cause of a loss, unless its chain is too long for the
two faults that are put around it. -/
theorem severity_ofTransport_connection {fault : Fault} (h : fault.causes.length ≤ 6) :
    (ofTransport (.connection fault)).severity = fault.severity := by
  show fault.severityWithin 6 = fault.severityWithin 8
  exact severityWithin_eq h (by omega)

/-- Whether this is what a sink fails with when its body was dropped. -/
def isDrop : Fault → Bool
  | ioWith _ .bodyDropped => true
  | _ => false

theorem severity_of_isDrop {fault : Fault} (h : fault.isDrop = true) : fault.severity = .warn := by
  unfold isDrop at h
  split at h
  · rfl
  · cases h

end Fault

/-! ### The relay -/

namespace Relay

theorem outcome_writeHead (r : Relay) (status : Status) (framing : Framing) :
    (r.writeHead status framing).2.outcome = r.outcome := by
  unfold writeHead
  split
  · rfl
  · dsimp only
    split <;> rfl

theorem outcome_advance {d d' : Delivery Relay} (ha : d.Advance d') : d'.sink.outcome = d.sink.outcome := by
  have hhead {o : Opening} {answer : Except Fault Unit} {sink : Relay}
      (hw : ResponseSink.writeHead (d.dressed o) o.status o.framing = (answer, sink)) :
      sink.outcome = d.sink.outcome := by
    have := (d.dressed o).outcome_writeHead o.status o.framing
    rwa [show (d.dressed o).writeHead o.status o.framing = (answer, sink) from hw] at this
  cases ha with
  | headLost _ hw | headSent _ hw => exact hhead hw
  | headOnly _ hw =>
    have ho := hhead hw
    exact ho
  | copy _ _ ha => rw [attempt_frame ha]
  | copied | copyLost | report => rfl

end Relay

/-! ### The ending -/

namespace Ending

def fault? : Ending → Option Fault
  | clean => none
  | faulty fault => some fault

/-- What a dropped body is put down to once the ending is known. -/
def blame (fault : Fault) : Ending → Fault
  | clean => fault
  | faulty cause => .ofTransport (.connection cause)

end Ending

/-- What can be known of the ending. -/
def Phase.outcome : Phase → Outcome
  | .live | .ended _ | .signalled _ => {}
  | .published ending => { fault := ending.fault? }
  | .over ending => { fault := ending.fault?, awaited := false }

/-- The ending, once those who wait for it may know. -/
def Phase.told? : Phase → Option Ending
  | .live | .ended _ | .signalled _ => none
  | .published ending | .over ending => some ending

theorem Phase.told?_eq_some {phase : Phase} {ending : Ending} :
    phase.told? = some ending ↔ phase = .published ending ∨ phase = .over ending := by
  cases phase <;> simp [told?]

theorem Relay.outcome_published {r : Relay} (ending : Ending) (h : r.outcome = {}) :
    (Connection.published ending r).outcome = (Phase.published ending).outcome := by
  cases ending with
  | clean => exact h
  | faulty fault => simp [Connection.published, publish, h, Phase.outcome, Ending.fault?]

theorem Relay.diagnose_of_not_drop {r : Relay} {fault : Fault} (h : fault.isDrop = false) :
    r.diagnose fault = .ready fault := by
  unfold diagnose
  split
  · cases h
  · rfl

/-- A dropped body is put down to the ending, once it is told. -/
theorem Relay.diagnose_of_drop {r : Relay} {fault : Fault} {phase : Phase} (h : fault.isDrop = true)
    (ho : r.outcome = phase.outcome) :
    (r.diagnose fault = .pending ∧ ∀ ending, phase ≠ .over ending) ∨
      ∃ ending, phase.told? = some ending ∧ r.diagnose fault = .ready (ending.blame fault) ∧
        (ending = .clean → phase = .over .clean) := by
  unfold Fault.isDrop at h
  split at h
  · unfold diagnose
    dsimp only
    rw [ho]
    match phase with
    | .live | .ended _ | .signalled _ | .published .clean => exact .inl ⟨rfl, by simp⟩
    | .published (.faulty cause) | .over (.faulty cause) => exact .inr ⟨_, rfl, rfl, by simp⟩
    | .over .clean => exact .inr ⟨_, rfl, rfl, fun _ => rfl⟩
  · cases h

/-! ### The connection -/

namespace Connection

/-- What holds at every moment of the telling. -/
structure Standing (c : Connection) : Prop where
  outcome : c.relay.outcome = c.phase.outcome
  told : ∀ ending, c.phase.told? = some ending → ending.notice ∈ c.notices
  silent : c.delivery.isFinished = false → c.delivery.events = []
  running : c.delivery.isFinished = false → c.task.isRunning = true

theorem standing_arrived (request : Request) (chunks : List Bytes) : (arrived request chunks).Standing := by
  refine ⟨rfl, fun ending h => ?_, fun _ => rfl, fun _ => rfl⟩
  cases h

variable {c c' : Connection}

theorem Standing.request {task : RequestTask Relay} (h : c.Standing) (ht : c.task.Turn c.closed task) :
    Standing { c with task } := by
  cases ht with
  | answer hr hd =>
    have hn : c.delivery.isFinished = false := by
      unfold Delivery.isFinished
      rw [show c.delivery.state = .awaiting from hd]
      rfl
    exact ⟨h.outcome, h.told, fun _ => h.silent hn, fun _ => hr⟩
  | breakDown =>
    exact ⟨h.outcome, h.told, (fun hf => by cases hf), fun hf => by cases hf⟩
  | @deliver d hr ha =>
    refine ⟨(Relay.outcome_advance ha).trans h.outcome, h.told, fun hf => ?_, fun _ => hr⟩
    exact (ha.events_eq hf).trans (h.silent ha.not_finished)
  | produce hp hb hs => exact ⟨h.outcome, h.told, h.silent, h.running⟩
  | hear hs ho => exact ⟨h.outcome, h.told, h.silent, fun _ => rfl⟩
  | finish hr hf =>
    refine ⟨h.outcome, h.told, h.silent, fun hn => ?_⟩
    have hn : c.delivery.isFinished = false := hn
    rw [show c.delivery.isFinished = true from hf] at hn
    cases hn

theorem Standing.turn (h : c.Standing) (ht : c.Turn c') : c'.Standing := by
  have hknown := h.outcome
  have htold := h.told
  cases ht with
  | request ht => exact h.request ht
  | host hl ho hn => exact ⟨ho.trans hknown, fun ending ht => hn (htold ending ht), h.silent, h.running⟩
  | close ending hl ho =>
    rw [hl] at hknown
    exact ⟨ho.trans hknown, (fun _ ht => by cases ht), h.silent, h.running⟩
  | signal hp =>
    rw [hp] at hknown
    exact ⟨hknown, (fun _ ht => by cases ht), h.silent, h.running⟩
  | publish hp =>
    rw [hp] at hknown
    refine ⟨Relay.outcome_published _ hknown, fun told ht => ?_, h.silent, h.running⟩
    cases ht
    exact List.mem_append_right _ (List.mem_singleton.2 rfl)
  | leave hp =>
    rw [hp] at hknown htold
    refine ⟨?_, fun told ht => htold told ht, h.silent, h.running⟩
    show { c.relay.outcome with awaited := false } = _
    rw [hknown]
    rfl

/-- The delivery has failed with this fault, and what has come of it. -/
def Loses (fault : Fault) (c : Connection) : Prop :=
  match c.delivery.state with
  | .awaiting | .opening _ => False
  | .copying copier => copier.state = .failed fault
  | .diagnosing _ f => f = fault
  | .finished => ∃ event, c.delivery.events = [event] ∧ event.severity = event.fault.severity ∧
      (fault.isDrop = false → event.fault = fault) ∧
      (fault.isDrop = true → ∃ ending, c.phase.told? = some ending ∧ event.fault = ending.blame fault ∧
        (ending = .clean → c.phase = .over .clean))

namespace Loses

variable {fault : Fault}

/-- While nothing happens to the delivery, what is told of the ending is not taken back. -/
theorem keep (h : c.Loses fault) (hd : c'.delivery.state = c.delivery.state)
    (he : c'.delivery.events = c.delivery.events)
    (hp : ∀ ending, c.phase.told? = some ending → (ending = .clean → c.phase = .over .clean) →
      c'.phase.told? = some ending ∧ (ending = .clean → c'.phase = .over .clean)) : c'.Loses fault := by
  unfold Loses at h ⊢
  rw [hd, he]
  split at h
  · exact h
  · exact h
  · exact h
  · exact h
  · obtain ⟨event, hevents, hseverity, hother, hdrop⟩ := h
    refine ⟨event, hevents, hseverity, hother, fun hf => ?_⟩
    obtain ⟨ending, ht, hblame, hover⟩ := hdrop hf
    obtain ⟨ht', hover'⟩ := hp ending ht hover
    exact ⟨ending, ht', hblame, hover'⟩

theorem advance {d : Delivery Relay} (hs : c.Standing) (h : c.Loses fault) (ha : c.delivery.Advance d) :
    Loses fault { c with task.exchange.delivery := d } := by
  unfold Loses at h
  cases ha with
  | headLost hd | headSent hd | headOnly hd =>
    rw [hd] at h
    exact h.elim
  | copy hd hb ha =>
    rw [hd] at h
    have hr := ha.result?_eq_none
    simp [Copier.result?, show _ = Copying.failed fault from h] at hr
  | copied hd hc =>
    rw [hd] at h
    simp [hc] at h
  | copyLost hd hc =>
    rw [hd] at h
    have hf : _ = Copying.failed fault := h
    rw [hc] at hf
    cases hf
    exact rfl
  | @report lost f cause hd hf =>
    rw [hd] at h
    have hn : f = fault := h
    subst hn
    have hsilent := hs.silent (by simp [Delivery.isFinished, hd])
    have hf : c.relay.diagnose f = .ready cause := hf
    refine ⟨c.delivery.report lost cause, ?_, rfl, fun hother => ?_, fun hdrop => ?_⟩
    · show c.delivery.events ++ [_] = [_]
      rw [hsilent]
      rfl
    · rw [Relay.diagnose_of_not_drop hother] at hf
      cases hf
      rfl
    · rcases Relay.diagnose_of_drop hdrop hs.outcome with ⟨hp, -⟩ | ⟨ending, ht, hready, hover⟩
      · rw [hp] at hf
        cases hf
      · rw [hready] at hf
        cases hf
        exact ⟨ending, ht, rfl, hover⟩

/-- No code of the service is run once the delivery has failed. -/
theorem not_isInService (h : c.Loses fault) : c.task.isInService = false := by
  unfold Loses at h
  unfold RequestTask.isInService
  rw [show c.task.exchange.delivery.state = c.delivery.state from rfl]
  cases hd : c.delivery.state with
  | awaiting =>
    rw [hd] at h
    exact h.elim
  | copying copier =>
    rw [hd] at h
    have hfailed : copier.state = .failed fault := h
    simp [hfailed]
  | opening | diagnosing | finished => rfl

theorem turn (hs : c.Standing) (h : c.Loses fault) (ht : c.Turn c') : c'.Loses fault := by
  cases ht with
  | request ht =>
    cases ht with
    | answer hr hd =>
      unfold Loses at h
      rw [show c.delivery.state = .awaiting from hd] at h
      exact h.elim
    | breakDown hr hservice =>
      rw [h.not_isInService] at hservice
      cases hservice
    | deliver hr ha => exact h.advance hs ha
    | produce | hear | finish => exact h.keep rfl rfl fun _ ht hover => ⟨ht, hover⟩
  | host => exact h.keep rfl rfl fun _ ht hover => ⟨ht, hover⟩
  | close ending hl =>
    refine h.keep rfl rfl fun _ ht _ => ?_
    rw [hl] at ht
    cases ht
  | signal hp | publish hp =>
    refine h.keep rfl rfl fun _ ht _ => ?_
    rw [hp] at ht
    cases ht
  | leave hp =>
    refine h.keep rfl rfl fun _ ht hover => ?_
    rw [hp] at ht hover
    exact ⟨ht, fun hc => by cases hover hc⟩

theorem of_failed {c₁ : Connection} {call : Delivery.Call} (hc : c.delivery.call? = some call)
    (hf : call.fault? = some fault) (hs : c.step? (.request .deliver) = some c₁) : c₁.Loses fault := by
  obtain ⟨task, ht, rfl⟩ := Option.map_eq_some_iff.1 hs
  obtain ⟨-, ht⟩ := Option.ite_none_right_eq_some.1 ht
  obtain ⟨x, hx, rfl⟩ := Option.map_eq_some_iff.1 ht
  obtain ⟨d, hd, rfl⟩ := Option.map_eq_some_iff.1 hx
  have hfailed := (Delivery.advance_of_step? hd).failed hc hf
  unfold Loses
  show match d.state with
    | .awaiting | .opening _ => False
    | .copying copier => copier.state = .failed fault
    | .diagnosing _ f => f = fault
    | .finished => _
  rcases hfailed with ⟨lost, hstate⟩ | ⟨copier, hstate, hfault⟩
  · rw [hstate]
  · rw [hstate]
    exact hfault

end Loses

/-- Nobody waits for the ending of a connection that is over. -/
theorem Standing.not_blocked {ending : Ending} {lost : Lost} {fault : Fault} (h : c.Standing)
    (hp : c.phase = .over ending) (hd : c.delivery.state = .diagnosing lost fault) :
    ∃ c', c.step? (.request .deliver) = some c' ∧ c'.delivery.isFinished = true := by
  have hready : ∃ cause, ResponseSink.diagnose c.relay fault = .ready cause := by
    cases hdrop : fault.isDrop with
    | false => exact ⟨fault, Relay.diagnose_of_not_drop hdrop⟩
    | true =>
      rcases Relay.diagnose_of_drop hdrop h.outcome with ⟨-, hnot⟩ | ⟨ending, -, hready, -⟩
      · exact absurd hp (hnot ending)
      · exact ⟨_, hready⟩
  obtain ⟨cause, hready⟩ := hready
  have hrunning := h.running (by simp [Delivery.isFinished, hd])
  obtain ⟨d, hstep, hfin⟩ : ∃ d, c.delivery.step? = some d ∧ d.isFinished = true :=
    ⟨_, Delivery.step?_of_advance (.report hd hready), rfl⟩
  refine ⟨{ c with task.exchange.delivery := d }, ?_, hfin⟩
  have hdeliver : c.task.exchange.deliver? = some { c.task.exchange with delivery := d } := by
    unfold Exchange.deliver?
    rw [show c.task.exchange.delivery.step? = some d from hstep]
    rfl
  simp only [step?, RequestTask.step?, hrunning, if_true, hdeliver, Option.map_some]

/-- What a response that is lost is put down to, in every run. Once the connection is over, no delivery waits for
its ending. And from the call on that fails, the delivery logs one event, when it is finished: with the fault of
the call, or, if the body was dropped, with the fault that the connection has ended with, and then as loud as
the notice of it unless the chain of its causes is too long. -/
theorem diagnosis_run {request : Request} {chunks : List Bytes} {moves : List Move}
    (hr : (arrived request chunks).run? moves = some c) :
    (∀ ending, c.phase = .over ending → ∀ lost fault, c.delivery.state = .diagnosing lost fault →
      ∃ c', c.step? (.request .deliver) = some c' ∧ c'.delivery.isFinished = true) ∧
    ∀ call fault c₁ later c₂, c.delivery.call? = some call → call.fault? = some fault →
      c.step? (.request .deliver) = some c₁ → c₁.run? later = some c₂ →
      (c₂.delivery.isFinished = false → c₂.delivery.events = []) ∧
      (c₂.delivery.isFinished = true → ∃ event, c₂.delivery.events = [event] ∧
        event.severity = event.fault.severity ∧
        ((∀ kind, fault ≠ .ioWith kind .bodyDropped) → event.fault = fault) ∧
        ∀ kind, fault = .ioWith kind .bodyDropped →
          ∃ ending, (c₂.phase = .published ending ∨ c₂.phase = .over ending) ∧ ending.notice ∈ c₂.notices ∧
            match ending with
            | .clean => event.fault = fault ∧ event.severity = .warn ∧ c₂.phase = .over .clean
            | .faulty e => event.fault = .ioWith .brokenPipe (.connection e) ∧
              (e.causes.length ≤ 6 → event.severity = (Notice.connectionFailed e).severity)) := by
  have hstanding := run?_invariant (fun _ _ h ht => Standing.turn h ht) (standing_arrived request chunks) hr
  refine ⟨fun ending hp lost fault hd => hstanding.not_blocked hp hd, ?_⟩
  intro call fault c₁ later c₂ hcall hfault hstep hlater
  have hfirst : c₁.Standing ∧ c₁.Loses fault :=
    ⟨hstanding.turn (turn_of_step? hstep), .of_failed hcall hfault hstep⟩
  obtain ⟨hs, hl⟩ := run?_invariant (P := fun c => c.Standing ∧ c.Loses fault)
    (fun _ _ h ht => ⟨h.1.turn ht, h.2.turn h.1 ht⟩) hfirst hlater
  refine ⟨hs.silent, fun hfin => ?_⟩
  have hstate : c₂.delivery.state = .finished := by simpa [Delivery.isFinished] using hfin
  unfold Loses at hl
  rw [hstate] at hl
  obtain ⟨event, hevents, hseverity, hother, hdrop⟩ := hl
  refine ⟨event, hevents, hseverity, fun hn => hother ?_, fun kind hk => ?_⟩
  · unfold Fault.isDrop
    split
    · rename_i kind
      exact absurd rfl (hn kind)
    · rfl
  · have hisDrop : fault.isDrop = true := by rw [hk]; rfl
    obtain ⟨ending, ht, hblame, hover⟩ := hdrop hisDrop
    refine ⟨ending, Phase.told?_eq_some.1 ht, hs.told ending ht, ?_⟩
    cases ending with
    | clean =>
      refine ⟨hblame, ?_, hover rfl⟩
      rw [hseverity, hblame]
      exact Fault.severity_of_isDrop hisDrop
    | faulty e =>
      refine ⟨hblame, fun hlength => ?_⟩
      rw [hseverity, hblame]
      exact Fault.severity_ofTransport_connection hlength

/-- A body that is dropped with its connection, before the last bytes are flushed. -/
theorem diagnosis_run_reset :
    ∃ c c₁ c₂ event, (arrived {} []).run? [.request (.answer { body := some (.bytes [97, 98]) }), .request .deliver,
        .takeHead, .request .deliver, .request .deliver, .close (.faulty (.engine (.os 104))),
        .request .deliver] = some c ∧
      c.step? (.request .deliver) = some c₁ ∧
      c₁.run? [.tell, .request .deliver, .tell, .request .deliver] = some c₂ ∧
      c₂.delivery.isFinished = true ∧ c₂.delivery.events = [event] ∧
      event.fault = .ioWith .brokenPipe (.connection (.engine (.os 104))) ∧
      event.severity = (Notice.connectionFailed (.engine (.os 104))).severity ∧ event.severity = .debug := by
  have hruns : ((arrived {} []).run? [.request (.answer { body := some (.bytes [97, 98]) }), .request .deliver,
      .takeHead, .request .deliver, .request .deliver, .close (.faulty (.engine (.os 104))),
      .request .deliver]).any (fun c : Connection =>
    decide (c.delivery.call?.bind Delivery.Call.fault? = some (.ioWith .brokenPipe .bodyDropped)) &&
    ((c.step? (.request .deliver)).bind fun c₁ : Connection =>
      c₁.run? [.tell, .request .deliver, .tell, .request .deliver]).any fun c₂ : Connection =>
        c₂.delivery.isFinished && decide (c₂.phase = .published (.faulty (.engine (.os 104))))) = true := by
    decide +kernel
  obtain ⟨c, hr, hfacts⟩ := (Option.any_eq_true _ _).1 hruns
  obtain ⟨hfault, hlater⟩ := Bool.and_eq_true_iff.1 hfacts
  obtain ⟨call, hcall, hfault⟩ := Option.bind_eq_some_iff.1 (of_decide_eq_true hfault)
  obtain ⟨c₂, hc₂, hend⟩ := (Option.any_eq_true _ _).1 hlater
  obtain ⟨c₁, hstep, hlater⟩ := Option.bind_eq_some_iff.1 hc₂
  obtain ⟨hfin, hphase⟩ := Bool.and_eq_true_iff.1 hend
  have hphase := of_decide_eq_true hphase
  obtain ⟨-, hrun⟩ := diagnosis_run hr
  obtain ⟨-, hreport⟩ := hrun call _ c₁ _ c₂ hcall hfault hstep hlater
  obtain ⟨event, hevents, -, -, hdrop⟩ := hreport hfin
  obtain ⟨ending, htells, -, hblame⟩ := hdrop .brokenPipe rfl
  have he : ending = .faulty (.engine (.os 104)) := by
    rw [hphase] at htells
    rcases htells with ht | ht <;> cases ht
    rfl
  subst he
  have hsame := hblame.2 (by decide)
  have hdebug : (Notice.connectionFailed (.engine (.os 104))).severity = .debug := by decide +kernel
  exact ⟨c, c₁, c₂, event, hr, hstep, hlater, hfin, hevents, hblame.1, hsame, hsame.trans hdebug⟩

end Connection

end Courier
