import Courier.Exchange.Trail
import Courier.Proofs.Outcome
import Courier.Proofs.Plan

/-!
# A delivery that goes on by itself

To a recorder, and without a live stream, a delivery never has to wait. What it leaves behind is foreseen by its
state: the head that it still has to write, the plan of its copy, the loss that it still has to report
(`Delivery.outcome`). No step of it changes that, and the steps of `settle` are enough for all of them.
-/

namespace Courier

theorem Recorder.writeHead_kept {r r' : Recorder} {status : Status} {framing : Framing} {answer : Except Fault Unit}
    (h : ResponseSink.writeHead r status framing = (answer, r')) :
    r'.failWrite = r.failWrite ∧ r'.writeCalls = r.writeCalls := by
  have h : r.writeHead status framing = (answer, r') := h
  unfold writeHead at h
  dsimp only at h
  split at h <;> cases h <;> exact ⟨rfl, rfl⟩

namespace Delivery

variable {d d' : Delivery Recorder}

/-- A delivery to a recorder that goes on by itself. -/
structure Alone (d : Delivery Recorder) : Prop where
  begun : d.state ≠ .awaiting
  body : ∀ body, d.body = some body → body.isStream = false
  copying : ∀ c, d.state = .copying c → d.body.isSome = true ∧ c.HasRest

theorem Alone.advance (h : d.Alone) (ha : d.Advance d') : d'.Alone := by
  have hreleased : ∀ body, d.body.map Body.release = some body → body.isStream = false := by
    intro body hb
    obtain ⟨before, hbefore, rfl⟩ := Option.map_eq_some_iff.1 hb
    exact (Body.isStream_release before).trans (h.body before hbefore)
  refine ⟨ha.not_awaiting, ?_, ?_⟩
  · cases ha with
    | headLost | headSent => exact h.body
    | headOnly | copied | copyLost | report => exact hreleased
    | copy hd hb ha =>
      intro other ho
      cases ho
      exact ha.isStream_eq.trans (h.body _ hb)
  · intro c hc
    cases ha with
    | headLost | headOnly | copied | copyLost | report => cases hc
    | headSent hd hw hb =>
      cases hc
      exact ⟨hb, fun _ _ => nofun⟩
    | copy hd hb ha =>
      cases hc
      exact ⟨rfl, ha.hasRest (h.copying _ hd).2⟩

/-- What a copy that ends like this makes of the delivery. -/
def conclude (d : Delivery Recorder) (streaming : Bool) :
    Except (Nat × Fault) Nat × Recorder → Recorder × List Event
  | (.ok _, sink) => (sink, d.events)
  | (.error (written, fault), sink) =>
    (sink, d.events ++ [d.report (.body streaming written) (sink.diagnosis.getD fault)])

/-- What a delivery leaves behind, from here on. -/
def outcome (d : Delivery Recorder) : Recorder × List Event :=
  match d.state with
  | .awaiting | .finished => (d.sink, d.events)
  | .diagnosing lost fault => (d.sink, d.events ++ [d.report lost (d.sink.diagnosis.getD fault)])
  | .copying c =>
    match d.body with
    | none => (d.sink, d.events)
    | some body => d.conclude (c.discipline = .chunked) (c.outcome body d.sink)
  | .opening o =>
    match ResponseSink.writeHead (d.dressed o) o.status o.framing with
    | (.error fault, sink) => (sink, d.events ++ [d.report .head (sink.diagnosis.getD fault)])
    | (.ok (), sink) =>
      match d.body with
      | none => (sink, d.events)
      | some body =>
        d.conclude o.streaming (Copier.outcome { discipline := .ofStreaming o.streaming } body sink)

theorem outcome_of_finished (h : d.isFinished = true) : d.outcome = (d.sink, d.events) := by
  have hstate : d.state = .finished := by simpa [isFinished] using h
  simp only [outcome, hstate]

theorem outcome_of_headLost {o : Opening} {fault : Fault} {sink : Recorder} (hd : d.state = .opening o)
    (hw : ResponseSink.writeHead (d.dressed o) o.status o.framing = (.error fault, sink)) :
    d.outcome = (sink, d.events ++ [d.report .head (sink.diagnosis.getD fault)]) := by
  simp only [outcome, hd, hw]

theorem outcome_of_headOnly {o : Opening} {sink : Recorder} (hd : d.state = .opening o)
    (hw : ResponseSink.writeHead (d.dressed o) o.status o.framing = (.ok (), sink)) (hb : d.body = none) :
    d.outcome = (sink, d.events) := by
  simp only [outcome, hd, hw, hb]

theorem outcome_of_headSent {o : Opening} {sink : Recorder} {body : Body} (hd : d.state = .opening o)
    (hw : ResponseSink.writeHead (d.dressed o) o.status o.framing = (.ok (), sink)) (hb : d.body = some body) :
    d.outcome = d.conclude o.streaming (sink.follow 0
      ((Discipline.ofStreaming o.streaming).plan sink.cap (body.units []) body.fault?)) := by
  simp only [outcome, hd, hw, hb]
  rw [Copier.outcome_reading rfl]

theorem Advance.outcome_eq (ha : d.Advance d') (h : d.Alone) : d'.outcome = d.outcome := by
  cases ha with
  | headLost hd hw =>
    rw [outcome_of_headLost hd hw]
    rfl
  | @headSent o sink hd hw hb =>
    obtain ⟨body, hbody⟩ := Option.isSome_iff_exists.1 hb
    have hstreaming : decide (Discipline.ofStreaming o.streaming = .chunked) = o.streaming := by
      cases o.streaming <;> rfl
    rw [outcome_of_headSent hd hw hbody]
    simp only [outcome, hbody, hstreaming, Copier.outcome_reading]
    rfl
  | headOnly hd hw hb =>
    rw [outcome_of_headOnly hd hw hb]
    rfl
  | copy hd hb ha =>
    have hsame := ha.outcome_eq (h.body _ hb) (h.copying _ hd).2
    simp only [outcome, hd, hb, hsame, ha.discipline_eq]
    rfl
  | @copied c hd hc =>
    obtain ⟨body, hbody⟩ := Option.isSome_iff_exists.1 (h.copying _ hd).1
    have hover : c.result? = some (.ok c.written) := by simp [Copier.result?, hc]
    simp only [outcome, hd, hbody, Copier.outcome_of_result? hover, finish]
    rfl
  | @copyLost c fault hd hc =>
    obtain ⟨body, hbody⟩ := Option.isSome_iff_exists.1 (h.copying _ hd).1
    have hover : c.result? = some (.error (c.written, fault)) := by simp [Copier.result?, hc]
    simp only [outcome, hd, hbody, Copier.outcome_of_result? hover]
    rfl
  | @report lost fault cause hd hf =>
    have hcause : d.sink.diagnosis.getD fault = cause := by
      have hf : Poll.ready (d.sink.diagnosis.getD fault) = .ready cause := hf
      simpa using hf
    simp only [outcome, hd, hcause, finish]
    rfl

theorem Advance.counted (ha : d.Advance d') :
    d'.sink.failWrite = d.sink.failWrite ∧ d.sink.writeCalls ≤ d'.sink.writeCalls := by
  cases ha with
  | headLost _ hw | headSent _ hw | headOnly _ hw =>
    obtain ⟨hf, hc⟩ := Recorder.writeHead_kept hw
    exact ⟨hf, Nat.le_of_eq hc.symm⟩
  | copy _ _ ha => exact ha.counted
  | copied | copyLost | report => exact ⟨rfl, Nat.le_refl _⟩

theorem Alone.load_lt (h : d.Alone) (ha : d.Advance d') : d'.load + d'.sink.retries < d.load + d.sink.retries := by
  obtain ⟨hf, hc⟩ := ha.counted
  have hretries := Recorder.retries_le hf hc
  rcases ha.load_lt_or_again fun c hc => (h.copying c hc).2 with hlt | ⟨hload, _, _, _, _, -, -, hw, -⟩
  · omega
  · have := Recorder.retries_of_failed hw
    omega

/-- A delivery to a recorder does not have to wait. -/
theorem Alone.finished_or_advance (h : d.Alone) : d.isFinished = true ∨ ∃ d', d.step? = some d' := by
  cases hstep : d.step? with
  | some next => exact .inr ⟨next, rfl⟩
  | none =>
    rcases awaits_of_step?_eq_none hstep h.begun fun c hc => (h.copying c hc).1 with
      hfinished | ⟨c, -, hsink⟩ | ⟨c, ch, -, -, hb, -⟩ | ⟨lost, fault, -, hdiagnosis⟩
    · exact .inl hfinished
    · exact absurd hsink (c.not_awaitsSink d.sink)
    · cases h.body _ hb
    · cases hdiagnosis

end Delivery

namespace Exchange

variable {x : Exchange Recorder}

theorem produce?_of_alone (h : x.delivery.Alone) : x.produce? = none := by
  cases hs : x.produce? with
  | none => rfl
  | some y =>
    obtain ⟨p, body, p', body', -, hb, hfeed, -⟩ := produce?_eq_some hs
    obtain ⟨ch, ch', rfl, -, -⟩ := Producer.feed?_eq_some hfeed
    cases h.body _ hb

/-- After as many steps as there are left the delivery is finished, and has left behind what was foreseen. -/
theorem steps_of_alone {n : Nat} (h : x.delivery.Alone) (hn : x.delivery.load + x.delivery.sink.retries ≤ n) :
    (x.steps n).delivery.isFinished = true ∧
      ((x.steps n).delivery.sink, (x.steps n).delivery.events) = x.delivery.outcome := by
  induction n generalizing x with
  | zero =>
    rcases h.finished_or_advance with hf | ⟨d', hd⟩
    · exact ⟨hf, (Delivery.outcome_of_finished hf).symm⟩
    · have hlt := h.load_lt (Delivery.advance_of_step? hd)
      omega
  | succ n ih =>
    rcases h.finished_or_advance with hf | ⟨d', hd⟩
    · have hstep : x.step? = none := by
        have hstate : x.delivery.state = .finished := by simpa [Delivery.isFinished] using hf
        rw [step?, produce?_of_alone h, deliver?, Delivery.step?, hstate]
        rfl
      simp only [steps, hstep]
      exact ⟨hf, (Delivery.outcome_of_finished hf).symm⟩
    · have hstep : x.step? = some { x with delivery := d' } := by
        rw [step?, deliver?, hd]
        rfl
      have ha := Delivery.advance_of_step? hd
      have hlt := h.load_lt ha
      have hleft : d'.load + d'.sink.retries ≤ n := by omega
      simp only [steps, hstep]
      obtain ⟨hfinished, houtcome⟩ := ih (x := { x with delivery := d' }) (h.advance ha) hleft
      exact ⟨hfinished, houtcome.trans (ha.outcome_eq h)⟩

/-- An exchange whose response is no live stream. -/
theorem settle_alone {service : Service} {request : Request} {sink : Recorder} (chunks : List Bytes)
    (hs : ∀ body, (service request).body = some body → body.isStream = false) :
    (start service request sink chunks).settle.delivery.isFinished = true ∧
      ((start service request sink chunks).settle.delivery.sink,
        (start service request sink chunks).settle.delivery.events) =
          (Delivery.serve service request sink).outcome := by
  refine steps_of_alone (x := start service request sink chunks) ⟨nofun, hs, fun _ => nofun⟩ ?_
  have hretries := sink.retries_le_one
  have hload : (start service request sink chunks).delivery.load =
      3 * ((service request).body.map Body.work).getD 0 + 5 := rfl
  have hwork : ((service request).body.getD (.bytes [])).work = ((service request).body.map Body.work).getD 0 := by
    cases (service request).body <;> rfl
  have hsink : (start service request sink chunks).delivery.sink = sink := rfl
  have hbody : (start service request sink chunks).delivery.body = (service request).body := rfl
  rw [hload, hsink, hbody, stepLimit, hwork]
  omega

end Exchange

end Courier
