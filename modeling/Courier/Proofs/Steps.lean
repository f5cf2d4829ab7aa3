import Courier.Exchange.Run

/-!
# What one step does

`Copier.Attempt` and `Delivery.Advance` spell out the steps of a copier and of a delivery, one rule for
each thing that a step can be. `Copier.step?_eq_some_iff` and `Delivery.step?_eq_some_iff` say that the
rules are the steps, so that an invariant is shown rule by rule and no proof opens a step again.
-/

namespace Courier

variable {σ : Type} [ResponseSink σ]

/-- One attempt of a copier. -/
inductive Copier.Attempt (c : Copier) (body : Body) (sink : σ) : Copier → Body → σ → Prop
  | unit {unit : Bytes} {next : Body} (hc : c.state = .reading)
      (hr : body.read unitLimit = (.ready (.ok unit), next)) (hu : unit ≠ []) :
      Attempt c body sink { c with state := .writing unit.length unit } next sink
  | ended {next : Body} (hc : c.state = .reading) (hr : body.read unitLimit = (.ready (.ok []), next)) :
      Attempt c body sink { c with state := .closing } next sink
  | readAgain {fault : Fault} {next : Body} (hc : c.state = .reading)
      (hr : body.read unitLimit = (.ready (.error fault), next)) (hf : fault.isInterrupted = true) :
      Attempt c body sink c next sink
  | readLost {fault : Fault} {next : Body} (hc : c.state = .reading)
      (hr : body.read unitLimit = (.ready (.error fault), next)) (hf : fault.isInterrupted = false) :
      Attempt c body sink (c.fail fault) next sink
  | notReady {next : Body} (hc : c.state = .reading) (hr : body.read unitLimit = (.pending, next))
      (hs : body.isStream = false) : Attempt c body sink c next sink
  | written {size n : Nat} {rest : Bytes} {next : σ} (hc : c.state = .writing size rest)
      (hw : ResponseSink.write sink rest = (.ready (.ok n), next)) (hn : 0 < n) (hl : rest.drop n ≠ []) :
      Attempt c body sink { c with state := .writing size (rest.drop n) } body next
  | unitDone {size n : Nat} {rest : Bytes} {next : σ} (hc : c.state = .writing size rest)
      (hw : ResponseSink.write sink rest = (.ready (.ok n), next)) (hn : 0 < n) (hl : rest.drop n = []) :
      Attempt c body sink (c.afterUnit size) body next
  | stuck {size : Nat} {rest : Bytes} {next : σ} (hc : c.state = .writing size rest)
      (hw : ResponseSink.write sink rest = (.ready (.ok 0), next)) :
      Attempt c body sink (c.fail stuck) body next
  | writeAgain {size : Nat} {rest : Bytes} {fault : Fault} {next : σ} (hc : c.state = .writing size rest)
      (hw : ResponseSink.write sink rest = (.ready (.error fault), next))
      (hf : fault.isInterrupted = true) : Attempt c body sink c body next
  | writeLost {size : Nat} {rest : Bytes} {fault : Fault} {next : σ} (hc : c.state = .writing size rest)
      (hw : ResponseSink.write sink rest = (.ready (.error fault), next))
      (hf : fault.isInterrupted = false) : Attempt c body sink (c.fail fault) body next
  | flushed {next : σ} (hc : c.state = .flushing)
      (hw : ResponseSink.flush sink = (.ready (.ok ()), next)) :
      Attempt c body sink { c with state := .reading } body next
  | closed {next : σ} (hc : c.state = .closing)
      (hw : ResponseSink.flush sink = (.ready (.ok ()), next)) :
      Attempt c body sink { c with state := .done } body next
  | flushLost {fault : Fault} {next : σ} (hc : c.state = .flushing ∨ c.state = .closing)
      (hw : ResponseSink.flush sink = (.ready (.error fault), next)) :
      Attempt c body sink (c.fail fault) body next

namespace Copier

variable {c c' : Copier} {body body' : Body} {sink sink' : σ}

theorem attempt_afterRead {answer : Except Fault Bytes} (hc : c.state = .reading)
    (hr : body.read unitLimit = (.ready answer, body')) :
    c.Attempt body sink (c.afterRead answer) body' sink := by
  match answer, hr with
  | .ok [], hr => exact .ended hc hr
  | .ok (b :: unit), hr => exact .unit hc hr (by simp)
  | .error fault, hr =>
    show c.Attempt body sink (if fault.isInterrupted then c else c.fail fault) body' sink
    split
    · rename_i hf
      exact .readAgain hc hr hf
    · rename_i hf
      exact .readLost hc hr (by simpa using hf)

theorem attempt_afterWrite {size : Nat} {rest : Bytes} {answer : Except Fault Nat}
    (hc : c.state = .writing size rest)
    (hw : ResponseSink.write sink rest = (.ready answer, sink')) :
    c.Attempt body sink (c.afterWrite size rest answer) body sink' := by
  match answer, hw with
  | .ok 0, hw => exact .stuck hc hw
  | .ok (n + 1), hw =>
    show c.Attempt body sink (if (rest.drop (n + 1)).isEmpty then c.afterUnit size
      else { c with state := .writing size (rest.drop (n + 1)) }) body sink'
    split
    · rename_i hl
      exact .unitDone hc hw (by omega) (by simpa using hl)
    · rename_i hl
      exact .written hc hw (by omega) (by simpa using hl)
  | .error fault, hw =>
    show c.Attempt body sink (if fault.isInterrupted then c else c.fail fault) body sink'
    split
    · rename_i hf
      exact .writeAgain hc hw hf
    · rename_i hf
      exact .writeLost hc hw (by simpa using hf)

theorem attempt_of_step? (h : c.step? body sink = some (c', body', sink')) :
    c.Attempt body sink c' body' sink' := by
  unfold step? at h
  split at h
  · rename_i hc
    split at h
    · rename_i hr
      cases h; exact attempt_afterRead hc hr
    · rename_i hr
      split at h
      · cases h
      · rename_i hs
        cases h; exact .notReady hc hr (by simpa using hs)
  · rename_i hc
    split at h
    · rename_i hw
      cases h; exact attempt_afterWrite hc hw
    · cases h
  · rename_i hc
    split at h
    · rename_i answer _ hf
      cases h
      match answer, hf with
      | .ok (), hf => exact .flushed hc hf
      | .error fault, hf => exact .flushLost (.inl hc) hf
    · cases h
  · rename_i hc
    split at h
    · rename_i answer _ hf
      cases h
      match answer, hf with
      | .ok (), hf => exact .closed hc hf
      | .error fault, hf => exact .flushLost (.inr hc) hf
    · cases h
  all_goals cases h

theorem step?_of_attempt (h : c.Attempt body sink c' body' sink') :
    c.step? body sink = some (c', body', sink') := by
  cases h with
  | @unit u next hc hr hu =>
    obtain ⟨b, u, rfl⟩ := List.exists_cons_of_ne_nil hu
    simp only [step?, hc, hr, afterRead]
  | ended hc hr => simp only [step?, hc, hr, afterRead]
  | readAgain hc hr hf | readLost hc hr hf => simp [step?, hc, hr, afterRead, hf]
  | notReady hc hr hs => simp [step?, hc, hr, hs]
  | written hc hw hn hl | unitDone hc hw hn hl =>
    obtain ⟨n, rfl⟩ := Nat.exists_eq_succ_of_ne_zero (Nat.ne_of_gt hn)
    simp only [step?, hc, hw, afterWrite, Nat.succ_eq_add_one] at *
    simp [hl]
  | stuck hc hw => simp only [step?, hc, hw, afterWrite]
  | writeAgain hc hw hf | writeLost hc hw hf => simp [step?, hc, hw, afterWrite, hf]
  | flushed hc hw | closed hc hw => simp only [step?, hc, hw, afterFlush]
  | flushLost hc hw => rcases hc with hc | hc <;> simp only [step?, hc, hw, afterFlush]

theorem step?_eq_some_iff :
    c.step? body sink = some (c', body', sink') ↔ c.Attempt body sink c' body' sink' :=
  ⟨attempt_of_step?, step?_of_attempt⟩

theorem Attempt.result?_eq_none (h : c.Attempt body sink c' body' sink') : c.result? = none := by
  have hs := step?_of_attempt h
  unfold result?
  split
  · rename_i hc
    simp [step?, hc] at hs
  · rename_i hc
    simp [step?, hc] at hs
  · rfl

/-- A unit in hand has bytes left. -/
def HasRest (c : Copier) : Prop := ∀ size rest, c.state = .writing size rest → rest ≠ []

theorem Attempt.hasRest (ha : c.Attempt body sink c' body' sink') (h : c.HasRest) : c'.HasRest := by
  intro size rest hw
  cases ha with
  | unit _ _ hu =>
    simp only [Copying.writing.injEq] at hw
    exact hw.2 ▸ hu
  | written _ _ _ hl =>
    simp only [Copying.writing.injEq] at hw
    exact hw.2 ▸ hl
  | unitDone =>
    simp only [afterUnit] at hw
    split at hw <;> cases hw
  | readAgain | notReady | writeAgain => exact h size rest hw
  | ended | readLost | stuck | writeLost | flushed | closed | flushLost => cases hw

end Copier

/-- The discipline of a copy that is streamed or not. -/
def Discipline.ofStreaming (streaming : Bool) : Discipline := if streaming then .chunked else .buffered

/-- The sink with the header set that the head is written with. -/
def Delivery.dressed (d : Delivery σ) (o : Opening) : σ :=
  ResponseSink.setHeaders d.sink ((ResponseSink.headers d.sink).copyFields o.headers)

/-- One step of a delivery. -/
inductive Delivery.Advance (d : Delivery σ) : Delivery σ → Prop
  | headLost {o : Opening} {fault : Fault} {sink : σ} (hd : d.state = .opening o)
      (hw : ResponseSink.writeHead (d.dressed o) o.status o.framing = (.error fault, sink)) :
      Advance d { d with sink, state := .diagnosing .head fault }
  | headSent {o : Opening} {sink : σ} (hd : d.state = .opening o)
      (hw : ResponseSink.writeHead (d.dressed o) o.status o.framing = (.ok (), sink))
      (hb : d.body.isSome = true) :
      Advance d { d with sink, state := .copying { discipline := .ofStreaming o.streaming } }
  | headOnly {o : Opening} {sink : σ} (hd : d.state = .opening o)
      (hw : ResponseSink.writeHead (d.dressed o) o.status o.framing = (.ok (), sink))
      (hb : d.body = none) : Advance d { d with sink }.finish
  | copy {c c' : Copier} {body body' : Body} {sink' : σ} (hd : d.state = .copying c)
      (hb : d.body = some body) (ha : c.Attempt body d.sink c' body' sink') :
      Advance d { d with state := .copying c', body := some body', sink := sink' }
  | copied {c : Copier} (hd : d.state = .copying c) (hc : c.state = .done) : Advance d d.finish
  | copyLost {c : Copier} {fault : Fault} (hd : d.state = .copying c) (hc : c.state = .failed fault) :
      Advance d { d with
        body := d.body.map Body.release
        state := .diagnosing (.body (c.discipline = .chunked) c.written) fault }
  | report {lost : Lost} {fault cause : Fault} (hd : d.state = .diagnosing lost fault)
      (hf : ResponseSink.diagnose d.sink fault = .ready cause) :
      Advance d { d with events := d.events ++ [d.report lost cause] }.finish

namespace Delivery

variable {d d' : Delivery σ}

theorem advance_sendHead {o : Opening} (hd : d.state = .opening o) : d.Advance (d.sendHead o) := by
  unfold sendHead
  simp only
  split
  · rename_i hw
    exact .headLost hd hw
  · rename_i hw
    split
    · rename_i hb
      exact .headSent hd hw hb
    · rename_i hb
      exact .headOnly hd hw (by simpa using hb)

theorem advance_of_step? (h : d.step? = some d') : d.Advance d' := by
  unfold step? at h
  split at h
  · cases h
  · cases h
  · rename_i hd
    cases h; exact advance_sendHead hd
  · rename_i c hd
    split at h
    · rename_i result hr
      cases h
      unfold Copier.result? at hr
      split at hr <;> cases hr
      · rename_i hc
        exact .copied hd hc
      · rename_i hc
        exact .copyLost hd hc
    · simp only [Option.bind_eq_bind, Option.bind_eq_some_iff] at h
      obtain ⟨body, hb, ⟨c', body', sink'⟩, hs, h⟩ := h
      cases h; exact .copy hd hb (Copier.attempt_of_step? hs)
  · rename_i hd
    split at h
    · cases h
    · rename_i hf
      cases h; exact .report hd hf

theorem step?_of_advance (h : d.Advance d') : d.step? = some d' := by
  cases h with
  | headLost hd hw =>
    unfold dressed at hw
    simp only [step?, hd, sendHead, hw]
  | headSent hd hw hb | headOnly hd hw hb =>
    unfold dressed at hw
    simp [step?, hd, sendHead, hw, hb, Discipline.ofStreaming]
  | copy hd hb ha =>
    simp only [step?, hd, ha.result?_eq_none, hb, Copier.step?_of_attempt ha, Option.bind_eq_bind,
      Option.bind_some]
  | copied hd hc | copyLost hd hc => simp only [step?, hd, Copier.result?, hc, endCopy]
  | report hd hf => simp only [step?, hd, hf]

theorem step?_eq_some_iff : d.step? = some d' ↔ d.Advance d' := ⟨advance_of_step?, step?_of_advance⟩

theorem Advance.not_finished (ha : d.Advance d') : d.isFinished = false := by
  cases hd : d.isFinished with
  | false => rfl
  | true =>
    have hs := step?_of_advance ha
    have hd : d.state = .finished := by simpa [isFinished] using hd
    simp [step?, hd] at hs

end Delivery

/-- One step of a producer beside a delivery: it changes the body and nothing else there. -/
theorem Exchange.produce?_eq_some {τ : Type} {x y : Exchange τ} (h : x.produce? = some y) :
    ∃ p body p' body', x.producer = some p ∧ x.delivery.body = some body ∧ p.feed? body = some (p', body') ∧
      y = { delivery := { x.delivery with body := some body' }, producer := some p' } := by
  simp only [produce?, Option.bind_eq_bind, Option.bind_eq_some_iff] at h
  obtain ⟨p, hp, body, hb, ⟨p', body'⟩, hf, h⟩ := h
  cases h
  exact ⟨p, body, p', body', hp, hb, hf, rfl⟩

end Courier
