import Courier.Proofs.Accepted
import Courier.Proofs.Success

/-!
# A response that fails

Head, reads, writes and flushes may fail at any time. `Delivery.Told` says what the trail of calls tells of a
delivery: where it stands, which call has failed, and what was reported. Every step keeps it, and so every run
of an exchange (`Exchange.failure_run`), whatever its producer and the other side of its sink do.
-/

namespace Courier

section

variable {σ : Type} [ResponseSink σ]

/-! ### The delivery -/

namespace Delivery

/-- What the calls of a copier say of it. -/
def CopyTold (calls : List Call) (fault? : Option Fault) : Prop :=
  match fault? with
  | none => Clean calls
  | some fault => ∃ bad, Breaks calls bad fault ∧ bad.isHead = false

/-- What the calls of a delivery say of it. -/
def Told (response : Response) (calls : List Call) (d : Delivery σ) : Prop :=
  match d.state with
  | .awaiting => False
  | .opening o => o = response.opening ∧ calls = []
  | .copying c => calls ≠ [] ∧ c.discipline = .ofStreaming response.isStreaming ∧ c.HasRest ∧
      CopyTold calls c.state.fault?
  | .diagnosing lost fault => calls ≠ [] ∧ ∃ bad written, Breaks calls bad fault ∧
      lost = bad.lost response.isStreaming written
  | .finished => calls ≠ [] ∧ (Clean calls ∧ d.events = [] ∨ ∃ before bad fault cause written,
      calls = before ++ [.diagnosis fault cause] ∧ Breaks before bad fault ∧
      d.events = [d.report (bad.lost response.isStreaming written) cause])

/-- A delivery of a response, after these calls. -/
structure Follows (request : Request) (response : Response) (calls : List Call) (d : Delivery σ) : Prop where
  origin : d.method = request.method ∧ d.uri = request.uri ∧ d.peer = request.context.peer
  heads : HeadFirst response calls
  told : d.Told response calls
  silent : d.isFinished = false → d.events = []
  body : ∀ c, d.state = .copying c → d.body.isSome = true
  kind : d.body.map Body.isStream = response.body.map Body.isStream
  released : d.isFinished = true → ∀ ch, d.body = some (.stream ch) → ch.isClosed = true

variable {request : Request} {response : Response} {calls : List Call} {d d' : Delivery σ}

theorem Told.clean {τ : Type} {d : Delivery τ} (h : d.Told response calls) (hd : d.isFinished = true)
    (hc : Clean calls) : d.events = [] := by
  have hd : d.state = .finished := by simpa [isFinished] using hd
  unfold Told at h
  rw [hd] at h
  rcases h.2 with ⟨-, he⟩ | ⟨before, bad, fault, cause, written, rfl, ⟨hbad, clean, rfl, -⟩, -⟩
  · exact he
  · rw [hc bad (by simp)] at hbad
    cases hbad

theorem Told.not_awaiting {τ : Type} {d : Delivery τ} (h : d.Told response calls) : d.state ≠ .awaiting := by
  intro hs
  unfold Told at h
  rw [hs] at h
  exact h

/-- After a call that fails there is only the diagnosis, and the event tells of both. -/
theorem Told.split {τ : Type} {d : Delivery τ} {before after : List Call} {bad : Call} {fault : Fault}
    (h : d.Told response calls) (he : calls = before ++ bad :: after) (hf : bad.fault? = some fault) :
    Clean before ∧ (after = [] ∧ d.isFinished = false ∨ ∃ cause written, after = [.diagnosis fault cause] ∧
      d.events = [d.report (bad.lost response.isStreaming written) cause]) := by
  have hnot (hc : Clean calls) : False := by
    rw [hc bad (by simp [he])] at hf
    cases hf
  unfold Told at h
  cases hd : d.state with
  | awaiting =>
    rw [hd] at h
    exact h.elim
  | opening o =>
    rw [hd] at h
    simp [h.2] at he
  | copying c =>
    rw [hd] at h
    obtain ⟨-, -, -, hcopy⟩ := h
    unfold CopyTold at hcopy
    split at hcopy
    · exact (hnot hcopy).elim
    · obtain ⟨bad', hbreaks, -⟩ := hcopy
      obtain ⟨hclean, -, -, rfl⟩ := hbreaks.split he hf
      exact ⟨hclean, .inl ⟨rfl, by simp [isFinished, hd]⟩⟩
  | diagnosing lost fault' =>
    rw [hd] at h
    obtain ⟨-, bad', written, hbreaks, -⟩ := h
    obtain ⟨hclean, -, -, rfl⟩ := hbreaks.split he hf
    exact ⟨hclean, .inl ⟨rfl, by simp [isFinished, hd]⟩⟩
  | finished =>
    rw [hd] at h
    obtain ⟨-, ⟨hclean, -⟩ | ⟨told, bad', fault', cause, written, rfl, hbreaks, hevents⟩⟩ := h
    · exact (hnot hclean).elim
    rcases List.eq_nil_or_concat after with rfl | ⟨after, last, rfl⟩
    · obtain ⟨-, hlast⟩ := List.append_inj' he rfl
      cases hlast
      cases hf
    · rw [List.concat_eq_append, ← List.cons_append, ← List.append_assoc] at he
      obtain ⟨hinit, hlast⟩ := List.append_inj' he rfl
      cases hlast
      obtain ⟨hclean, rfl, rfl, rfl⟩ := hbreaks.split hinit hf
      exact ⟨hclean, .inr ⟨cause, written, rfl, hevents⟩⟩

theorem CopyTold.attempt {c c' : Copier} {body body' : Body} {sink sink' : σ} (h : CopyTold calls c.state.fault?)
    (ha : c.Attempt body sink c' body' sink') :
    CopyTold (calls ++ (c.call? body sink).toList) c'.state.fault? := by
  have hclean : Clean calls := by
    have hr := ha.result?_eq_none
    unfold Copier.result? at hr
    cases hc : c.state with
    | failed fault => simp [hc] at hr
    | reading | writing | flushing | closing | done => rwa [hc] at h
  rw [ha.fault?_eq]
  cases hcall : c.call? body sink with
  | none =>
    rw [Option.toList_none, List.append_nil]
    exact hclean
  | some call =>
    rw [Option.toList_some, Option.bind_some]
    cases hf : call.fault? with
    | none => exact hclean.snoc hf
    | some fault => exact ⟨call, hclean.breaks hf, Copier.isHead_call? hcall⟩

theorem isClosed_release {body : Option Body} {ch : Channel} (h : body.map Body.release = some (.stream ch)) :
    ch.isClosed = true := by
  obtain ⟨body, -, hb⟩ := Option.map_eq_some_iff.1 h
  cases body with
  | bytes | reader => cases hb
  | stream ch =>
    cases hb
    rfl

theorem isStream_release (body : Option Body) :
    (body.map Body.release).map Body.isStream = body.map Body.isStream := by
  match body with
  | none | some (.bytes _) | some (.reader ..) | some (.stream _) => rfl

namespace Follows

theorem kind_release {τ : Type} {d : Delivery τ} (h : d.Follows request response calls) :
    (d.body.map Body.release).map Body.isStream = response.body.map Body.isStream :=
  (isStream_release _).trans h.kind

/-- The end of a delivery, whatever calls came last. -/
theorem finish {later : List Call} {sink : σ} {events : List Event} (h : d.Follows request response calls)
    (heads : HeadFirst response later) (told : { d with sink, events }.finish.Told response later) :
    Follows request response later { d with sink, events }.finish :=
  ⟨h.origin, heads, told, (fun hf => by cases hf), (fun c hc => by cases hc), h.kind_release,
    fun _ ch hch => isClosed_release hch⟩

theorem advance (h : d.Follows request response calls) (ha : d.Advance d') :
    d'.Follows request response (calls ++ d.call?.toList) := by
  have hunfinished := ha.not_finished
  have hsilent := h.silent hunfinished
  have htold := h.told
  have hopening {o : Opening} {answer : Except Fault Unit} {sink : σ} (hd : d.state = .opening o)
      (hw : ResponseSink.writeHead (d.dressed o) o.status o.framing = (answer, sink)) :
      o = response.opening ∧
        calls ++ d.call?.toList = [.sink (.head response.status response.framing answer)] := by
    unfold Told at htold
    rw [hd] at htold
    obtain ⟨rfl, rfl⟩ := htold
    rw [call?_of_opening hd hw]
    exact ⟨rfl, rfl⟩
  cases ha with
  | headLost hd hw =>
    obtain ⟨rfl, hcalls⟩ := hopening hd hw
    rw [hcalls]
    exact ⟨h.origin, .inr ⟨_, [], rfl, by simp⟩, ⟨by simp, _, 0, clean_nil.breaks rfl, rfl⟩, fun _ => hsilent,
      (fun c hc => by cases hc), h.kind, fun hf => by cases hf⟩
  | headSent hd hw hb =>
    obtain ⟨rfl, hcalls⟩ := hopening hd hw
    rw [hcalls]
    exact ⟨h.origin, .inr ⟨_, [], rfl, by simp⟩,
      ⟨by simp, rfl, (fun size rest hs => by cases hs), clean_nil.snoc rfl⟩, fun _ => hsilent, fun _ _ => hb,
      h.kind, fun hf => by cases hf⟩
  | headOnly hd hw hb =>
    obtain ⟨rfl, hcalls⟩ := hopening hd hw
    rw [hcalls]
    exact h.finish (.inr ⟨_, [], rfl, by simp⟩) ⟨by simp, .inl ⟨clean_nil.snoc rfl, hsilent⟩⟩
  | @copy c c' body body' sink' hd hb ha =>
    unfold Told at htold
    rw [hd] at htold
    obtain ⟨hne, hdisc, hrest, hcopy⟩ := htold
    rw [call?_of_copying hd hb]
    refine ⟨h.origin, ?_, ⟨by simp [hne], ha.discipline_eq.trans hdisc, ha.hasRest hrest, hcopy.attempt ha⟩,
      fun _ => hsilent, fun _ _ => rfl, ?_, fun hf => by cases hf⟩
    · cases hc : c.call? body d.sink with
      | none =>
        rw [Option.toList_none, List.append_nil]
        exact h.heads
      | some call => exact h.heads.snoc hne (Copier.isHead_call? hc)
    · rw [← h.kind, hb, Option.map_some, Option.map_some, ha.isStream_eq]
  | copied hd hc =>
    unfold Told at htold
    rw [hd] at htold
    obtain ⟨hne, -, -, hcopy⟩ := htold
    rw [hc] at hcopy
    rw [call?_of_result hd (by simp [Copier.result?, hc]), Option.toList_none, List.append_nil]
    exact h.finish h.heads ⟨hne, .inl ⟨hcopy, hsilent⟩⟩
  | @copyLost c fault hd hc =>
    unfold Told at htold
    rw [hd] at htold
    obtain ⟨hne, hdisc, -, hcopy⟩ := htold
    rw [hc] at hcopy
    obtain ⟨bad, hbad, hhead⟩ := hcopy
    rw [call?_of_result hd (by simp [Copier.result?, hc]), Option.toList_none, List.append_nil]
    have hlost : Lost.body (c.discipline = .chunked) c.written = bad.lost response.isStreaming c.written := by
      rw [Call.lost_of_not_head _ _ hhead, hdisc]
      cases response.isStreaming <;> rfl
    exact ⟨h.origin, h.heads, ⟨hne, bad, c.written, hbad, hlost⟩, fun _ => hsilent,
      (fun c hc => by cases hc), h.kind_release, fun hf => by cases hf⟩
  | @report lost fault cause hd hf =>
    unfold Told at htold
    rw [hd] at htold
    obtain ⟨hne, bad, written, hbad, rfl⟩ := htold
    rw [call?_of_diagnosing hd hf, Option.toList_some]
    have hevents : d.events ++ [d.report (bad.lost response.isStreaming written) cause] =
        [d.report (bad.lost response.isStreaming written) cause] := by rw [hsilent, List.nil_append]
    exact h.finish (h.heads.snoc hne rfl)
      ⟨by simp, .inr ⟨calls, bad, fault, cause, written, rfl, hbad, hevents⟩⟩

theorem feed {τ : Type} {d : Delivery τ} {p p' : Producer} {body body' : Body}
    (h : d.Follows request response calls) (hb : d.body = some body)
    (hs : p.feed? body = some (p', body')) : Follows request response calls { d with body := some body' } := by
  obtain ⟨ch, ch', rfl, rfl, hstep⟩ := Producer.feed?_eq_some hs
  refine ⟨h.origin, h.heads, h.told, h.silent, fun _ _ => rfl, ?_, fun hf ch₁ hch => ?_⟩
  · rw [← h.kind, hb]
    rfl
  · cases hch
    have hc := h.released hf ch hb
    unfold Channel.isClosed at hc ⊢
    rw [Producer.reading_step hstep]
    exact hc

theorem turn {τ : Type} {d : Delivery τ} (h : d.Follows request response calls) (sink : τ) :
    Follows request response calls { d with sink } :=
  ⟨h.origin, h.heads, h.told, h.silent, h.body, h.kind, h.released⟩

end Follows

end Delivery

/-! ### The sink -/

/-- What `record` shows of a sink is not changed by a write, a flush or the other side of the sink. -/
structure OnRecord {ρ : Type} (turn : σ → σ → Prop) (record : σ → ρ) : Prop where
  write : ∀ sink bytes, record (ResponseSink.write sink bytes).2 = record sink
  flush : ∀ sink, record (ResponseSink.flush sink).2 = record sink
  close : ∀ sink, record (ResponseSink.close sink) = record sink
  turn : ∀ sink next, turn sink next → record next = record sink

namespace OnRecord

variable {ρ : Type} {turn : σ → σ → Prop} {record : σ → ρ}

theorem attempt {c c' : Copier} {body body' : Body} {sink sink' : σ} (hk : OnRecord turn record)
    (ha : c.Attempt body sink c' body' sink') : record sink' = record sink := by
  have hwrite {bytes : Bytes} {answer : Poll (Except Fault Nat)}
      (hw : ResponseSink.write sink bytes = (answer, sink')) : record sink' = record sink := by
    have := hk.write sink bytes
    rwa [hw] at this
  have hflush {answer : Poll (Except Fault Unit)}
      (hw : ResponseSink.flush sink = (answer, sink')) : record sink' = record sink := by
    have := hk.flush sink
    rwa [hw] at this
  cases ha with
  | unit | ended | readAgain | readLost | notReady => rfl
  | written _ hw | unitDone _ hw | stuck _ hw | writeAgain _ hw | writeLost _ hw => exact hwrite hw
  | flushed _ hw | closed _ hw | flushLost _ hw => exact hflush hw

/-- Behind the head, a delivery leaves the record alone. -/
theorem advance {d d' : Delivery σ} (hk : OnRecord turn record) (ha : d.Advance d')
    (hd : ∀ o, d.state ≠ .opening o) : record d'.sink = record d.sink ∧ ∀ o, d'.state ≠ .opening o := by
  cases ha with
  | headLost ho | headSent ho | headOnly ho => exact absurd ho (hd _)
  | copy _ _ ha => exact ⟨hk.attempt ha, by simp⟩
  | copied | report => exact ⟨hk.close d.sink, by simp [Delivery.finish]⟩
  | copyLost => exact ⟨rfl, by simp⟩

theorem trail {n : Nat} {calls : List Delivery.Call} {x y : Exchange σ} (hk : OnRecord turn record)
    (hr : x.Trail turn n calls y) (hd : ∀ o, x.delivery.state ≠ .opening o) :
    record y.delivery.sink = record x.delivery.sink ∧ ∀ o, y.delivery.state ≠ .opening o := by
  induction hr with
  | refl => exact ⟨rfl, hd⟩
  | deliver _ hs ih =>
    obtain ⟨d, hstep, rfl⟩ := Option.map_eq_some_iff.1 hs
    obtain ⟨hrecord, hopening⟩ := hk.advance (Delivery.advance_of_step? hstep) ih.2
    exact ⟨hrecord.trans ih.1, hopening⟩
  | produce _ hs ih =>
    obtain ⟨p, body, p', body', -, -, -, rfl⟩ := Exchange.produce?_eq_some hs
    exact ih
  | turn _ ht ih => exact ⟨(hk.turn _ _ ht).trans ih.1, ih.2⟩

end OnRecord

/-! ### The exchange -/

namespace Exchange

/-- An exchange after these calls, with the producer that it has come to. -/
structure Follows (request : Request) (response : Response) (chunks : List Bytes) (calls : List Delivery.Call)
    (p : Producer) (x : Exchange σ) : Prop where
  producer : x.producer = some p
  again : p.again = []
  delivery : x.delivery.Follows request response calls
  bytes : x.delivery.Within ((response.body.map (Body.content chunks)).getD [])
    (calls.flatMap Delivery.Call.accepted) p.rest

variable {service : Service} {request : Request} {response : Response} {chunks : List Bytes} {sink : σ}
  {calls : List Delivery.Call} {p : Producer} {x y : Exchange σ} {n : Nat} {turn : σ → σ → Prop}

theorem follows_start {τ : Type} {sink : τ}
    (hopen : ∀ ch, (service request).body = some (.stream ch) → ch.isClosed = false) :
    (start service request sink chunks).Follows request (service request) chunks [] { rest := chunks } := by
  refine ⟨rfl, rfl, ⟨⟨rfl, rfl, rfl⟩, .inl rfl, ⟨rfl, rfl⟩, fun _ => rfl, (fun c hc => by cases hc), rfl,
    fun hf => by cases hf⟩, rfl, ?_⟩
  intro ch hb
  simpa [Channel.isClosed] using hopen ch hb

theorem Follows.deliver (h : x.Follows request response chunks calls p) (hs : x.deliver? = some y) :
    y.Follows request response chunks (calls ++ x.delivery.call?.toList) p ∧
      1 + y.load ≤ x.load + (x.delivery.call?.toList.filter Delivery.Call.isRetried).length := by
  obtain ⟨d, hd, rfl⟩ := Option.map_eq_some_iff.1 hs
  have ha := Delivery.advance_of_step? hd
  refine ⟨⟨h.producer, h.again, h.delivery.advance ha, ?_⟩, ?_⟩
  · rw [List.flatMap_append]
    exact h.bytes.advance ha
  · unfold load
    have hrest : ∀ c, x.delivery.state = .copying c → c.HasRest := by
      intro c hc
      have ht := h.delivery.told
      unfold Delivery.Told at ht
      rw [hc] at ht
      exact ht.2.2.1
    rcases ha.load_lt_or_again hrest with hlt | ⟨he, c, size, rest, fault, hc, hwriting, hw, hf⟩
    · dsimp only
      omega
    · obtain ⟨body, hb⟩ := Option.isSome_iff_exists.1 (h.delivery.body c hc)
      have hcall : x.delivery.call? = some (.sink (.write rest (.error fault))) := by
        simp only [Delivery.call?_of_copying hc hb, Copier.call?, hwriting, hw]
      have hretried : (x.delivery.call?.toList.filter Delivery.Call.isRetried).length = 1 := by
        simp [hcall, Delivery.Call.isRetried, hf]
      dsimp only
      omega

theorem Follows.produce {τ : Type} {x y : Exchange τ} (h : x.Follows request response chunks calls p)
    (hs : x.produce? = some y) :
    ∃ p', y.Follows request response chunks calls p' ∧ 1 + y.load ≤ x.load := by
  obtain ⟨p', hp', ha', hlt⟩ := load_produce h.producer h.again hs
  obtain ⟨q, body, q', body', hq, hb, hf, rfl⟩ := produce?_eq_some hs
  rw [h.producer] at hq
  cases hq
  cases hp'
  exact ⟨_, ⟨rfl, ha', h.delivery.feed hb hf, h.bytes.feed h.again hb hf⟩, by omega⟩

theorem Follows.trail (h : x.Follows request response chunks [] p) (hr : x.Trail turn n calls y) :
    ∃ p', y.Follows request response chunks calls p' ∧
      n + y.load ≤ x.load + (calls.filter Delivery.Call.isRetried).length := by
  induction hr with
  | refl => exact ⟨p, h, by simp⟩
  | deliver _ hs ih =>
    obtain ⟨p', hy, hle⟩ := ih
    obtain ⟨hz, hlt⟩ := hy.deliver hs
    refine ⟨p', hz, ?_⟩
    rw [List.filter_append, List.length_append]
    omega
  | produce _ hs ih =>
    obtain ⟨p', hy, hle⟩ := ih
    obtain ⟨p'', hz, hlt⟩ := hy.produce hs
    exact ⟨p'', hz, by omega⟩
  | @turn n calls y sink _ _ ih =>
    obtain ⟨p', hy, hle⟩ := ih
    exact ⟨p', ⟨hy.producer, hy.again, hy.delivery.turn sink, hy.bytes⟩, hle⟩

/-- A response without a live stream leaves its producer nothing to do. -/
theorem follows_trail {body : Body} (hb : (service request).body = some body) (hs : body.isStream = false)
    (hr : (start service request sink chunks).Trail turn n calls x) :
    ∃ p, x.Follows request (service request) chunks calls p ∧
      n + x.load ≤ (start service request sink chunks).load + (calls.filter Delivery.Call.isRetried).length := by
  refine (follows_start fun ch hch => ?_).trail hr
  rw [hb] at hch
  cases hch
  cases hs

/-- What holds of every run that serves a response, whatever fails. -/
theorem failure_run {ρ : Type} {record : σ → ρ} (hk : OnRecord turn record)
    (hopen : ∀ ch, (service request).body = some (.stream ch) → ch.isClosed = false)
    (hr : (start service request sink chunks).Trail turn n calls x) :
    (x.delivery.isFinished = true → calls ≠ []) ∧
    (calls ≠ [] → ∃ answer rest,
      calls = .sink (.head (service request).status (service request).framing answer) :: rest ∧
      (∀ call ∈ rest, call.isHead = false) ∧
      ∀ fault, answer = .error fault → rest = [] ∨ ∃ cause, rest = [.diagnosis fault cause]) ∧
    (calls ≠ [] → ∀ m later y, x.Trail turn m later y → record y.delivery.sink = record x.delivery.sink) ∧
    calls.flatMap Delivery.Call.accepted <+: ((service request).body.map (Body.content chunks)).getD [] ∧
    (∀ before bad after fault, calls = before ++ bad :: after → bad.fault? = some fault →
      (∀ call ∈ before, call.fault? = none) ∧ (after = [] ∨ ∃ cause, after = [.diagnosis fault cause])) ∧
    (x.delivery.isFinished = false → x.delivery.events = []) ∧
    (x.delivery.isFinished = true →
      ((∀ call ∈ calls, call.fault? = none) → x.delivery.events = []) ∧
      ∀ before bad after fault, calls = before ++ bad :: after → bad.fault? = some fault →
        ∃ cause event, after = [.diagnosis fault cause] ∧ x.delivery.events = [event] ∧
          event.severity = cause.severity ∧ event.fault = cause ∧ event.method = request.method ∧
          event.uri = request.uri ∧ event.peer = request.context.peer ∧
          event.lost.message = if bad.isHead then "couldn't send response head"
            else if (service request).isStreaming then "couldn't send streaming response body"
            else "couldn't send response body") ∧
    (x.delivery.isFinished = true →
      x.delivery.body.map Body.isStream = (service request).body.map Body.isStream ∧
      ∀ ch, x.delivery.body = some (.stream ch) → ch.isClosed = true ∧
        ∀ s : Channel.History, s.channel = ch → ∀ moves s', s.run? moves = some s' → ∀ writer chunk s'',
          s'.step? (.send writer chunk) = some s'' → (s'.channel.started, .closed) ∈ s''.results) ∧
    (x.deliver? = none → x.produce? = none → x.delivery.isFinished = true ∨ x.delivery.AwaitsSink ∨
      x.delivery.AwaitsWriters ∨ x.delivery.AwaitsDiagnosis) ∧
    n + x.load ≤ (start service request sink chunks).load +
      (calls.filter Delivery.Call.isRetried).length := by
  obtain ⟨p, h, hload⟩ := (follows_start hopen).trail hr
  have htold := h.delivery.told
  refine ⟨fun hf => ?_, fun hne => ?_, fun hne m later y hlater => ?_, h.bytes.initial,
    fun before bad after fault he hf => ?_, h.delivery.silent, fun hf => ⟨htold.clean hf, ?_⟩,
    fun hf => ⟨h.delivery.kind, fun ch hb => ?_⟩, fun hd _ => ?_, hload⟩
  · have hs : x.delivery.state = .finished := by simpa [Delivery.isFinished] using hf
    unfold Delivery.Told at htold
    rw [hs] at htold
    exact htold.1
  · rcases h.delivery.heads with rfl | ⟨answer, rest, rfl, hrest⟩
    · exact absurd rfl hne
    · refine ⟨answer, rest, rfl, hrest, fun fault ha => ?_⟩
      subst ha
      rcases (htold.split (List.nil_append _).symm rfl).2 with ⟨hnil, -⟩ | ⟨cause, written, hlast, -⟩
      · exact .inl hnil
      · exact .inr ⟨cause, hlast⟩
  · refine (hk.trail hlater fun o ho => hne ?_).1
    unfold Delivery.Told at htold
    rw [ho] at htold
    exact htold.2
  · obtain ⟨hclean, ⟨hnil, -⟩ | ⟨cause, written, hlast, -⟩⟩ := htold.split he hf
    · exact ⟨hclean, .inl hnil⟩
    · exact ⟨hclean, .inr ⟨cause, hlast⟩⟩
  · intro before bad after fault he hbad
    obtain ⟨hmethod, huri, hpeer⟩ := h.delivery.origin
    obtain ⟨-, ⟨-, hn⟩ | ⟨cause, written, hlast, hevents⟩⟩ := htold.split he hbad
    · rw [hf] at hn
      cases hn
    · exact ⟨cause, _, hlast, hevents, rfl, rfl, hmethod, huri, hpeer, Delivery.Call.message_lost ..⟩
  · have hclosed := h.delivery.released hf ch hb
    refine ⟨hclosed, fun s hs moves s' hmoves writer chunk s'' hsend => ?_⟩
    exact Channel.History.send_of_closed (Channel.History.isClosed_run (hs ▸ hclosed) hmoves) hsend
  · have hd : x.delivery.step? = none := by simpa [deliver?] using hd
    exact Delivery.awaits_of_step?_eq_none hd htold.not_awaiting h.delivery.body

theorem Trail.steps (h : x.Trail turn n calls y) (limit : Nat) :
    ∃ m, x.Trail turn m (calls ++ y.calls limit) (y.steps limit) := by
  induction limit generalizing n calls y with
  | zero =>
    rw [Exchange.calls, List.append_nil]
    exact ⟨n, h⟩
  | succ limit ih =>
    unfold Exchange.calls Exchange.steps step?
    cases hd : y.deliver? with
    | some z =>
      rw [← List.append_assoc]
      exact ih (h.deliver hd)
    | none =>
      cases hp : y.produce? with
      | some z => exact ih (h.produce hp)
      | none =>
        rw [List.append_nil]
        exact ⟨n, h⟩

end Exchange

end

/-- A recorder keeps the calls for the head and what came with the one that did not fail. -/
theorem Recorder.onRecord :
    OnRecord Eq fun r : Recorder => (r.headCalls, r.head, r.headers) where
  write r bytes := by
    have hw : ResponseSink.write r bytes = r.write bytes := rfl
    rw [hw]
    unfold Recorder.write
    dsimp only
    split <;> rfl
  flush r := by
    have hw : ResponseSink.flush r = r.flush := rfl
    rw [hw]
    unfold Recorder.flush
    dsimp only
    split <;> rfl
  close _ := rfl
  turn _ _ h := by rw [h]

/-- A live stream whose third byte a recorder does not accept. -/
theorem Exchange.failure_run_write :
    ∃ n calls x event, (start (fun _ => { body := some (.stream {}) }) {}
        ({ cap := some 1, failWrite := some (3, .os 32) } : Recorder) [[97], [98, 99]]).Trail Eq n calls x ∧
      x.delivery.isFinished = true ∧ calls.flatMap Delivery.Call.accepted <+: [97, 98, 99] ∧
      x.delivery.events = [event] ∧ event.severity = event.fault.severity ∧
      event.lost.message = "couldn't send streaming response body" := by
  obtain ⟨n, hr⟩ := Trail.steps (.refl : (start (fun _ => { body := some (.stream {}) }) {}
    ({ cap := some 1, failWrite := some (3, .os 32) } : Recorder) [[97], [98, 99]]).Trail Eq 0 [] _) 64
  have hfin : ((start (fun _ => { body := some (.stream {}) }) {}
    ({ cap := some 1, failWrite := some (3, .os 32) } : Recorder)
      [[97], [98, 99]]).steps 64).delivery.isFinished = true := by decide +kernel
  have hbad : ((start (fun _ => { body := some (.stream {}) }) {}
    ({ cap := some 1, failWrite := some (3, .os 32) } : Recorder)
      [[97], [98, 99]]).calls 64).any (fun call => !call.isHead && call.fault?.isSome) = true := by
    decide +kernel
  obtain ⟨bad, hmem, hbad⟩ := List.any_eq_true.1 hbad
  obtain ⟨before, after, he⟩ := List.append_of_mem hmem
  obtain ⟨hhead, hsome⟩ := Bool.and_eq_true_iff.1 hbad
  obtain ⟨fault, hf⟩ := Option.isSome_iff_exists.1 hsome
  obtain ⟨-, -, -, hprefix, -, -, hreport, -⟩ := failure_run Recorder.onRecord (fun ch h => by cases h; rfl) hr
  obtain ⟨cause, event, -, hevents, hseverity, hfault, -, -, -, hmessage⟩ :=
    (hreport hfin).2 before bad after fault he hf
  refine ⟨n, _, _, event, hr, hfin, hprefix, hevents, by rw [hseverity, hfault], ?_⟩
  rw [hmessage, if_neg (by simpa using hhead)]
  rfl

/-- A write that was interrupted is made again, and not reported. -/
theorem Exchange.not_forall_failed_write_reported :
    ¬ ∀ (service : Service) (request : Request) (sink : Recorder) (chunks : List Bytes) (n : Nat)
      (calls : List Delivery.Call) (x : Exchange Recorder),
      (start service request sink chunks).Trail Eq n calls x → x.delivery.isFinished = true →
      (∃ bytes fault, Delivery.Call.sink (.write bytes (.error fault)) ∈ calls) →
      ∃ event, x.delivery.events = [event] := by
  intro hreported
  obtain ⟨n, hr⟩ := Trail.steps (.refl : (start (fun _ => { body := some (.bytes [104, 105]) }) {}
    ({ failWrite := some (1, .io .interrupted) } : Recorder) []).Trail Eq 0 [] _) 16
  have hretried : ((start (fun _ => { body := some (.bytes [104, 105]) }) {}
    ({ failWrite := some (1, .io .interrupted) } : Recorder) []).calls 16).any
      Delivery.Call.isRetried = true := by decide +kernel
  have hsilent : ((start (fun _ => { body := some (.bytes [104, 105]) }) {}
    ({ failWrite := some (1, .io .interrupted) } : Recorder) []).steps 16).delivery.events = [] := by
    decide +kernel
  obtain ⟨call, hmem, hc⟩ := List.any_eq_true.1 hretried
  have hfailed : ∃ bytes fault, call = .sink (.write bytes (.error fault)) := by
    unfold Delivery.Call.isRetried at hc
    split at hc
    · exact ⟨_, _, rfl⟩
    · cases hc
  obtain ⟨bytes, fault, rfl⟩ := hfailed
  obtain ⟨event, he⟩ := hreported _ _ _ _ _ _ _ hr (by decide +kernel) ⟨bytes, fault, hmem⟩
  rw [hsilent] at he
  cases he

end Courier
