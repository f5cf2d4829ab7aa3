import Courier.Exchange.Framed
import Courier.Proofs.Holding
import Courier.Proofs.Lengths
import Courier.Proofs.Unframed

/-!
# Above and below the threshold

A body from memory that is longer than the threshold goes out as a reader, and so in chunks. Two deliveries
whose bodies hold the same bytes take their steps together on every sink that does not care for the framing
(`Delivery.Parallel`), so the sink gets the same calls from both, but for what the head says
(`Exchange.Trail.parallel`). Neither is streamed, so neither flushes before it is at its end
(`Delivery.FlushedOnce`). That is all the threshold changes (`Exchange.threshold_run`).
-/

namespace Courier

/-! ### Two deliveries together -/

section

variable {σ : Type} [ResponseSink σ] {turn same : σ → σ → Prop}

theorem Alike.exists_eq {α τ : Type} {same : τ → τ → Prop} {answer : α} {s : τ} {right : α × τ}
    (h : Alike same (answer, s) right) : ∃ t, right = (answer, t) ∧ same s t :=
  ⟨right.2, Prod.ext h.1.symm rfl, h.2⟩

namespace Copier

variable {c c' : Copier} {body body' other : Body} {data : Bytes} {sink sink' t : σ}

/-- Copiers whose bodies hold the same bytes make the same call. -/
theorem call?_parallel (c : Copier) (hi : Indifferent turn same) (hb : body.Holds data) (ho : other.Holds data)
    (hs : same sink t) : c.call? other t = c.call? body sink := by
  obtain ⟨next, hread, -⟩ := hb.read unitLimit
  obtain ⟨next', hread', -⟩ := ho.read unitLimit
  unfold call?
  split
  · rw [hread, hread']
  · rw [(hi.write _ hs).1]
  · rw [(hi.flush hs).1]
  · rw [(hi.flush hs).1]
  · rfl
  · rfl

/-- What one copier attempts, another attempts whose body holds the same bytes. -/
theorem Attempt.parallel (hi : Indifferent turn same) (hb : body.Holds data) (ho : other.Holds data)
    (hs : same sink t) (ha : c.Attempt body sink c' body' sink') :
    ∃ other' t' left, c.Attempt other t c' other' t' ∧ body'.Holds left ∧ other'.Holds left ∧ same sink' t' := by
  obtain ⟨next, hread, hnext⟩ := ho.read unitLimit
  have hwrite {bytes : Bytes} {answer : Poll (Except Fault Nat)}
      (hw : ResponseSink.write sink bytes = (answer, sink')) :
      ∃ t', ResponseSink.write t bytes = (answer, t') ∧ same sink' t' := (hw ▸ hi.write bytes hs).exists_eq
  have hflush {answer : Poll (Except Fault Unit)} (hw : ResponseSink.flush sink = (answer, sink')) :
      ∃ t', ResponseSink.flush t = (answer, t') ∧ same sink' t' := (hw ▸ hi.flush hs).exists_eq
  cases ha with
  | unit hc hr hu =>
    obtain ⟨he, hleft⟩ := hb.eq_of_read hr
    cases he
    exact ⟨next, t, _, .unit hc hread hu, hleft, hnext, hs⟩
  | ended hc hr =>
    obtain ⟨he, hleft⟩ := hb.eq_of_read hr
    simp only [Poll.ready.injEq, Except.ok.injEq] at he
    rw [← he] at hread
    exact ⟨next, t, _, .ended hc hread, hleft, hnext, hs⟩
  | readAgain _ hr | readLost _ hr | notReady _ hr => cases (hb.eq_of_read hr).1
  | written hc hw hn hl =>
    obtain ⟨t', hw', hs'⟩ := hwrite hw
    exact ⟨other, t', data, .written hc hw' hn hl, hb, ho, hs'⟩
  | unitDone hc hw hn hl =>
    obtain ⟨t', hw', hs'⟩ := hwrite hw
    exact ⟨other, t', data, .unitDone hc hw' hn hl, hb, ho, hs'⟩
  | stuck hc hw =>
    obtain ⟨t', hw', hs'⟩ := hwrite hw
    exact ⟨other, t', data, .stuck hc hw', hb, ho, hs'⟩
  | writeAgain hc hw hf =>
    obtain ⟨t', hw', hs'⟩ := hwrite hw
    exact ⟨other, t', data, .writeAgain hc hw' hf, hb, ho, hs'⟩
  | writeLost hc hw hf =>
    obtain ⟨t', hw', hs'⟩ := hwrite hw
    exact ⟨other, t', data, .writeLost hc hw' hf, hb, ho, hs'⟩
  | flushed hc hw =>
    obtain ⟨t', hw', hs'⟩ := hflush hw
    exact ⟨other, t', data, .flushed hc hw', hb, ho, hs'⟩
  | closed hc hw =>
    obtain ⟨t', hw', hs'⟩ := hflush hw
    exact ⟨other, t', data, .closed hc hw', hb, ho, hs'⟩
  | flushLost hc hw =>
    obtain ⟨t', hw', hs'⟩ := hflush hw
    exact ⟨other, t', data, .flushLost hc hw', hb, ho, hs'⟩

/-- A copier calls for no head. -/
theorem reframed_call? (c : Copier) (body : Body) (sink : σ) (framing : Framing) :
    (c.call? body sink).map (Delivery.Call.reframed framing) = c.call? body sink := by
  unfold call?
  split
  · split <;> rfl
  · split <;> rfl
  · split <;> rfl
  · split <;> rfl
  · rfl
  · rfl

end Copier

/-- The same, of a response that is framed like this. -/
def Delivering.reframed (framing : Framing) : Delivering → Delivering
  | .opening o => .opening { o with framing }
  | state => state

/-- The head that is still to be written comes with a body. -/
def Delivering.IsFramed : Delivering → Prop
  | .opening o => o.framing ≠ .empty
  | _ => True

namespace Delivery

/-- The second delivery stands where the first one does, but that it says, or has said, the framing. -/
structure Parallel (same : σ → σ → Prop) (framing : Framing) (d e : Delivery σ) : Prop where
  origin : e.method = d.method ∧ e.uri = d.uri ∧ e.peer = d.peer
  events : e.events = d.events
  sink : same d.sink e.sink
  state : e.state = d.state.reframed framing
  framed : d.state.IsFramed
  bodies : ∃ data body other, d.body = some body ∧ e.body = some other ∧ body.Holds data ∧ other.Holds data

namespace Parallel

variable {framing : Framing} {d d' e : Delivery σ}

theorem dressed (h : d.Parallel same framing e) (hi : Indifferent turn same) (o : Opening) :
    same (d.dressed o) (e.dressed { o with framing }) := by
  unfold Delivery.dressed
  rw [hi.headers h.sink]
  exact hi.setHeaders _ h.sink

theorem writeHead {o : Opening} {answer : Except Fault Unit} {s : σ} (h : d.Parallel same framing e)
    (hi : Indifferent turn same) (hf : framing ≠ .empty) (hd : d.state = .opening o)
    (hw : ResponseSink.writeHead (d.dressed o) o.status o.framing = (answer, s)) :
    ∃ t, ResponseSink.writeHead (e.dressed { o with framing }) o.status framing = (answer, t) ∧ same s t := by
  have hframed := h.framed
  rw [hd] at hframed
  exact (hw ▸ hi.writeHead o.status hframed hf (h.dressed hi o)).exists_eq

theorem released {τ : Type} {same : τ → τ → Prop} {d e : Delivery τ} (h : d.Parallel same framing e) :
    ∃ data body other, d.body.map Body.release = some body ∧ e.body.map Body.release = some other ∧
      body.Holds data ∧ other.Holds data := by
  obtain ⟨data, body, other, hb, ho, hbody, hother⟩ := h.bodies
  refine ⟨data, body, other, ?_, ?_, hbody, hother⟩
  · rw [hb, Option.map_some, hbody.release]
  · rw [ho, Option.map_some, hother.release]

theorem isFinished_eq {τ : Type} {same : τ → τ → Prop} {d e : Delivery τ} (h : d.Parallel same framing e) :
    e.isFinished = d.isFinished := by
  unfold isFinished
  rw [h.state]
  cases d.state <;> rfl

theorem finish (h : d.Parallel same framing e) (hi : Indifferent turn same) :
    d.finish.Parallel same framing e.finish :=
  ⟨h.origin, h.events, hi.close h.sink, rfl, trivial, h.released⟩

theorem report {τ : Type} {same : τ → τ → Prop} {d e : Delivery τ} (h : d.Parallel same framing e) (lost : Lost)
    (cause : Fault) : e.report lost cause = d.report lost cause := by
  obtain ⟨hmethod, huri, hpeer⟩ := h.origin
  simp only [Delivery.report, hmethod, huri, hpeer]

/-- What one delivery does, the other does, and its call is the same but for the framing. -/
theorem advance (h : d.Parallel same framing e) (hi : Indifferent turn same) (hf : framing ≠ .empty)
    (ha : d.Advance d') :
    ∃ e', e.Advance e' ∧ d'.Parallel same framing e' ∧ e.call? = d.call?.map (Call.reframed framing) := by
  obtain ⟨data, body, other, hb, ho, hbody, hother⟩ := h.bodies
  cases ha with
  | @headLost o fault s hd hw =>
    obtain ⟨t, hw', hs⟩ := h.writeHead hi hf hd hw
    have he : e.state = .opening { o with framing } := by rw [h.state, hd]; rfl
    refine ⟨_, .headLost he hw', ⟨h.origin, h.events, hs, rfl, trivial, h.bodies⟩, ?_⟩
    rw [call?_of_opening hd hw, call?_of_opening he hw']
    rfl
  | @headSent o s hd hw _ =>
    obtain ⟨t, hw', hs⟩ := h.writeHead hi hf hd hw
    have he : e.state = .opening { o with framing } := by rw [h.state, hd]; rfl
    refine ⟨_, .headSent he hw' (by rw [ho]; rfl), ⟨h.origin, h.events, hs, rfl, trivial, h.bodies⟩, ?_⟩
    rw [call?_of_opening hd hw, call?_of_opening he hw']
    rfl
  | headOnly _ _ hnone =>
    rw [hb] at hnone
    cases hnone
  | @copy c c' body₀ body' s' hd hbody₀ ha =>
    obtain rfl : body = body₀ := Option.some.inj (hb.symm.trans hbody₀)
    obtain ⟨other', t', left, ha', hbody', hother', hs⟩ := ha.parallel hi hbody hother h.sink
    have he : e.state = .copying c := by rw [h.state, hd]; rfl
    refine ⟨_, .copy he ho ha', ⟨h.origin, h.events, hs, rfl, trivial, left, body', other', rfl, rfl, hbody',
      hother'⟩, ?_⟩
    rw [call?_of_copying hd hb, call?_of_copying he ho, Copier.reframed_call?,
      c.call?_parallel hi hbody hother h.sink]
  | @copied c hd hc =>
    have he : e.state = .copying c := by rw [h.state, hd]; rfl
    have hover : c.result? ≠ none := by simp [Copier.result?, hc]
    exact ⟨_, .copied he hc, h.finish hi, by rw [call?_of_result hd hover, call?_of_result he hover]; rfl⟩
  | @copyLost c fault hd hc =>
    have he : e.state = .copying c := by rw [h.state, hd]; rfl
    have hover : c.result? ≠ none := by simp [Copier.result?, hc]
    exact ⟨_, .copyLost he hc, ⟨h.origin, h.events, h.sink, rfl, trivial, h.released⟩,
      by rw [call?_of_result hd hover, call?_of_result he hover]; rfl⟩
  | @report lost fault cause hd hr =>
    have he : e.state = .diagnosing lost fault := by rw [h.state, hd]; rfl
    have hr' : ResponseSink.diagnose e.sink fault = .ready cause := (hi.diagnose fault h.sink).symm.trans hr
    refine ⟨_, .report he hr', Parallel.finish ?_ hi, ?_⟩
    · exact ⟨h.origin, by rw [h.events, h.report], h.sink, h.state, h.framed, h.bodies⟩
    · rw [call?_of_diagnosing hd hr, call?_of_diagnosing he hr']
      rfl

end Parallel

end Delivery

namespace Exchange

/-- To each run of one delivery there is a run of the other, with the same steps of the other side of the sink in
between. -/
theorem Trail.parallel {x x' y : Exchange σ} {framing : Framing} {n : Nat} {calls : List Delivery.Call}
    (hi : Indifferent turn same) (hf : framing ≠ .empty) (h : x.delivery.Parallel same framing y.delivery)
    (hr : x.Trail turn n calls x') :
    ∃ y', y.Trail turn n (calls.map (Delivery.Call.reframed framing)) y' ∧
      x'.delivery.Parallel same framing y'.delivery := by
  induction hr with
  | refl => exact ⟨y, .refl, h⟩
  | @deliver n calls z z' _ hs ih =>
    obtain ⟨y', hy, hparallel⟩ := ih
    obtain ⟨d, hd, rfl⟩ := Option.map_eq_some_iff.1 hs
    obtain ⟨e, he, hnext, hcall⟩ := hparallel.advance hi hf (Delivery.advance_of_step? hd)
    have hs' : y'.deliver? = some { y' with delivery := e } := by
      rw [deliver?, Delivery.step?_of_advance he]
      rfl
    have hy := hy.deliver hs'
    rw [hcall, Option.toList_map, ← List.map_append] at hy
    exact ⟨_, hy, hnext⟩
  | produce _ hs ih =>
    -- a producer feeds live streams only
    obtain ⟨y', -, hparallel⟩ := ih
    obtain ⟨data, body, other, hb, -, hbody, -⟩ := hparallel.bodies
    obtain ⟨p, body', p', next, -, hb', hfeed, -⟩ := produce?_eq_some hs
    obtain ⟨ch, ch', rfl, -⟩ := Producer.feed?_eq_some hfeed
    obtain rfl := Option.some.inj (hb.symm.trans hb')
    cases hbody
  | turn _ ht ih =>
    obtain ⟨y', hy, hparallel⟩ := ih
    obtain ⟨t, ht', hs⟩ := hi.turn hparallel.sink ht
    exact ⟨_, hy.turn ht', hparallel.origin, hparallel.events, hs, hparallel.state, hparallel.framed,
      hparallel.bodies⟩

end Exchange

/-! ### The flush at the end -/

/-- How often a copy that is flushed at its end has been flushed. -/
def Copying.FlushedOnce (calls : List Delivery.Call) : Copying → Prop
  | .reading | .writing .. | .closing => calls.countP Delivery.Call.isFlush = 0
  | .flushing => False
  | .done => calls.countP Delivery.Call.isFlush ≤ 1 ∧ ∃ before, calls = before ++ [.sink (.flush (.ok ()))]
  | .failed _ => calls.countP Delivery.Call.isFlush ≤ 1

theorem Copying.FlushedOnce.countP_le {calls : List Delivery.Call} {state : Copying} (h : state.FlushedOnce calls) :
    calls.countP Delivery.Call.isFlush ≤ 1 := by
  cases state with
  | reading | writing | closing => exact Nat.le_trans (Nat.le_of_eq h) (Nat.zero_le 1)
  | flushing => exact h.elim
  | done => exact h.1
  | failed => exact h

theorem Copier.Attempt.flushedOnce {c c' : Copier} {body body' : Body} {sink sink' : σ} {calls : List Delivery.Call}
    (ha : c.Attempt body sink c' body' sink') (hd : c.discipline = .buffered) (h : c.state.FlushedOnce calls) :
    c'.state.FlushedOnce (calls ++ (c.call? body sink).toList) := by
  cases ha with
  | unit hc hr | ended hc hr | readAgain hc hr | readLost hc hr | notReady hc hr =>
    rw [hc] at h
    have h : calls.countP Delivery.Call.isFlush = 0 := h
    simp [call?, hc, hr, h, Copying.FlushedOnce, Delivery.Call.isFlush, fail]
  | written hc hw | unitDone hc hw | stuck hc hw | writeAgain hc hw | writeLost hc hw =>
    rw [hc] at h
    have h : calls.countP Delivery.Call.isFlush = 0 := h
    simp [call?, hc, hw, hd, h, Copying.FlushedOnce, Delivery.Call.isFlush, fail, afterUnit]
  | flushed hc =>
    rw [hc] at h
    exact h.elim
  | closed hc hw =>
    rw [hc] at h
    have h : calls.countP Delivery.Call.isFlush = 0 := h
    simp [call?, hc, hw, h, Copying.FlushedOnce, Delivery.Call.isFlush]
  | flushLost hc hw =>
    rcases hc with hc | hc <;> rw [hc] at h
    · exact h.elim
    · have h : calls.countP Delivery.Call.isFlush = 0 := h
      simp [call?, hc, hw, h, Copying.FlushedOnce, Delivery.Call.isFlush, fail]

namespace Delivery

/-- How often a delivery that is not streamed has flushed its sink. -/
def FlushedOnce (calls : List Call) (d : Delivery σ) : Prop :=
  match d.state with
  | .awaiting => False
  | .opening o => o.streaming = false ∧ calls = []
  | .copying c => c.discipline = .buffered ∧ c.state.FlushedOnce calls
  | .diagnosing .. => calls.countP Call.isFlush ≤ 1
  | .finished => calls.countP Call.isFlush ≤ 1 ∧
      (d.events = [] → ∃ before, calls = before ++ [.sink (.flush (.ok ()))])

theorem FlushedOnce.countP_le {τ : Type} {d : Delivery τ} {calls : List Call} (h : d.FlushedOnce calls) :
    calls.countP Call.isFlush ≤ 1 := by
  unfold FlushedOnce at h
  cases hd : d.state with
  | awaiting =>
    rw [hd] at h
    exact h.elim
  | opening =>
    rw [hd] at h
    rw [h.2]
    exact Nat.zero_le 1
  | copying c =>
    rw [hd] at h
    exact h.2.countP_le
  | diagnosing =>
    rw [hd] at h
    exact h
  | finished =>
    rw [hd] at h
    exact h.1

theorem Advance.flushedOnce {d d' : Delivery σ} {calls : List Call} (ha : d.Advance d') (hb : d.body.isSome = true)
    (h : d.FlushedOnce calls) : d'.FlushedOnce (calls ++ d.call?.toList) := by
  unfold FlushedOnce at h
  cases ha with
  | headLost hd hw =>
    rw [hd] at h
    rw [call?_of_opening hd hw, h.2]
    exact Nat.zero_le 1
  | headSent hd hw =>
    rw [hd] at h
    rw [call?_of_opening hd hw, h.2, h.1]
    exact ⟨rfl, rfl⟩
  | headOnly _ _ hnone =>
    rw [hnone] at hb
    cases hb
  | copy hd hbody ha =>
    rw [hd] at h
    rw [call?_of_copying hd hbody]
    exact ⟨ha.discipline_eq.trans h.1, ha.flushedOnce h.1 h.2⟩
  | copied hd hc =>
    rw [hd] at h
    dsimp only at h
    rw [hc] at h
    rw [call?_of_result hd (by simp [Copier.result?, hc]), Option.toList_none, List.append_nil]
    exact ⟨h.2.1, fun _ => h.2.2⟩
  | copyLost hd hc =>
    rw [hd] at h
    dsimp only at h
    rw [hc] at h
    rw [call?_of_result hd (by simp [Copier.result?, hc]), Option.toList_none, List.append_nil]
    exact h.2
  | report hd hr =>
    rw [hd] at h
    have h : calls.countP Call.isFlush ≤ 1 := h
    rw [call?_of_diagnosing hd hr]
    refine ⟨?_, fun hsilent => ?_⟩
    · simpa [Call.isFlush] using h
    · simp [finish] at hsilent

end Delivery

namespace Exchange

variable {service : Service} {request : Request} {chunks : List Bytes} {sink : σ} {calls : List Delivery.Call}
  {x : Exchange σ} {n : Nat}

theorem flushedOnce_trail (hb : (service request).body.isSome = true) (hs : (service request).isStreaming = false)
    (hr : (start service request sink chunks).Trail turn n calls x) : x.delivery.FlushedOnce calls := by
  induction hr with
  | refl => exact ⟨hs, rfl⟩
  | deliver hr hstep ih =>
    obtain ⟨d, hd, rfl⟩ := Option.map_eq_some_iff.1 hstep
    refine (Delivery.advance_of_step? hd).flushedOnce ?_ ih
    have hkind := (delivery_follows hr).kind
    rw [← Option.isSome_map (f := Body.isStream), hkind, Option.isSome_map]
    exact hb
  | produce _ hstep ih =>
    obtain ⟨p, body, p', body', -, -, -, rfl⟩ := produce?_eq_some hstep
    exact ih
  | turn _ _ ih => exact ih

/-- One response with either of two bodies that hold the same bytes is delivered in parallel. -/
theorem parallel_carrying {response : Response} {body other : Body} {data : Bytes} (hs : same sink sink)
    (hb : body.Holds data) (ho : other.Holds data) :
    (carrying response request sink chunks body).delivery.Parallel same (response.withBody other).framing
      (carrying response request sink chunks other).delivery := by
  have hstreaming : (response.withBody other).isStreaming = (response.withBody body).isStreaming := by
    have hstream : (response.withBody other).body.any Body.isStream = (response.withBody body).body.any Body.isStream :=
      ho.isStream.trans hb.isStream.symm
    simp only [Response.isStreaming, hstream]
    rfl
  have hopening : (response.withBody other).opening =
      { (response.withBody body).opening with framing := (response.withBody other).framing } := by
    simp only [Response.opening, hstreaming]
    rfl
  have hframed : (response.withBody body).framing ≠ .empty := Response.framing_ne_empty rfl
  refine ⟨⟨rfl, rfl, rfl⟩, rfl, hs, ?_, hframed, data, body, other, rfl, rfl, hb, ho⟩
  show Delivering.opening (response.withBody other).opening = _
  rw [hopening]
  rfl

end Exchange

end

/-! ### The framing -/

namespace Response

variable {response : Response} {body : Body} {data : Bytes}

theorem isStreaming_withBody (hheader : Bytes.ofString chunked ∉ response.headers.values .transferEncoding)
    (hcoding : chunked ∉ response.codings) (hb : body.Holds data) :
    (response.withBody body).isStreaming = false := by
  rw [Bool.eq_false_iff, ne_eq, isStreaming_iff, not_or, not_or]
  refine ⟨?_, hheader, hcoding⟩
  rintro ⟨ch, hch⟩
  cases hch
  cases hb

theorem framing_made {material : Material} (hs : (response.withBody (.made material)).isStreaming = false) :
    (response.withBody (.made material)).framing =
      if material.content.length ≤ Body.chunkThreshold then .length material.content.length else .chunked := by
  have hbody : (response.withBody (.made material)).body = some (.made material) := rfl
  split
  · rename_i hle
    have hlength : (Body.made material).length? = some material.content.length := by
      rw [Body.made, Body.buffered, if_neg (Nat.not_lt.2 hle)]
      rfl
    exact (framing_eq_length_iff _ _).2 ⟨_, hbody, hlength, hs⟩
  · rename_i hlt
    have hlength : (Body.made material).length? = none := by
      rw [Body.made, Body.buffered, if_pos (Nat.lt_of_not_le hlt)]
      rfl
    exact (framing_eq_chunked_iff _).2 ⟨_, hbody, .inr hlength⟩

end Response

namespace Exchange

variable {σ : Type} [ResponseSink σ] {turn : σ → σ → Prop} {service : Service} {request : Request}
  {chunks : List Bytes} {sink : σ} {calls : List Delivery.Call} {x : Exchange σ} {n : Nat} {body : Body}
  {data : Bytes}

/-- A delivery whose body holds its bytes goes on by itself, unless the sink is busy. -/
theorem progress_trail (hb : (service request).body = some body) (hd : body.Holds data)
    (hr : (start service request sink chunks).Trail turn n calls x) :
    n + x.load ≤ (start service request sink chunks).load + (calls.filter Delivery.Call.isRetried).length ∧
    (x.deliver? = none → x.delivery.isFinished = true ∨ x.delivery.AwaitsSink ∨ x.delivery.AwaitsDiagnosis) := by
  obtain ⟨p, h, hload⟩ := follows_trail hb hd.isStream hr
  refine ⟨hload, fun hnone => ?_⟩
  have hstep : x.delivery.step? = none := by simpa [deliver?] using hnone
  rcases Delivery.awaits_of_step?_eq_none hstep h.delivery.told.not_awaiting h.delivery.body with
    hfinished | hsink | ⟨c, ch, -, -, hch, -⟩ | hdiagnosis
  · exact .inl hfinished
  · exact .inr (.inl hsink)
  · have hkind := h.delivery.kind
    rw [hb, hch, Option.map_some, Option.map_some, hd.isStream] at hkind
    cases hkind
  · exact .inr (.inr hdiagnosis)

/-- The last call of a delivery that nothing failed is its one flush. -/
theorem flush_of_silent (hb : (service request).body = some body) (hs : (service request).isStreaming = false)
    (hr : (start service request sink chunks).Trail turn n calls x) (hf : x.delivery.isFinished = true)
    (he : x.delivery.events = []) :
    ∃ before, calls = before ++ [.sink (.flush (.ok ()))] ∧ ∀ call ∈ before, call.isFlush = false := by
  have hflushed := flushedOnce_trail (by rw [hb]; rfl) hs hr
  unfold Delivery.FlushedOnce at hflushed
  rw [of_decide_eq_true hf] at hflushed
  obtain ⟨honce, hlast⟩ := hflushed
  obtain ⟨before, rfl⟩ := hlast he
  refine ⟨before, rfl, fun call hmem => ?_⟩
  have hnone : before.countP Delivery.Call.isFlush = 0 := by simpa [Delivery.Call.isFlush] using honce
  simpa using List.countP_eq_zero.1 hnone call hmem

/-- Whatever a body is made from, its reads hand out the consecutive pieces of those bytes, each as long as there
is room for and bytes are left, and nothing behind them; the byte string and a reader over it answer them alike.
A response that nothing else asks to stream goes out with its length up to the threshold and in chunks above it.
Either way, and in whichever order delivery and sink take their steps, it is sent buffered: the delivery goes on
unless the sink is busy, and if nothing fails all of the bytes are accepted, and the one flush is the last call. To
each run with one of these bodies there is a run with any other that makes the same calls with the same answers, the
framing in the head apart, on every sink that does not care for the framing. -/
theorem threshold_run {material : Material} {response : Response}
    (hheader : Bytes.ofString Response.chunked ∉ response.headers.values .transferEncoding)
    (hcoding : Response.chunked ∉ response.codings) :
    (Body.made material).Holds material.content ∧
    (∀ rooms, ∃ pieces, Bytes.Parts material.content rooms pieces ∧
      pieces.flatten = material.content.take rooms.sum ∧
      (∀ k, material.content.length ≤ (rooms.take k).sum → ∀ piece ∈ pieces.drop k, piece = []) ∧
      ∀ body : Body, body.Holds material.content → body.reads rooms = pieces.map fun piece => .ready (.ok piece)) ∧
    ((response.withBody (.made material)).framing = .length material.content.length ↔
      material.content.length ≤ 5000000) ∧
    ((response.withBody (.made material)).framing = .chunked ↔ 5000000 < material.content.length) ∧
    ∀ body : Body, body.Holds material.content → (response.withBody body).isStreaming = false ∧
      ∀ n calls x, (carrying response request sink chunks body).Trail turn n calls x →
        n + x.load ≤ (carrying response request sink chunks body).load +
          (calls.filter Delivery.Call.isRetried).length ∧
        (x.deliver? = none → x.delivery.isFinished = true ∨ x.delivery.AwaitsSink ∨ x.delivery.AwaitsDiagnosis) ∧
        (calls = [] ∨ ∃ answer rest,
          calls = .sink (.head response.status (response.withBody body).framing answer) :: rest) ∧
        calls.countP Delivery.Call.isFlush ≤ 1 ∧
        (x.delivery.isFinished = true → (∀ call ∈ calls, call.fault? = none) → x.delivery.events = [] ∧
          calls.flatMap Delivery.Call.accepted = material.content ∧
          ∃ before, calls = before ++ [.sink (.flush (.ok ()))] ∧ ∀ call ∈ before, call.isFlush = false) ∧
        ∀ same, Indifferent turn same → same sink sink → ∀ other : Body, other.Holds material.content →
          ∃ y, (carrying response request sink chunks other).Trail turn n
              (calls.map (Delivery.Call.reframed (response.withBody other).framing)) y ∧
            same x.delivery.sink y.delivery.sink ∧ y.delivery.events = x.delivery.events ∧
            y.delivery.isFinished = x.delivery.isFinished := by
  have hframing := Response.framing_made (Response.isStreaming_withBody hheader hcoding (Body.holds_made material))
  refine ⟨Body.holds_made material, fun rooms => ?_, ?_, ?_, fun body hb => ?_⟩
  · obtain ⟨pieces, hparts, hreads⟩ := Body.exists_parts material.content rooms
    exact ⟨pieces, hparts, hparts.flatten_eq, hparts.eq_nil_behind, hreads⟩
  · rw [hframing]
    show _ ↔ material.content.length ≤ Body.chunkThreshold
    split <;> simp [*]
  · rw [hframing, ← Nat.not_le]
    show _ ↔ ¬ material.content.length ≤ Body.chunkThreshold
    split <;> simp [*]
  · have hstreaming := Response.isStreaming_withBody hheader hcoding hb
    refine ⟨hstreaming, fun n calls x hr => ?_⟩
    have hfollows := delivery_follows hr
    obtain ⟨hload, hprogress⟩ := progress_trail rfl hb hr
    refine ⟨hload, hprogress, ?_, (flushedOnce_trail rfl hstreaming hr).countP_le, fun hf hclean => ?_,
      fun same hi hs other ho => ?_⟩
    · rcases hfollows.heads with hnil | ⟨answer, rest, hcalls, -⟩
      · exact .inl hnil
      · exact .inr ⟨answer, rest, hcalls⟩
    · have hsilent := hfollows.told.clean hf hclean
      obtain ⟨haccepted, -⟩ := accepted_of_silent rfl hb.isStream hr hf hsilent
      exact ⟨hsilent, haccepted.trans (hb.content chunks), flush_of_silent rfl hstreaming hr hf hsilent⟩
    · have hne : (response.withBody other).framing ≠ .empty := Response.framing_ne_empty rfl
      obtain ⟨y, hy, hparallel⟩ := hr.parallel hi hne (parallel_carrying hs hb ho)
      exact ⟨y, hy, hparallel.sink, hparallel.events, hparallel.isFinished_eq⟩

/-- A text of three bytes: as a reader it goes out in chunks, but a recorder that takes two bytes a write gets the
same writes, and a host the same frame. -/
theorem threshold_run_text :
    (let sink : Recorder := { cap := some 2 }
      ∃ n calls x y,
        (carrying {} {} sink [] (.made (.text "hey"))).Trail Eq n calls x ∧ x.delivery.isFinished = true ∧
        calls.flatMap Delivery.Call.accepted = [104, 101, 121] ∧ x.delivery.sink.writes = [2, 1] ∧
        x.delivery.sink.head = some (.ok, .length 3) ∧
        (carrying {} {} sink [] (.reader [.data [104, 101, 121]] none)).Trail Eq n
          (calls.map (Delivery.Call.reframed .chunked)) y ∧
        y.delivery.sink.writes = [2, 1] ∧ y.delivery.sink.flushedAt = [3] ∧ y.delivery.events = [] ∧
        y.delivery.isFinished = true) ∧
    ∃ n calls x y,
      (carrying {} {} ({} : Relay) [] (.made (.text "hey"))).Trail Relay.HostTurn n calls x ∧
      x.delivery.sink.queue = [[104, 101, 121]] ∧
      (carrying {} {} ({} : Relay) [] (.reader [.data [104, 101, 121]] none)).Trail Relay.HostTurn n
        (calls.map (Delivery.Call.reframed .chunked)) y ∧
      y.delivery.sink.queue = [[104, 101, 121]] ∧ y.delivery.isFinished = true := by
  have hcontent : (Material.text "hey").content = [104, 101, 121] := by decide +kernel
  constructor
  · intro sink
    obtain ⟨n, hr⟩ := Trail.steps (.refl : (carrying {} {} sink [] (.made (.text "hey"))).Trail Eq 0 [] _) 16
    have hfin : ((carrying {} {} sink [] (.made (.text "hey"))).steps 16).delivery.isFinished = true := by
      decide +kernel
    have hclean : ((carrying {} {} sink [] (.made (.text "hey"))).calls 16).all (·.fault?.isNone) = true := by
      decide +kernel
    obtain ⟨hholds, -, -, -, hruns⟩ := @threshold_run Recorder _ Eq {} [] sink (.text "hey") {} (by decide +kernel)
      (by decide +kernel)
    obtain ⟨-, -, -, -, hserved, halike⟩ := (hruns _ hholds).2 n _ _ hr
    obtain ⟨hsilent, haccepted, -⟩ := hserved hfin fun call hmem => by
      simpa using List.all_eq_true.1 hclean call hmem
    rw [hcontent] at haccepted halike
    obtain ⟨y, hy, hsame, hevents, hfinished⟩ := halike _ Recorder.indifferent rfl _ (.reader _ none)
    have hwrites : y.delivery.sink.unframed.writes = [2, 1] := by
      rw [← hsame]
      decide +kernel
    have hflushed : y.delivery.sink.unframed.flushedAt = [3] := by
      rw [← hsame]
      decide +kernel
    exact ⟨n, _, _, y, hr, hfin, haccepted, by decide +kernel, by decide +kernel, hy, hwrites, hflushed,
      hevents.trans hsilent, hfinished.trans hfin⟩
  · obtain ⟨n, hr⟩ :=
      Trail.steps (.refl : (carrying {} {} ({} : Relay) [] (.made (.text "hey"))).Trail Relay.HostTurn 0 [] _) 16
    obtain ⟨hholds, -, -, -, hruns⟩ := @threshold_run Relay _ Relay.HostTurn {} [] {} (.text "hey") {}
      (by decide +kernel) (by decide +kernel)
    obtain ⟨-, -, -, -, -, halike⟩ := (hruns _ hholds).2 n _ _ hr
    rw [hcontent] at halike
    obtain ⟨y, hy, hsame, -, hfinished⟩ := halike _ Relay.indifferent rfl _ (.reader _ none)
    have hqueue : y.delivery.sink.unframed.queue = [[104, 101, 121]] := by
      rw [← hsame]
      decide +kernel
    exact ⟨n, _, _, y, hr, by decide +kernel, hy, hqueue, hfinished.trans (by decide +kernel)⟩

end Exchange

end Courier
