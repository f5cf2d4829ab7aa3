import Courier.Exchange.Watched
import Courier.Proofs.Feeding
import Courier.Proofs.Framing
import Courier.Proofs.Progress

/-!
# A response that is served

On a sink that fails no call and accepts at least one byte of every write, a response whose body fails no read
is served to the end: `Transcript` is what the copy leaves in the ledger, unit by unit, and `serve_run` says
that every order of steps comes to it. The invariant (`Delivery.Tracked`) keeps the units written so far, the
unit in hand and the units that the body still supplies together; it asks of the body no more than a
`Body.Supplier` promises.
-/

namespace Courier

/-- A sink that never fails, and accepts at least one byte of every write. It may be busy. -/
structure Willing {σ : Type} [ResponseSink σ] (good : σ → Prop) : Prop where
  setHeaders : ∀ sink headers, good sink → good (ResponseSink.setHeaders sink headers)
  writeHead : ∀ sink status framing, good sink →
    ∃ next, ResponseSink.writeHead sink status framing = (.ok (), next) ∧ good next
  write : ∀ sink bytes answer next, good sink → bytes ≠ [] →
    ResponseSink.write sink bytes = (.ready answer, next) →
      good next ∧ ∃ n, answer = .ok n ∧ 0 < n ∧ n ≤ bytes.length
  flush : ∀ sink answer next, good sink → ResponseSink.flush sink = (.ready answer, next) →
    good next ∧ answer = .ok ()

/-- The delivery is at a write or a flush that its sink is not ready for. -/
def Delivery.AwaitsSink {σ : Type} [ResponseSink σ] (d : Delivery σ) : Prop :=
  ∃ c, d.state = .copying c ∧ match c.state with
    | .writing _ rest => (ResponseSink.write d.sink rest).1 = .pending
    | .flushing | .closing => (ResponseSink.flush d.sink).1 = .pending
    | .reading | .done | .failed _ => False

/-- The delivery is at a read of a live stream that has nothing for it, while writers are left. -/
def Delivery.AwaitsWriters {σ : Type} (d : Delivery σ) : Prop :=
  ∃ c ch, d.state = .copying c ∧ c.state = .reading ∧ d.body = some (.stream ch) ∧
    (ch.read Copier.unitLimit).1 = .pending

/-- The sink cannot say yet what a failure comes from. -/
def Delivery.AwaitsDiagnosis {σ : Type} [ResponseSink σ] (d : Delivery σ) : Prop :=
  ∃ lost fault, d.state = .diagnosing lost fault ∧ ResponseSink.diagnose d.sink fault = .pending

/-- The copier is at a write or a flush that its sink is not ready for. -/
def Copier.AwaitsSink {σ : Type} [ResponseSink σ] (c : Copier) (sink : σ) : Prop :=
  match c.state with
  | .writing _ rest => (ResponseSink.write sink rest).1 = .pending
  | .flushing | .closing => (ResponseSink.flush sink).1 = .pending
  | .reading | .done | .failed _ => False

/-- What a copier waits for that cannot go on. -/
theorem Copier.awaits_of_step?_eq_none {σ : Type} [ResponseSink σ] {c : Copier} {body : Body} {sink : σ}
    (h : c.step? body sink = none) : c.result?.isSome = true ∨ c.AwaitsSink sink ∨
      c.state = .reading ∧ ∃ ch, body = .stream ch ∧ (ch.read unitLimit).1 = .pending := by
  unfold AwaitsSink
  cases hstate : c.state with
  | reading =>
    simp only [step?, hstate] at h
    rcases hread : body.read unitLimit with ⟨answer, next⟩
    rw [hread] at h
    cases answer with
    | ready answer => cases h
    | pending =>
      cases body with
      | bytes | reader => cases h
      | stream ch =>
        refine .inr (.inr ⟨rfl, ch, rfl, ?_⟩)
        rcases hr : ch.read unitLimit with ⟨answer, ch'⟩
        simp only [Body.read, hr] at hread
        cases answer with
        | ready unit => cases hread
        | pending => rfl
  | writing size rest =>
    simp only [step?, hstate] at h
    rcases hw : ResponseSink.write sink rest with ⟨answer, next⟩
    cases answer with
    | ready answer => simp [hw] at h
    | pending => exact .inr (.inl (congrArg (·.1) hw))
  | flushing | closing =>
    simp only [step?, hstate] at h
    rcases hw : ResponseSink.flush sink with ⟨answer, next⟩
    cases answer with
    | ready answer => simp [hw] at h
    | pending => exact .inr (.inl rfl)
  | done | failed => exact .inl (by simp [result?, hstate])

/-- What a delivery waits for that cannot go on. -/
theorem Delivery.awaits_of_step?_eq_none {σ : Type} [ResponseSink σ] {d : Delivery σ} (hd : d.step? = none)
    (hs : d.state ≠ .awaiting) (hb : ∀ c, d.state = .copying c → d.body.isSome = true) :
    d.isFinished = true ∨ d.AwaitsSink ∨ d.AwaitsWriters ∨ d.AwaitsDiagnosis := by
  unfold step? at hd
  split at hd
  · rename_i h
    exact absurd h hs
  · rename_i h
    exact .inl (by simp [isFinished, h])
  · cases hd
  · rename_i c hc
    obtain ⟨body, hbody⟩ := Option.isSome_iff_exists.1 (hb c hc)
    split at hd
    · cases hd
    rename_i hresult
    have hstep : c.step? body d.sink = none := by
      cases hstep : c.step? body d.sink with
      | none => rfl
      | some next => simp [hbody, hstep] at hd
    rcases Copier.awaits_of_step?_eq_none hstep with hover | hsink | ⟨hstate, ch, rfl, hread⟩
    · rw [hresult] at hover
      cases hover
    · exact .inr (.inl ⟨c, hc, hsink⟩)
    · exact .inr (.inr (.inl ⟨c, ch, hc, hstate, hbody, hread⟩))
  · rename_i lost fault h
    split at hd
    · rename_i hp
      exact .inr (.inr (.inr ⟨lost, fault, h, hp⟩))
    · cases hd

/-! ### Transcripts -/

/-- Writes of a unit that leave `rest` of it. -/
structure Writes (unit rest : Bytes) (calls : List SinkCall) : Prop where
  made : ∀ call ∈ calls, ∃ bytes n, call = .write bytes (.ok n) ∧ 0 < n ∧ n ≤ bytes.length
  bytes : calls.flatMap SinkCall.accepted ++ rest = unit

/-- The calls that write these units out, and flush each of them if the copy is streamed. -/
inductive Transcript (streaming : Bool) : List Bytes → List SinkCall → Prop
  | nil : Transcript streaming [] []
  | snoc {units : List Bytes} {unit : Bytes} {calls writes : List SinkCall}
      (h : Transcript streaming units calls) (hw : Writes unit [] writes) :
      Transcript streaming (units ++ [unit])
        (calls ++ writes ++ if streaming then [.flush (.ok ())] else [])

theorem Writes.nil (unit : Bytes) : Writes unit unit [] := ⟨by simp, rfl⟩

theorem Writes.snoc {unit rest : Bytes} {calls : List SinkCall} {n : Nat} (h : Writes unit rest calls)
    (hn : 0 < n) (hl : n ≤ rest.length) : Writes unit (rest.drop n) (calls ++ [.write rest (.ok n)]) := by
  refine ⟨fun call hc => ?_, ?_⟩
  · rcases List.mem_append.1 hc with hc | hc
    · exact h.made call hc
    · exact ⟨rest, n, List.mem_singleton.1 hc, hn, hl⟩
  · rw [List.flatMap_append, List.append_assoc, List.flatMap_singleton, SinkCall.accepted,
      List.take_append_drop, h.bytes]

theorem Transcript.accepted {streaming : Bool} {units : List Bytes} {calls : List SinkCall}
    (h : Transcript streaming units calls) : calls.flatMap SinkCall.accepted = units.flatten := by
  induction h with
  | nil => rfl
  | snoc h hw ih =>
    have hb := hw.bytes
    rw [List.append_nil] at hb
    cases streaming <;> simp [ih, hb, SinkCall.accepted]

/-! ### The copier -/

/-- Whether the body is read any more. -/
def Copying.readsOn : Copying → Bool
  | .reading | .writing .. | .flushing => true
  | .closing | .done | .failed _ => false

/-- What a copier has left in the ledger when `ahead` is still to be read of its units. -/
def Copying.Traced (streaming : Bool) (units ahead : List Bytes) (calls : List SinkCall) : Copying → Prop
  | .reading => ∃ done, done ++ ahead = units ∧ Transcript streaming done calls
  | .writing _ rest => ∃ done unit before writes, done ++ unit :: ahead = units ∧
      Transcript streaming done before ∧ Writes unit rest writes ∧ calls = before ++ writes
  | .flushing => streaming = true ∧ ∃ done unit before writes, done ++ unit :: ahead = units ∧
      Transcript streaming done before ∧ Writes unit [] writes ∧ calls = before ++ writes
  | .closing => Transcript streaming units calls
  | .done => ∃ copy, Transcript streaming units copy ∧ calls = copy ++ [.flush (.ok ())]
  | .failed _ => False

/-- Units that are added behind those ahead. -/
theorem Copying.Traced.append {streaming : Bool} {units ahead : List Bytes} {calls : List SinkCall} {state : Copying}
    (h : state.Traced streaming units ahead calls) (hr : state.readsOn = true) (more : List Bytes) :
    state.Traced streaming (units ++ more) (ahead ++ more) calls := by
  cases state with
  | reading =>
    obtain ⟨done, rfl, ht⟩ := h
    exact ⟨done, (List.append_assoc ..).symm, ht⟩
  | writing size rest =>
    obtain ⟨done, unit, before, writes, rfl, hrest⟩ := h
    exact ⟨done, unit, before, writes, by simp, hrest⟩
  | flushing =>
    obtain ⟨hs, done, unit, before, writes, rfl, hrest⟩ := h
    exact ⟨hs, done, unit, before, writes, by simp, hrest⟩
  | closing | done | failed => cases hr

/-- Once the body is not read any more, it does not matter what is ahead. -/
theorem Copying.Traced.spent {streaming : Bool} {units ahead : List Bytes} {calls : List SinkCall} {state : Copying}
    (h : state.Traced streaming units ahead calls) (hr : state.readsOn = false) (ahead' : List Bytes) :
    state.Traced streaming units ahead' calls := by
  cases state with
  | reading | writing | flushing => cases hr
  | closing | done | failed => exact h

section

variable {σ : Type} [ResponseSink σ] {good : σ → Prop}

namespace Ledger

variable {l l' : Ledger σ}

theorem write_ready {bytes : Bytes} {answer : Except Fault Nat}
    (h : ResponseSink.write l bytes = (.ready answer, l')) :
    ∃ sink, ResponseSink.write l.sink bytes = (.ready answer, sink) ∧
      l' = l.enter sink (.write bytes answer) := by
  have h : l.write bytes = (.ready answer, l') := h
  unfold write at h
  split at h
  · rename_i a sink hw
    cases h
    exact ⟨sink, hw, rfl⟩
  · cases h

theorem flush_ready {answer : Except Fault Unit} (h : ResponseSink.flush l = (.ready answer, l')) :
    ∃ sink, ResponseSink.flush l.sink = (.ready answer, sink) ∧ l' = l.enter sink (.flush answer) := by
  have h : l.flush = (.ready answer, l') := h
  unfold flush at h
  split at h
  · rename_i a sink hw
    cases h
    exact ⟨sink, hw, rfl⟩
  · cases h

end Ledger

/-- A copier does on a watched sink what it does on the sink. -/
theorem Copier.step?_unwatched (c : Copier) (body : Body) (l : Ledger σ) :
    c.step? body l.sink = (c.step? body l).map fun (c, body, l) => (c, body, l.sink) := by
  have hwrite (rest : Bytes) : ResponseSink.write l rest = l.write rest := rfl
  have hflush : ResponseSink.flush l = l.flush := rfl
  unfold step?
  cases c.state with
  | reading =>
    rcases body.read unitLimit with ⟨a, next⟩
    cases a with
    | ready answer => rfl
    | pending => dsimp only; split <;> rfl
  | writing size rest =>
    rcases hw : ResponseSink.write l.sink rest with ⟨a, sink⟩
    simp only [hwrite, Ledger.write, hw]
    cases a <;> rfl
  | flushing | closing =>
    rcases hw : ResponseSink.flush l.sink with ⟨a, sink⟩
    simp only [hflush, Ledger.flush, hw]
    cases a <;> rfl
  | done | failed => rfl

theorem Delivery.sendHead_unwatched (d : Delivery (Ledger σ)) (o : Opening) :
    d.unwatched.sendHead o = (d.sendHead o).unwatched := by
  obtain ⟨method, uri, peer, ⟨sink, calls⟩, state, body, events⟩ := d
  rcases hw : ResponseSink.writeHead (ResponseSink.setHeaders sink
    ((ResponseSink.headers sink).copyFields o.headers)) o.status o.framing with ⟨a, next⟩
  have hledger (l : Ledger σ) :
      ResponseSink.writeHead l o.status o.framing = l.writeHead o.status o.framing := rfl
  have hset : (ResponseSink.setHeaders ({ sink, calls } : Ledger σ)
      ((ResponseSink.headers ({ sink, calls } : Ledger σ)).copyFields o.headers)).sink =
    ResponseSink.setHeaders sink ((ResponseSink.headers sink).copyFields o.headers) := rfl
  unfold sendHead
  simp only [unwatched, hledger, Ledger.writeHead, hset, hw]
  cases a with
  | error fault => rfl
  | ok answer => cases body <;> rfl

/-- The ledger changes nothing in what a delivery does. -/
theorem Delivery.step?_unwatched (d : Delivery (Ledger σ)) : d.unwatched.step? = d.step?.map unwatched := by
  have hstate : d.unwatched.state = d.state := rfl
  unfold step?
  rw [hstate]
  cases hd : d.state with
  | awaiting | finished => rfl
  | opening o => exact congrArg some (d.sendHead_unwatched o)
  | copying c =>
    dsimp only
    cases hr : c.result? with
    | some result => cases result <;> rfl
    | none =>
      cases hb : d.body with
      | none => simp [unwatched, hb]
      | some body =>
        simp only [unwatched, hb, Option.bind_eq_bind, Option.bind_some, c.step?_unwatched body d.sink]
        cases c.step? body d.sink <;> rfl
  | diagnosing lost fault =>
    have hdiag : ResponseSink.diagnose d.unwatched.sink fault = ResponseSink.diagnose d.sink fault := rfl
    dsimp only
    rw [hdiag]
    cases ResponseSink.diagnose d.sink fault <;> rfl

theorem Willing.patient {l : Ledger σ} (hg : Willing good) (hl : good l.sink) : Patient l := by
  intro bytes fault next hb hw
  obtain ⟨sink, hinner, -⟩ := Ledger.write_ready hw
  obtain ⟨-, n, hn, -⟩ := hg.write _ _ _ _ hl hb hinner
  cases hn

/-- What an attempt adds to the ledger. The head was entered before. -/
theorem Copier.Attempt.traced {supplies : Body → List Bytes → Prop} {spent : Body → Prop} {units ahead : List Bytes}
    {streaming : Bool} {c c' : Copier} {body body' : Body} {l l' : Ledger σ} {head : SinkCall}
    {calls : List SinkCall} (ha : c.Attempt body l c' body' l') (hp : Body.Supplier supplies spent)
    (hg : Willing good) (hl : good l.sink) (hrest : c.HasRest) (hd : c.discipline = .ofStreaming streaming)
    (hf : c.state.readsOn = true → supplies body ahead) (ho : c.state.readsOn = false → spent body)
    (hc : l.calls = head :: calls) (h : c.state.Traced streaming units ahead calls) :
    good l'.sink ∧ c'.discipline = c.discipline ∧ ∃ ahead' calls',
      (c'.state.readsOn = true → supplies body' ahead') ∧ (c'.state.readsOn = false → spent body') ∧
      l'.calls = head :: calls' ∧ c'.state.Traced streaming units ahead' calls' := by
  have hwrite {size n : Nat} {rest : Bytes} {next : Ledger σ} (hs : c.state = .writing size rest)
      (hw : ResponseSink.write l rest = (.ready (.ok n), next)) :
      0 < n ∧ n ≤ rest.length ∧ good next.sink ∧ next.calls = head :: (calls ++ [.write rest (.ok n)]) := by
    obtain ⟨sink, hinner, rfl⟩ := Ledger.write_ready hw
    obtain ⟨hgood, m, hm, hpos, hle⟩ := hg.write _ _ _ _ hl (hrest _ _ hs) hinner
    cases hm
    exact ⟨hpos, hle, hgood, by rw [Ledger.enter, hc, List.cons_append]⟩
  have hflush {next : Ledger σ} (hw : ResponseSink.flush l = (.ready (.ok ()), next)) :
      good next.sink ∧ next.calls = head :: (calls ++ [.flush (.ok ())]) := by
    obtain ⟨sink, hinner, rfl⟩ := Ledger.flush_ready hw
    exact ⟨(hg.flush _ _ _ hl hinner).1, by rw [Ledger.enter, hc, List.cons_append]⟩
  cases ha with
  | unit hs hr hu =>
    rw [hs] at h hf
    obtain ⟨later, rfl, hsupplies⟩ := hp.unit (hf rfl) hr hu
    obtain ⟨done, he, ht⟩ := h
    exact ⟨hl, rfl, later, calls, fun _ => hsupplies, (fun hn => by cases hn), hc,
      done, _, calls, [], he, ht, .nil _, by simp⟩
  | ended hs hr =>
    rw [hs] at h hf
    obtain ⟨rfl, hspent⟩ := hp.ended (hf rfl) hr
    obtain ⟨done, he, ht⟩ := h
    rw [List.append_nil] at he
    exact ⟨hl, rfl, [], calls, (fun hn => by cases hn), fun _ => hspent, hc, he ▸ ht⟩
  | readAgain hs hr =>
    rw [hs] at hf
    exact ⟨hl, rfl, ahead, calls, fun _ => (hp.error (hf rfl) hr).2, (fun hn => by rw [hs] at hn; cases hn), hc, h⟩
  | readLost hs hr hi =>
    rw [hs] at hf
    rw [(hp.error (hf rfl) hr).1] at hi
    cases hi
  | notReady hs hr hstream =>
    rw [hs] at hf
    exact ⟨hl, rfl, ahead, calls, fun _ => hp.notReady (hf rfl) hr hstream,
      (fun hn => by rw [hs] at hn; cases hn), hc, h⟩
  | written hs hw hn hrem =>
    obtain ⟨-, hle, hgood, hcalls⟩ := hwrite hs hw
    rw [hs] at h hf
    obtain ⟨done, unit, before, writes, he, ht, hwr, rfl⟩ := h
    exact ⟨hgood, rfl, ahead, _, hf, (fun hn => by cases hn), hcalls,
      done, unit, before, _, he, ht, hwr.snoc hn hle, List.append_assoc ..⟩
  | unitDone hs hw hn hrem =>
    obtain ⟨-, hle, hgood, hcalls⟩ := hwrite hs hw
    rw [hs] at h hf
    obtain ⟨done, unit, before, writes, he, ht, hwr, rfl⟩ := h
    have hwr := hwr.snoc hn hle
    rw [hrem] at hwr
    refine ⟨hgood, rfl, ahead, _, fun _ => hf rfl, fun hn => ?_, hcalls, ?_⟩
    · cases hdisc : c.discipline <;> simp [afterUnit, hdisc, Copying.readsOn] at hn
    unfold afterUnit
    rw [hd]
    cases streaming with
    | true => exact ⟨rfl, done, unit, before, _, he, ht, hwr, List.append_assoc ..⟩
    | false =>
      have hsnoc := ht.snoc hwr
      exact ⟨done ++ [unit], by rw [← he]; simp, by simpa using hsnoc⟩
  | stuck hs hw => cases (hwrite hs hw).1
  | writeAgain hs hw | writeLost hs hw =>
    obtain ⟨sink, hinner, -⟩ := Ledger.write_ready hw
    obtain ⟨-, m, hm, -⟩ := hg.write _ _ _ _ hl (hrest _ _ hs) hinner
    cases hm
  | flushed hs hw =>
    obtain ⟨hgood, hcalls⟩ := hflush hw
    rw [hs] at h hf
    obtain ⟨rfl, done, unit, before, writes, he, ht, hwr, rfl⟩ := h
    have hsnoc := ht.snoc hwr
    exact ⟨hgood, rfl, ahead, _, hf, (fun hn => by cases hn), hcalls, done ++ [unit], by rw [← he]; simp,
      by simpa using hsnoc⟩
  | closed hs hw =>
    obtain ⟨hgood, hcalls⟩ := hflush hw
    rw [hs] at h ho
    exact ⟨hgood, rfl, ahead, _, (fun hn => by cases hn), fun _ => ho rfl, hcalls, calls, h, rfl⟩
  | flushLost hs hw =>
    obtain ⟨sink, hinner, -⟩ := Ledger.flush_ready hw
    cases (hg.flush _ _ _ hl hinner).2

/-! ### The delivery -/

def Response.headCall (response : Response) : SinkCall := .head response.status response.framing (.ok ())

/-- The calls that serve a response. -/
def Response.Served (response : Response) (chunks : List Bytes) (calls : List SinkCall) : Prop :=
  match response.body with
  | none => calls = [response.headCall]
  | some body => ∃ copy, Transcript response.isStreaming (body.units chunks) copy ∧
      calls = response.headCall :: copy ++ [.flush (.ok ())]

/-- How far a delivery has served a response. -/
def Delivery.Tracked (supplies : Body → List Bytes → Prop) (spent : Body → Prop) (response : Response)
    (chunks : List Bytes) (d : Delivery (Ledger σ)) : Prop :=
  match d.state with
  | .awaiting | .diagnosing _ _ => False
  | .opening o => o = response.opening ∧ d.sink.calls = [] ∧ d.body.isSome = response.body.isSome ∧
      ∀ source body, response.body = some source → d.body = some body → supplies body (source.units chunks)
  | .copying c => c.HasRest ∧ c.discipline = .ofStreaming response.isStreaming ∧
      ∃ source body ahead calls, response.body = some source ∧ d.body = some body ∧
        (c.state.readsOn = true → supplies body ahead) ∧ (c.state.readsOn = false → spent body) ∧
        d.sink.calls = response.headCall :: calls ∧
        c.state.Traced response.isStreaming (source.units chunks) ahead calls
  | .finished => response.Served chunks d.sink.calls ∧ ∀ body, d.body = some body → spent body

namespace Delivery.Tracked

variable {supplies supplies' : Body → List Bytes → Prop} {spent spent' : Body → Prop} {response : Response}
  {chunks chunks' : List Bytes} {d d' : Delivery (Ledger σ)}

theorem advance (h : d.Tracked supplies spent response chunks) (hp : Body.Supplier supplies spent)
    (hg : Willing good) (hl : good d.sink.sink) (ha : d.Advance d') :
    d'.Tracked supplies spent response chunks ∧ d'.events = d.events ∧ (d'.isFinished = false → good d'.sink.sink) := by
  have hhead {o : Opening} : ∃ next, ResponseSink.writeHead (d.dressed o) o.status o.framing = (.ok (), next) ∧
      good next.sink ∧ next.calls = d.sink.calls ++ [.head o.status o.framing (.ok ())] := by
    obtain ⟨next, hw, hgood⟩ := hg.writeHead _ o.status o.framing
      (hg.setHeaders d.sink.sink ((ResponseSink.headers d.sink).copyFields o.headers) hl)
    refine ⟨(d.dressed o).enter next (.head o.status o.framing (.ok ())), ?_, hgood, rfl⟩
    show Ledger.writeHead (d.dressed o) o.status o.framing = _
    unfold Ledger.writeHead dressed
    have hset : (ResponseSink.setHeaders d.sink ((ResponseSink.headers d.sink).copyFields o.headers)).sink =
      ResponseSink.setHeaders d.sink.sink ((ResponseSink.headers d.sink).copyFields o.headers) := rfl
    rw [hset, hw]
  unfold Tracked at h
  cases ha with
  | headLost hd hw =>
    obtain ⟨next, hok, -⟩ := @hhead _
    rw [hok] at hw
    cases hw
  | headSent hd hw hb =>
    obtain ⟨next, hok, hgood, hcalls⟩ := @hhead _
    rw [hok] at hw
    cases hw
    rw [hd] at h
    obtain ⟨rfl, hnone, hsome, hsupplies⟩ := h
    obtain ⟨source, hsource⟩ := Option.isSome_iff_exists.1 (hsome.symm.trans hb)
    obtain ⟨body, hb⟩ := Option.isSome_iff_exists.1 hb
    rw [hnone] at hcalls
    exact ⟨⟨(fun size rest hw => by cases hw), rfl, source, body, _, [], hsource, hb,
      fun _ => hsupplies source body hsource hb, (fun hn => by cases hn), hcalls, [], rfl, .nil⟩, rfl,
      fun _ => hgood⟩
  | @headOnly o sink hd hw hb =>
    obtain ⟨next, hok, hgood, hcalls⟩ := @hhead _
    rw [hok] at hw
    cases hw
    rw [hd] at h
    obtain ⟨rfl, hnone, hsome, -⟩ := h
    rw [hnone] at hcalls
    have hsource : response.body = none := by
      rw [hb] at hsome
      exact Option.isNone_iff_eq_none.1 (by simpa using hsome)
    refine ⟨⟨?_, fun body hf => ?_⟩, rfl, fun hf => by cases hf⟩
    · show response.Served chunks sink.calls
      unfold Response.Served
      rw [hsource]
      exact hcalls
    · have hf : d.body.map Body.release = some body := hf
      rw [hb] at hf
      cases hf
  | copy hd hb ha =>
    rw [hd] at h
    obtain ⟨hrest, hdisc, source, body, ahead, calls, hsource, hbody, hsupplies, hspent, hcalls, htraced⟩ := h
    rw [hb] at hbody
    cases hbody
    obtain ⟨hgood, hdisc', ahead', calls', hsupplies', hspent', hcalls', htraced'⟩ :=
      ha.traced hp hg hl hrest hdisc hsupplies hspent hcalls htraced
    exact ⟨⟨ha.hasRest hrest, hdisc'.trans hdisc, source, _, ahead', calls', hsource, rfl, hsupplies', hspent',
      hcalls', htraced'⟩, rfl, fun _ => hgood⟩
  | copied hd hc =>
    rw [hd] at h
    obtain ⟨-, -, source, body, ahead, calls, hsource, hb, -, hspent, hcalls, htraced⟩ := h
    rw [hc] at htraced hspent
    obtain ⟨copy, ht, rfl⟩ := htraced
    refine ⟨⟨?_, fun last hf => ?_⟩, rfl, fun hf => by cases hf⟩
    · show response.Served chunks d.sink.calls
      unfold Response.Served
      rw [hsource]
      exact ⟨copy, ht, hcalls⟩
    · have hf : d.body.map Body.release = some last := hf
      rw [hb] at hf
      cases hf
      exact hp.release (hspent rfl)
  | copyLost hd hc =>
    rw [hd] at h
    obtain ⟨-, -, source, body, ahead, calls, -, -, -, -, -, htraced⟩ := h
    rw [hc] at htraced
    exact htraced.elim
  | report hd hf =>
    rw [hd] at h
    exact h.elim

/-- The body goes on supplying what it did, and `more` behind it if it is not spent. -/
theorem supply {τ : Type} {d : Delivery (Ledger τ)} {body body' : Body}
    (h : d.Tracked supplies spent response chunks) (more : List Bytes) (hb : d.body = some body)
    (hs : ∀ units, supplies body units → supplies' body' (units ++ more))
    (ho : spent body → more = [] ∧ spent' body')
    (hu : ∀ source, response.body = some source → source.units chunks' = source.units chunks ++ more) :
    Tracked supplies' spent' response chunks' { d with body := some body' } := by
  unfold Tracked at h ⊢
  dsimp only
  split at h
  · exact h
  · exact h
  · obtain ⟨he, hnone, hsome, hsupplies⟩ := h
    refine ⟨he, hnone, ?_, fun source b hsource he => ?_⟩
    · rw [← hsome, hb]
      rfl
    · cases he
      rw [hu source hsource]
      exact hs _ (hsupplies source body hsource hb)
  · rename_i c hd
    obtain ⟨hrest, hdisc, source, b, ahead, calls, hsource, hbody, hsupplies, hspent, hcalls, htraced⟩ := h
    rw [hb] at hbody
    cases hbody
    refine ⟨hrest, hdisc, source, body', ahead ++ more, calls, hsource, rfl, fun hr => hs _ (hsupplies hr),
      fun hr => (ho (hspent hr)).2, hcalls, ?_⟩
    rw [hu source hsource]
    -- `more` comes behind what is ahead while the body is read, and there is none when it is not
    cases hr : c.state.readsOn with
    | true => exact htraced.append hr more
    | false =>
      rw [(ho (hspent hr)).1, List.append_nil]
      exact htraced.spent hr _
  · obtain ⟨hserved, hspent⟩ := h
    obtain ⟨rfl, hspent'⟩ := ho (hspent body hb)
    refine ⟨?_, fun b he => by cases he; exact hspent'⟩
    unfold Response.Served at hserved ⊢
    cases hsource : response.body with
    | none => simpa only [hsource] using hserved
    | some source => simpa only [hsource, hu source hsource, List.append_nil] using hserved

theorem hasRest {τ : Type} {d : Delivery (Ledger τ)} {c : Copier} (h : d.Tracked supplies spent response chunks)
    (hs : d.state = .copying c) : c.HasRest := by
  unfold Tracked at h
  rw [hs] at h
  exact h.1

/-- The delivery waits for nothing but the sink and the writers of a stream. -/
theorem awaits (h : d.Tracked supplies spent response chunks) (hd : d.step? = none) :
    d.isFinished = true ∨ d.AwaitsSink ∨ d.AwaitsWriters := by
  unfold Tracked at h
  have hanswered : d.state ≠ .awaiting := by
    intro hs
    rw [hs] at h
    exact h
  have hbody : ∀ c, d.state = .copying c → d.body.isSome = true := by
    intro c hs
    rw [hs] at h
    obtain ⟨-, -, source, body, ahead, calls, -, hb, -⟩ := h
    rw [hb]
    rfl
  rcases awaits_of_step?_eq_none hd hanswered hbody with hfin | hsink | hwriters | ⟨lost, fault, hs, -⟩
  · exact .inl hfin
  · exact .inr (.inl hsink)
  · exact .inr (.inr hwriters)
  · rw [hs] at h
    exact h.elim

/-- What supplies the body while it is read. -/
theorem supplies_of_reading {τ : Type} {d : Delivery (Ledger τ)} {c : Copier} {body : Body}
    (h : d.Tracked supplies spent response chunks) (hs : d.state = .copying c) (hc : c.state = .reading)
    (hb : d.body = some body) : ∃ source done ahead copy, response.body = some source ∧ supplies body ahead ∧
      d.sink.calls = response.headCall :: copy ∧ Transcript response.isStreaming done copy ∧
      done ++ ahead = source.units chunks := by
  unfold Tracked at h
  rw [hs] at h
  obtain ⟨-, -, source, b, ahead, copy, hsource, hbody, hsupplies, -, hcalls, htraced⟩ := h
  rw [hb] at hbody
  cases hbody
  rw [hc] at hsupplies htraced
  obtain ⟨done, he, ht⟩ := htraced
  exact ⟨source, done, ahead, copy, hsource, hsupplies rfl, hcalls, ht, he⟩

end Delivery.Tracked

/-! ### The exchange -/

namespace Exchange

/-- An exchange that serves a response, with what is known of its sink and its producer. -/
structure Tracks (good : σ → Prop) (response : Response) (chunks : List Bytes) (p : Producer)
    (x : Exchange (Ledger σ)) : Prop where
  producer : x.producer = some p
  again : p.again = []
  willing : x.delivery.isFinished = false → good x.delivery.sink.sink
  silent : x.delivery.events = []
  tracked : x.delivery.Tracked (Body.Supplies chunks p) (fun _ => True) response chunks

variable {service : Service} {request : Request} {response : Response} {chunks : List Bytes} {p : Producer}
  {x y : Exchange (Ledger σ)} {n : Nat}

theorem tracks_watched {τ : Type} {good : τ → Prop} {sink : τ} (hs : good sink)
    (hn : ∀ ch, (service request).body = some (.stream ch) → ch.Offered)
    (hf : (service request).body.bind Body.fault? = none) :
    (watched service request sink chunks).Tracks good (service request) chunks { rest := chunks } := by
  refine ⟨rfl, rfl, fun _ => hs, rfl, rfl, rfl, rfl, fun source body hsource hb => ?_⟩
  have hb : (service request).body = some body := hb
  rw [hsource] at hb
  cases hb
  rw [hsource] at hf
  exact ⟨.new hf fun ch he => hn ch (he ▸ hsource), rfl⟩

theorem Tracks.deliver (h : x.Tracks good response chunks p) (hg : Willing good) (hs : x.deliver? = some y) :
    y.Tracks good response chunks p ∧ y.load < x.load := by
  obtain ⟨d, hd, rfl⟩ := Option.map_eq_some_iff.1 hs
  have ha := Delivery.advance_of_step? hd
  have hl := h.willing ha.not_finished
  obtain ⟨htracked, hevents, hgood⟩ := h.tracked.advance (Body.supplier_supplies chunks p) hg hl ha
  refine ⟨⟨h.producer, h.again, hgood, hevents.trans h.silent, htracked⟩, ?_⟩
  unfold load
  exact Nat.add_lt_add_right (ha.load_lt (fun c hc => h.tracked.hasRest hc) (hg.patient hl)) _

theorem Tracks.produce {τ : Type} {good : τ → Prop} {x y : Exchange (Ledger τ)}
    (h : x.Tracks good response chunks p) (hs : x.produce? = some y) :
    ∃ p', y.Tracks good response chunks p' ∧ y.load < x.load := by
  obtain ⟨p', hp', ha', hl⟩ := load_produce h.producer h.again hs
  obtain ⟨q, body, q', body', hq, hb, hf, rfl⟩ := produce?_eq_some hs
  rw [h.producer] at hq
  cases hq
  cases hp'
  have ht : Delivery.Tracked (Body.Supplies chunks p') (fun _ => True) response chunks
      { x.delivery with body := some body' } := by
    refine h.tracked.supply [] hb (fun units hs => ?_) (fun _ => ⟨rfl, trivial⟩)
      fun source _ => (List.append_nil _).symm
    obtain ⟨hfeed, hunits⟩ := hs.1.feed hf
    exact ⟨hfeed, by rw [hunits, hs.2, List.append_nil]⟩
  exact ⟨_, ⟨rfl, ha', h.willing, h.silent, ht⟩, hl⟩

theorem Tracks.turn {τ : Type} {good : τ → Prop} {sink : τ} {x : Exchange (Ledger τ)}
    (h : x.Tracks good response chunks p) (hs : good sink) :
    Tracks good response chunks p { x with delivery.sink.sink := sink } :=
  ⟨h.producer, h.again, fun _ => hs, h.silent, h.tracked⟩

/-- What holds at the start of a run holds in all of it, and every step leaves less to do. -/
theorem Tracks.reaches (h : x.Tracks good response chunks p) (hg : Willing good) (hr : x.Reaches good n y) :
    ∃ p', y.Tracks good response chunks p' ∧ n + y.load ≤ x.load := by
  induction hr with
  | refl => exact ⟨p, h, by omega⟩
  | deliver _ hs ih =>
    obtain ⟨p', hy, hle⟩ := ih
    obtain ⟨hz, hlt⟩ := hy.deliver hg hs
    exact ⟨p', hz, by omega⟩
  | produce _ hs ih =>
    obtain ⟨p', hy, hle⟩ := ih
    obtain ⟨p'', hz, hlt⟩ := hy.produce hs
    exact ⟨p'', hz, by omega⟩
  | turn _ hs ih =>
    obtain ⟨p', hy, hle⟩ := ih
    exact ⟨p', hy.turn hs, hle⟩

/-- The parties wait for nothing but the sink. -/
theorem Tracks.finished_or_awaitsSink (h : x.Tracks good response chunks p) (hd : x.deliver? = none)
    (hp : x.produce? = none) : x.delivery.isFinished = true ∨ x.delivery.AwaitsSink := by
  have hd : x.delivery.step? = none := by simpa [deliver?] using hd
  rcases h.tracked.awaits hd with hfin | hsink | ⟨c, ch, hs, hc, hb, hread⟩
  · exact .inl hfin
  · exact .inr hsink
  · -- the producer of the stream can go on
    obtain ⟨source, done, ahead, copy, -, ⟨hfeed, -⟩, -⟩ := h.tracked.supplies_of_reading hs hc hb
    have hread : (Body.stream ch).read Copier.unitLimit = (.pending, .stream (ch.read Copier.unitLimit).2) := by
      simp only [Body.read, hread, Poll.map]
    obtain ⟨p', body', hf⟩ := hfeed.feed_of_pending hread rfl
    simp [produce?, h.producer, hb, hf] at hp

end Exchange

/-- What is accepted of the calls that serve a response is the content of its body. -/
theorem Response.Served.accepted {response : Response} {body : Body} {chunks : List Bytes}
    {calls : List SinkCall} (h : response.Served chunks calls) (hb : response.body = some body) :
    calls.flatMap SinkCall.accepted = body.content chunks := by
  unfold Response.Served at h
  rw [hb] at h
  obtain ⟨copy, ht, rfl⟩ := h
  simp [ht.accepted, Body.flatten_units, Response.headCall, SinkCall.accepted]

/-- Serving a response on a sink that never fails and accepts at least a byte of every write, when no read of
its body fails for good and a live stream has its producer for its only writer. Framing and discipline are decided
by the response alone; no order of steps goes on for ever, and where one ends the response is served, unless the
sink is busy; and once it is served the ledger shows the head, the units of the content with their flushes, and the
last flush, and nothing was logged. -/
theorem Exchange.serve_run {service : Service} {request : Request} {chunks : List Bytes} {sink : σ} {n : Nat}
    {x : Exchange (Ledger σ)} (hg : Willing good) (hs : good sink)
    (hn : ∀ ch, (service request).body = some (.stream ch) → ch.Offered)
    (hf : (service request).body.bind Body.fault? = none)
    (hr : (watched service request sink chunks).Reaches good n x) :
    ((service request).isStreaming = true ↔ (∃ ch, (service request).body = some (.stream ch)) ∨
      Bytes.ofString Response.chunked ∈ (service request).headers.values .transferEncoding ∨
      Response.chunked ∈ (service request).codings) ∧
    ((service request).framing = .empty ↔ (service request).body = none) ∧
    ((service request).framing = .chunked ↔ ∃ body, (service request).body = some body ∧
      ((service request).isStreaming = true ∨ body.length? = none)) ∧
    (∀ length, (service request).framing = .length length ↔ ∃ body, (service request).body = some body ∧
      body.length? = some length ∧ (service request).isStreaming = false) ∧
    n + x.load ≤ (watched service request sink chunks).load ∧
    (x.deliver? = none → x.produce? = none →
      x.delivery.isFinished = true ∨ x.delivery.AwaitsSink) ∧
    (x.delivery.isFinished = true → x.delivery.events = [] ∧
      (service request).Served chunks x.delivery.sink.calls ∧
      ∀ body, (service request).body = some body →
        x.delivery.sink.calls.flatMap SinkCall.accepted = body.content chunks ∧
        ∀ unit ∈ body.units chunks, unit ≠ [] ∧ unit.length ≤ Copier.unitLimit) := by
  obtain ⟨p, h, hle⟩ := (tracks_watched hs hn hf).reaches hg hr
  refine ⟨Response.isStreaming_iff _, Response.framing_eq_empty_iff _, Response.framing_eq_chunked_iff _,
    Response.framing_eq_length_iff _, hle, h.finished_or_awaitsSink, fun hfin => ?_⟩
  have ht := h.tracked
  have hstate : x.delivery.state = .finished := by simpa [Delivery.isFinished] using hfin
  unfold Delivery.Tracked at ht
  rw [hstate] at ht
  obtain ⟨hserved, -⟩ := ht
  exact ⟨h.silent, hserved, fun body hb => ⟨hserved.accepted hb, fun unit hu => Body.mem_units hu⟩⟩

theorem Exchange.Reaches.steps {x y : Exchange (Ledger σ)} {n : Nat} (h : x.Reaches good n y) (limit : Nat) :
    ∃ m, x.Reaches good m (y.steps limit) := by
  induction limit generalizing n y with
  | zero => exact ⟨n, h⟩
  | succ limit ih =>
    unfold Exchange.steps
    cases hs : y.step? with
    | none => exact ⟨n, h⟩
    | some z =>
      rcases Option.or_eq_some_iff.1 hs with hd | ⟨-, hp⟩
      · exact ih (h.deliver hd)
      · exact ih (h.produce hp)

end

/-- A recorder that is told no failure never fails, and accepts at least a byte unless its cap is none. -/
theorem Recorder.willing : Willing fun r : Recorder =>
    r.cap ≠ some 0 ∧ r.failHead = none ∧ r.failWrite = none ∧ r.failFlush = none where
  setHeaders _ _ h := h
  writeHead r status framing h := by
    obtain ⟨hc, hh, hw, hf⟩ := h
    refine ⟨{ r with headCalls := r.headCalls + 1, head := some (status, framing) }, ?_, hc, hh, hw, hf⟩
    show r.writeHead status framing = _
    simp only [Recorder.writeHead, hh]
  write r bytes answer next h hb hs := by
    obtain ⟨hc, hh, hw, hf⟩ := h
    have hs : r.write bytes = (.ready answer, next) := hs
    simp only [Recorder.write, Recorder.failing, hw, Option.filter_none, Option.map_none] at hs
    cases hs
    refine ⟨⟨hc, hh, rfl, hf⟩, _, rfl, ?_, ?_⟩
    · have := List.length_pos_iff.2 hb
      cases hcap : r.cap with
      | none => exact this
      | some cap =>
        have : cap ≠ 0 := fun h0 => hc (by rw [hcap, h0])
        simp only [List.length_take]
        omega
    · cases r.cap with
      | none => exact Nat.le_refl _
      | some cap => simp only [List.length_take]; omega
  flush r answer next h hs := by
    obtain ⟨hc, hh, hw, hf⟩ := h
    have hs : r.flush = (.ready answer, next) := hs
    simp only [Recorder.flush, Recorder.failing, hf, Option.filter_none, Option.map_none] at hs
    cases hs
    exact ⟨⟨hc, hh, hw, rfl⟩, rfl⟩

/-- A live stream that is handed over with a chunk half read, one in the queue and a writer gone, on a recorder that
accepts one byte at a time. -/
theorem Exchange.serve_run_recorder :
    let stream : Channel := { current := [97], queue := [[98, 99]], writers := [true, false] }
    ∃ n x, (watched (fun _ => { body := some (.stream stream) }) {} ({ cap := some 1 } : Recorder)
        [[], [100]]).Reaches
          (fun r => r.cap ≠ some 0 ∧ r.failHead = none ∧ r.failWrite = none ∧ r.failFlush = none) n x ∧
      x.delivery.isFinished = true ∧ x.delivery.events = [] ∧
      x.delivery.sink.calls.flatMap SinkCall.accepted = [97, 98, 99, 100] := by
  intro stream
  have hoffered : stream.Offered := ⟨rfl, rfl, ⟨[false], rfl, rfl⟩, by decide⟩
  obtain ⟨n, hr⟩ := Reaches.steps (x := watched (fun _ => { body := some (.stream stream) }) {}
    ({ cap := some 1 } : Recorder) [[], [100]]) .refl 64
  have hfin : ((watched (fun _ => { body := some (.stream stream) }) {} ({ cap := some 1 } : Recorder)
      [[], [100]]).steps 64).delivery.isFinished = true := by decide +kernel
  obtain ⟨-, -, -, -, -, -, hserved⟩ := serve_run Recorder.willing ⟨by decide, rfl, rfl, rfl⟩
    (fun ch h => by cases h; exact hoffered) rfl hr
  obtain ⟨he, -, hbody⟩ := hserved hfin
  exact ⟨n, _, hr, hfin, he, (hbody (.stream stream) rfl).1⟩

end Courier
