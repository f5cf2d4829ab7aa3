import Courier.Exchange.Run
import Courier.Proofs.Steps

/-!
# What is left to do

Every step of a delivery, and every step of its producer, leaves less to do than there was: `Delivery.load`
and `Producer.load` count it. The one exception is a write that is made again because it was interrupted,
so a sink that is interrupted for ever is left out.
-/

namespace Courier

/-! ### Bodies -/

@[simp] theorem chunkWork_nil : chunkWork [] = 0 := rfl

@[simp] theorem chunkWork_cons (chunk : Bytes) (chunks : List Bytes) :
    chunkWork (chunk :: chunks) = chunk.length + 1 + chunkWork chunks := rfl

@[simp] theorem chunkWork_append (left right : List Bytes) :
    chunkWork (left ++ right) = chunkWork left + chunkWork right := by
  induction left with
  | nil => simp
  | cons chunk chunks ih => simp [ih, Nat.add_assoc]

namespace Body

/-- How much there is to do with the steps of a reader. -/
def scriptWork (script : List ReadStep) : Nat := script.foldr (fun step work => step.work + work) 0

theorem scriptWork_cons (step : ReadStep) (script : List ReadStep) :
    scriptWork (step :: script) = step.work + scriptWork script := rfl

theorem work_readScript {script next : List ReadStep} {answer : Poll (Except Fault Bytes)}
    (hr : readScript Copier.unitLimit script = (answer, next)) :
    match answer with
    | .ready (.ok unit) => scriptWork next + unit.length ≤ scriptWork script
    | .ready (.error _) | .pending => scriptWork next < scriptWork script := by
  match script with
  | [] =>
    cases hr
    exact Nat.le_refl _
  | .stop :: rest | .notReady :: rest | .fail fault :: rest =>
    cases hr
    simp [scriptWork_cons, ReadStep.work]
  | .data data :: rest =>
    cases hr
    show scriptWork (if _ then _ else _) + _ ≤ _
    rw [scriptWork_cons, ReadStep.work]
    split
    · simp only [List.length_take]
      omega
    · rw [scriptWork_cons, ReadStep.work]
      simp only [List.length_take, List.length_drop]
      omega

/-- A read takes what it yields off what is to be read. -/
theorem work_read {body next : Body} {unit : Bytes}
    (hr : body.read Copier.unitLimit = (.ready (.ok unit), next)) : next.work + unit.length ≤ body.work := by
  match body with
  | .bytes data =>
    cases hr
    simp only [work, List.length_drop, List.length_take]
    omega
  | .reader script length =>
    rcases hs : readScript Copier.unitLimit script with ⟨a, s⟩
    simp only [read, hs] at hr
    cases hr
    exact work_readScript hs
  | .stream ch =>
    simp only [read, Channel.read] at hr
    split at hr
    · split at hr <;> cases hr
      simp
    · rename_i chunk queue hc hq
      cases hr
      simp only [work, hc, hq, chunkWork_cons, List.length_nil, List.length_drop, List.length_take]
      omega
    · cases hr
      simp only [work, List.length_drop, List.length_take]
      omega

/-- A read that yields nothing, and is made again, leaves one step of a reader less. -/
theorem work_read_lt {body next : Body} {answer : Poll (Except Fault Bytes)}
    (hr : body.read Copier.unitLimit = (answer, next)) (ha : ∀ unit, answer ≠ .ready (.ok unit))
    (hs : answer = .pending → body.isStream = false) : next.work < body.work := by
  match body with
  | .bytes data =>
    cases hr
    exact absurd rfl (ha _)
  | .reader script length =>
    rcases hread : readScript Copier.unitLimit script with ⟨a, s⟩
    simp only [read, hread] at hr
    cases hr
    have hw := work_readScript hread
    match answer with
    | .ready (.ok unit) => exact absurd rfl (ha unit)
    | .ready (.error _) | .pending => exact hw
  | .stream ch =>
    rcases hread : ch.read Copier.unitLimit with ⟨a, ch'⟩
    simp only [read, hread] at hr
    cases hr
    cases a with
    | ready unit => exact absurd rfl (ha unit)
    | pending => cases hs rfl

end Body

/-! ### Deliveries -/

/-- What is left to do for a copier with so much to read. -/
def Copying.load (work : Nat) : Copying → Nat
  | .reading => 3 * work + 4
  | .writing _ rest => 3 * work + rest.length + 5
  | .flushing => 3 * work + 5
  | .closing => 3
  | .done | .failed _ => 2

/-- What is left to do for a delivery. -/
def Delivery.load {σ : Type} (d : Delivery σ) : Nat :=
  match d.state with
  | .opening _ => 3 * (d.body.map Body.work).getD 0 + 5
  | .copying c => c.state.load ((d.body.map Body.work).getD 0)
  | .diagnosing _ _ => 1
  | .awaiting | .finished => 0

/-- A sink is patient if no write on it is interrupted. -/
def Patient {σ : Type} [ResponseSink σ] (sink : σ) : Prop :=
  ∀ bytes fault next, bytes ≠ [] → ResponseSink.write sink bytes = (.ready (.error fault), next) →
    fault.isInterrupted = false

section

variable {σ : Type} [ResponseSink σ]

theorem Copier.Attempt.load_lt_or_again {c c' : Copier} {body body' : Body} {sink sink' : σ}
    (ha : c.Attempt body sink c' body' sink') (hrest : c.HasRest) :
    c'.state.load body'.work < c.state.load body.work ∨
      c' = c ∧ body' = body ∧ ∃ size rest fault, c.state = .writing size rest ∧
        ResponseSink.write sink rest = (.ready (.error fault), sink') ∧ fault.isInterrupted = true := by
  cases ha with
  | unit hc hr hu =>
    have hw := Body.work_read hr
    have := List.length_pos_iff.2 hu
    simp only [hc, Copying.load]
    omega
  | ended hc hr =>
    simp only [hc, Copying.load]
    omega
  | readAgain hc hr =>
    have hw := Body.work_read_lt hr (by simp) (by simp)
    simp only [hc, Copying.load]
    omega
  | readLost hc hr =>
    simp only [hc, Copying.load, fail]
    omega
  | notReady hc hr hs =>
    have hw := Body.work_read_lt hr (by simp) fun _ => hs
    simp only [hc, Copying.load]
    omega
  | written hc hw hn hl =>
    have := List.length_pos_iff.2 (hrest _ _ hc)
    simp only [hc, Copying.load, List.length_drop]
    omega
  | unitDone hc hw hn hl =>
    have := List.length_pos_iff.2 (hrest _ _ hc)
    refine .inl ?_
    simp only [hc, afterUnit]
    split <;> simp only [Copying.load] <;> omega
  | stuck hc | writeLost hc =>
    simp only [hc, Copying.load, fail]
    omega
  | writeAgain hc hw hf => exact .inr ⟨rfl, rfl, _, _, _, hc, hw, hf⟩
  | flushed hc hw | closed hc hw =>
    simp only [hc, Copying.load]
    omega
  | flushLost hc hw =>
    rcases hc with hc | hc <;> simp only [hc, Copying.load, fail] <;> omega

theorem Delivery.Advance.load_lt_or_again {d d' : Delivery σ} (ha : d.Advance d')
    (hrest : ∀ c, d.state = .copying c → c.HasRest) :
    d'.load < d.load ∨ d'.load = d.load ∧ ∃ c size rest fault, d.state = .copying c ∧
      c.state = .writing size rest ∧ ResponseSink.write d.sink rest = (.ready (.error fault), d'.sink) ∧
      fault.isInterrupted = true := by
  cases ha with
  | headLost hd | headSent hd | headOnly hd =>
    simp only [load, hd, finish, Copying.load]
    omega
  | copy hd hb ha =>
    rcases ha.load_lt_or_again (hrest _ hd) with hl | ⟨rfl, rfl, size, rest, fault, hc, hw, hf⟩
    · refine .inl ?_
      simpa only [load, hd, hb, Option.map_some, Option.getD_some] using hl
    · refine .inr ⟨?_, _, size, rest, fault, hd, hc, hw, hf⟩
      simp only [load, hd, hb]
  | copied hd hc | copyLost hd hc =>
    simp only [load, hd, hc, finish, Copying.load]
    omega
  | report hd => simp [load, hd, finish]

theorem Delivery.Advance.load_lt {d d' : Delivery σ} (ha : d.Advance d')
    (hrest : ∀ c, d.state = .copying c → c.HasRest) (hp : Patient d.sink) : d'.load < d.load := by
  rcases ha.load_lt_or_again hrest with hl | ⟨-, c, size, rest, fault, hd, hc, hw, hf⟩
  · exact hl
  · rw [hp rest fault _ (hrest c hd size rest hc) hw] at hf
    cases hf

end

/-! ### Producers -/

/-- What is left to do for a producer that does not repeat itself. -/
def Producer.load (p : Producer) : Nat :=
  3 * chunkWork p.rest + 2 * p.rest.length + p.sending.toList.length + if p.stopped then 0 else 1

namespace Channel

theorem work_enqueue {waiting waiting' : List (Nat × Bytes)} {queue queue' : List Bytes} {done : List Nat}
    (h : enqueue queue waiting = (done, queue', waiting')) :
    chunkWork queue' + chunkWork (waiting'.map (·.2)) ≤ chunkWork queue + chunkWork (waiting.map (·.2)) := by
  induction waiting generalizing queue queue' waiting' done with
  | nil =>
    cases h
    exact Nat.le_refl _
  | cons send waiting ih =>
    obtain ⟨number, chunk⟩ := send
    unfold enqueue at h
    split at h
    · rcases he : enqueue queue waiting with ⟨done₁, queue₁, waiting₁⟩
      rw [he] at h
      cases h
      have := ih he
      simp only [List.map_cons, chunkWork_cons]
      omega
    · split at h
      · rcases he : enqueue (queue ++ [chunk]) waiting with ⟨done₁, queue₁, waiting₁⟩
        rw [he] at h
        cases h
        have := ih he
        simp only [chunkWork_append, chunkWork_cons, chunkWork_nil] at this
        simp only [List.map_cons, chunkWork_cons]
        omega
      · rcases he : enqueue queue waiting with ⟨done₁, queue₁, waiting₁⟩
        rw [he] at h
        cases h
        have := ih he
        simp only [List.map_cons, chunkWork_cons]
        omega

theorem work_settle {ch ch' : Channel} {done : List (Nat × SendResult)} (hs : ch.settle = (done, ch')) :
    (Body.stream ch').work ≤ (Body.stream ch).work := by
  unfold settle at hs
  split at hs
  · rcases he : enqueue ch.queue ch.waiting with ⟨done₁, queue, waiting⟩
    rw [he] at hs
    cases hs
    have := work_enqueue he
    simp only [Body.work]
    omega
  · cases hs
    simp [Body.work]

end Channel

/-- A chunk that is sent is taken off the producer, and counts less in the stream than it did there. -/
theorem Producer.load_lt {p p' : Producer} {ch ch' : Channel} (hs : p.step? ch = some (p', ch'))
    (ha : p.again = []) :
    p'.again = [] ∧ p'.load < p.load ∧
      3 * (Body.stream ch').work + p'.load < 3 * (Body.stream ch).work + p.load := by
  unfold step? at hs
  split at hs
  · cases hs
  rename_i hp
  have hp : p.stopped = false := by simpa using hp
  split at hs
  · rename_i number _ hsend
    rcases he : ch.settle with ⟨done, ch₁⟩
    have hw := Channel.work_settle he
    rw [he] at hs
    dsimp only at hs
    split at hs
    · cases hs
      refine ⟨ha, ?_⟩
      simp only [load, hsend, hp, Option.toList_none, Option.toList_some, List.length_nil, List.length_singleton]
      omega
    · cases hs
      have hclose : (Body.stream (ch₁.closeWriter 0)).work = (Body.stream ch₁).work := rfl
      refine ⟨ha, ?_⟩
      rw [hclose]
      simp only [load, hsend, hp, Option.toList_none, Option.toList_some, List.length_nil, List.length_singleton,
        Bool.false_eq_true, if_false, if_true]
      omega
    · cases hs
  · rename_i chunk rest hsend hrest
    cases hs
    have hsent : (Body.stream (ch.send chunk)).work = (Body.stream ch).work + (chunk.length + 1) := by
      simp only [Channel.send, Body.work, List.map_append, List.map_cons, List.map_nil, chunkWork_append,
        chunkWork_cons, chunkWork_nil]
      omega
    refine ⟨ha, ?_⟩
    rw [hsent]
    simp only [load, hsend, hrest, Option.toList_none, Option.toList_some, List.length_nil, List.length_cons,
      chunkWork_cons]
    omega
  · rename_i hsend hrest
    rw [ha] at hs
    cases hs
    have hclose : (Body.stream (ch.closeWriter 0)).work = (Body.stream ch).work := rfl
    refine ⟨rfl, ?_⟩
    rw [hclose]
    simp only [load, hsend, hp, Bool.false_eq_true, if_false, if_true]
    omega

/-! ### Exchanges -/

def Exchange.load {σ : Type} (x : Exchange σ) : Nat := x.delivery.load + (x.producer.map Producer.load).getD 0

theorem Exchange.load_produce {σ : Type} {x x' : Exchange σ} {p : Producer} (hp : x.producer = some p)
    (ha : p.again = []) (hs : x.produce? = some x') :
    ∃ p', x'.producer = some p' ∧ p'.again = [] ∧ x'.load < x.load := by
  obtain ⟨q, body, p', body', hq, hb, hf, rfl⟩ := produce?_eq_some hs
  rw [hp] at hq
  cases hq
  unfold Producer.feed? at hf
  split at hf
  · obtain ⟨⟨p₁, ch'⟩, hstep, hf⟩ := Option.map_eq_some_iff.1 hf
    cases hf
    obtain ⟨ha', hl, hlt⟩ := p.load_lt hstep ha
    refine ⟨_, rfl, ha', ?_⟩
    unfold load Delivery.load
    rw [hp, hb]
    simp only [Option.map_some, Option.getD_some]
    cases x.delivery.state with
    | awaiting | diagnosing | finished => simpa using hl
    | opening o => dsimp only; omega
    | copying c =>
      dsimp only
      cases c.state <;> simp only [Copying.load] <;> omega
  · cases hf

end Courier
