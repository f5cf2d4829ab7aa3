import Courier.Proofs.Accepted
import Courier.Proofs.Calls
import Courier.Proofs.Success
import Courier.Transfer.Schedule

/-!
# No schedule shows in a copy

What a copier does to its sink is decided by the units of its body. A live stream has the same units whatever
is queued when (`Body.Feeds`), so the copy of a stream goes step by step with the copy of a reader that delivers
the units one by one (`Transfer.Matches`): a step of the copier is answered by one there, a step of the producer
by none. As that second copy has no choice, every schedule comes to its outcome.
-/

namespace Courier

/-! ### Units -/

namespace Bytes

theorem length_of_mem_dropLast_units {bytes unit : Bytes} (h : unit ∈ bytes.units.dropLast) :
    unit.length = Copier.unitLimit :=
  length_of_mem_dropLast_pieces (by decide) (units_eq_pieces bytes ▸ h)

end Bytes

namespace Body

theorem read_ofUnits_nil : (ofUnits []).read Copier.unitLimit = (.ready (.ok []), ofUnits []) := rfl

theorem read_ofUnits_cons {unit : Bytes} {units : List Bytes} (h : unit.length ≤ Copier.unitLimit) :
    (ofUnits (unit :: units)).read Copier.unitLimit = (.ready (.ok unit), ofUnits units) := by
  simp only [ofUnits, read, List.map_cons, readScript, List.take_of_length_le h, List.drop_eq_nil_of_le h]
  rfl

theorem isStream_release (body : Body) : body.release.isStream = body.isStream := by
  cases body <;> rfl

theorem work_ofUnits (units : List Bytes) : (ofUnits units).work = chunkWork units := by
  induction units with
  | nil => rfl
  | cons unit units ih =>
    rw [chunkWork_cons, ← ih]
    rfl

end Body

theorem Copier.readsOn_of_result? {c : Copier} (h : c.result?.isSome = true) : c.state.readsOn = false := by
  unfold result? at h
  split at h
  · rename_i hc
    rw [hc]
    rfl
  · rename_i hc
    rw [hc]
    rfl
  · cases h

section

variable {σ : Type} [ResponseSink σ]

/-- An attempt on a live stream is one on its units. Once nothing is read any more, any units will do. -/
theorem Copier.Attempt.on_units {chunks units : List Bytes} {p : Producer} {c c' : Copier} {body body' : Body}
    {sink sink' : σ} (ha : c.Attempt body sink c' body' sink') (hs : body.isStream = true)
    (hf : c.state.readsOn = true → body.Feeds chunks p ∧ body.units p.rest = units) :
    ∃ units', c.Attempt (.ofUnits units) sink c' (.ofUnits units') sink' ∧
      (c'.state.readsOn = true → body'.Feeds chunks p ∧ body'.units p.rest = units') := by
  cases ha with
  | @unit unit next hc hr hu =>
    obtain ⟨hfeeds, rfl⟩ := hf (by rw [hc]; rfl)
    obtain ⟨hnext, hunits⟩ := hfeeds.read_unit hr hu
    have hmem : unit ∈ body.units p.rest := by simp [hunits]
    rw [hunits]
    exact ⟨_, .unit hc (Body.read_ofUnits_cons (Body.mem_units hmem).2) hu, fun _ => ⟨hnext, rfl⟩⟩
  | ended hc hr =>
    obtain ⟨hfeeds, rfl⟩ := hf (by rw [hc]; rfl)
    rw [hfeeds.read_end hr]
    exact ⟨[], .ended hc Body.read_ofUnits_nil, fun hn => by cases hn⟩
  | readAgain hc hr | readLost hc hr =>
    rw [Body.isStream_of_read_error hr] at hs
    cases hs
  | notReady hc hr hn =>
    rw [hs] at hn
    cases hn
  | written hc hw hn hl => exact ⟨units, .written hc hw hn hl, fun _ => hf (by rw [hc]; rfl)⟩
  | unitDone hc hw hn hl => exact ⟨units, .unitDone hc hw hn hl, fun _ => hf (by rw [hc]; rfl)⟩
  | stuck hc hw => exact ⟨units, .stuck hc hw, fun hn => by cases hn⟩
  | writeAgain hc hw hi => exact ⟨units, .writeAgain hc hw hi, hf⟩
  | writeLost hc hw hi => exact ⟨units, .writeLost hc hw hi, fun hn => by cases hn⟩
  | flushed hc hw => exact ⟨units, .flushed hc hw, fun _ => hf (by rw [hc]; rfl)⟩
  | closed hc hw => exact ⟨units, .closed hc hw, fun hn => by cases hn⟩
  | flushLost hc hw => exact ⟨units, .flushLost hc hw, fun hn => by cases hn⟩

namespace Transfer

variable {chunks : List Bytes} {t t' u : Transfer σ}

/-- What is left to do for the producer. -/
def sending {τ : Type} (t : Transfer τ) : Nat := (t.producer.map Producer.load).getD 0

/-- The copy of a stream goes with the copy of its units. -/
structure Matches (chunks : List Bytes) (t u : Transfer σ) : Prop where
  copier : u.copier = t.copier
  sink : u.sink = t.sink
  alone : u.producer = none
  stream : t.body.isStream = true
  fed : ∃ p units, t.producer = some p ∧ p.again = [] ∧ u.body = .ofUnits units ∧
    (t.copier.state.readsOn = true → t.body.Feeds chunks p ∧ t.body.units p.rest = units)

theorem matches_ofUnits {τ : Type} (discipline : Discipline) (chunks : List Bytes) (sink : τ) :
    (ofChunks discipline chunks sink).Matches chunks (ofUnits discipline (chunks.flatMap Bytes.units) sink) := by
  refine ⟨rfl, rfl, rfl, rfl, _, _, rfl, rfl, rfl, fun _ => ⟨.new rfl fun ch h => ?_, ?_⟩⟩
  · cases h
    exact Channel.offered_new
  · simp [ofChunks, Body.units, Bytes.units_nil]

theorem copy?_eq_some (h : t.copy? = some t') :
    t.copier.Attempt t.body t.sink t'.copier t'.body t'.sink ∧ t'.producer = t.producer := by
  obtain ⟨next, hs, rfl⟩ := Option.map_eq_some_iff.1 h
  exact ⟨Copier.attempt_of_step? hs, rfl⟩

theorem isOver_eq_false_of_copy? (h : t.copy? = some t') : t.isOver = false := by
  unfold isOver
  rw [(copy?_eq_some h).1.result?_eq_none]
  rfl

theorem copy?_eq_none (h : t.isOver = true) : t.copy? = none := by
  cases hs : t.copy? with
  | none => rfl
  | some next =>
    rw [isOver_eq_false_of_copy? hs] at h
    cases h

theorem steps_of_none (h : t.step? = none) (n : Nat) : t.steps n = t := by
  cases n with
  | zero => rfl
  | succ n => simp only [steps, h]

theorem steps_of_some (h : t.step? = some t') (n : Nat) : t.steps (n + 1) = t'.steps n := by
  simp only [steps, h]

theorem steps_add (t : Transfer σ) (m n : Nat) : t.steps (m + n) = (t.steps m).steps n := by
  induction m generalizing t with
  | zero => rw [Nat.zero_add, steps]
  | succ m ih =>
    rw [Nat.succ_add]
    cases hs : t.step? with
    | none => simp only [steps_of_none hs]
    | some next => rw [steps_of_some hs, steps_of_some hs, ih]

theorem step?_of_alone (h : t.producer = none) : t.step? = t.copy? := by
  simp [step?, produce?, h]

theorem steps_of_isOver (hp : t.producer = none) (ho : t.isOver = true) (n : Nat) : t.steps n = t :=
  steps_of_none (by rw [step?_of_alone hp, copy?_eq_none ho]) n

theorem producer_steps (h : t.producer = none) (n : Nat) : (t.steps n).producer = none := by
  induction n generalizing t with
  | zero => exact h
  | succ n ih =>
    cases hs : t.step? with
    | none => rwa [steps_of_none hs]
    | some next =>
      rw [steps_of_some hs]
      rw [step?_of_alone h] at hs
      exact ih ((copy?_eq_some hs).2.trans h)

/-- Two numbers of steps that both end a copy without a producer come to the same. -/
theorem steps_eq_of_isOver {m n : Nat} (h : t.producer = none) (hm : (t.steps m).isOver = true)
    (hn : (t.steps n).isOver = true) : t.steps m = t.steps n := by
  rcases Nat.le_total m n with hle | hle
  · obtain ⟨k, rfl⟩ := Nat.exists_eq_add_of_le hle
    rw [steps_add, steps_of_isOver (producer_steps h m) hm]
  · obtain ⟨k, rfl⟩ := Nat.exists_eq_add_of_le hle
    rw [steps_add, steps_of_isOver (producer_steps h n) hn]

namespace Matches

theorem copy (h : t.Matches chunks u) (hs : t.copy? = some t') :
    ∃ u', u.copy? = some u' ∧ t'.Matches chunks u' := by
  obtain ⟨p, units, hp, hagain, hu, hf⟩ := h.fed
  obtain ⟨ha, hproducer⟩ := copy?_eq_some hs
  obtain ⟨units', hattempt, hf'⟩ := ha.on_units h.stream hf
  rw [← h.copier, ← h.sink, ← hu] at hattempt
  refine ⟨{ u with copier := t'.copier, body := .ofUnits units', sink := t'.sink }, ?_, rfl, rfl, h.alone, ?_, p,
    units', hproducer.trans hp, hagain, rfl, hf'⟩
  · simp [copy?, Copier.step?_of_attempt hattempt]
  · exact ha.isStream_eq.trans h.stream

/-- A step of the producer is none of the copy of the units. -/
theorem produce {τ : Type} {t t' u : Transfer τ} (h : t.Matches chunks u) (hs : t.produce? = some t') :
    t'.Matches chunks u ∧ t'.copier = t.copier ∧ t'.sending < t.sending := by
  obtain ⟨p, units, hp, hagain, hu, hf⟩ := h.fed
  simp only [produce?, Option.bind_eq_bind, Option.bind_eq_some_iff] at hs
  obtain ⟨q, hq, ⟨p', body'⟩, hfeed, hs⟩ := hs
  rw [hp] at hq
  cases hq
  cases hs
  obtain ⟨ch, ch', -, rfl, hstep⟩ := Producer.feed?_eq_some hfeed
  obtain ⟨hagain', hlt, -⟩ := p.load_lt hstep hagain
  refine ⟨⟨h.copier, h.sink, h.alone, rfl, p', units, rfl, hagain', hu, fun hr => ?_⟩, rfl, ?_⟩
  · obtain ⟨hfeeds, hunits⟩ := hf hr
    obtain ⟨hfeeds', hunits'⟩ := hfeeds.feed hfeed
    exact ⟨hfeeds', hunits'.trans hunits⟩
  · simpa [sending, hp] using hlt

theorem release {τ : Type} {t u : Transfer τ} (h : t.Matches chunks u) (ho : t.isOver = true) :
    Matches chunks { t with body := t.body.release } u := by
  obtain ⟨p, units, hp, hagain, hu, -⟩ := h.fed
  refine ⟨h.copier, h.sink, h.alone, (Body.isStream_release _).trans h.stream, p, units, hp, hagain, hu,
    fun hr => ?_⟩
  have hread := Copier.readsOn_of_result? ho
  rw [hr] at hread
  cases hread

end Matches

end Transfer

end

/-! ### Recorders -/

namespace Recorder

/-- How many calls are still to be made again: only the write that fails may be. -/
def retries (r : Recorder) : Nat := if r.failWrite.any (r.writeCalls < ·.1) then 1 else 0

theorem retries_le_one (r : Recorder) : r.retries ≤ 1 := by
  unfold retries
  split <;> omega

theorem retries_le {r r' : Recorder} (hf : r'.failWrite = r.failWrite) (hc : r.writeCalls ≤ r'.writeCalls) :
    r'.retries ≤ r.retries := by
  unfold retries
  rw [hf]
  cases r.failWrite with
  | none => simp
  | some plan =>
    simp only [Option.any_some, decide_eq_true_eq]
    split <;> split <;> omega

theorem write_ne_pending (r : Recorder) (bytes : Bytes) : (ResponseSink.write r bytes).1 ≠ .pending := by
  show (r.write bytes).1 ≠ .pending
  unfold write
  dsimp only
  split <;> simp

theorem flush_ne_pending (r : Recorder) : (ResponseSink.flush r).1 ≠ .pending := by
  show r.flush.1 ≠ .pending
  unfold flush
  dsimp only
  split <;> simp

theorem write_counted {r r' : Recorder} {bytes : Bytes} {answer : Poll (Except Fault Nat)}
    (h : ResponseSink.write r bytes = (answer, r')) :
    r'.failWrite = r.failWrite ∧ r'.writeCalls = r.writeCalls + 1 := by
  have h : r.write bytes = (answer, r') := h
  unfold write at h
  dsimp only at h
  split at h <;> cases h <;> exact ⟨rfl, rfl⟩

theorem flush_counted {r r' : Recorder} {answer : Poll (Except Fault Unit)}
    (h : ResponseSink.flush r = (answer, r')) :
    r'.failWrite = r.failWrite ∧ r'.writeCalls = r.writeCalls := by
  have h : r.flush = (answer, r') := h
  unfold flush at h
  dsimp only at h
  split at h <;> cases h <;> exact ⟨rfl, rfl⟩

/-- A write that fails is the one that was to fail, and there is no other. -/
theorem retries_of_failed {r r' : Recorder} {bytes : Bytes} {fault : Fault}
    (h : ResponseSink.write r bytes = (.ready (.error fault), r')) : r'.retries < r.retries := by
  obtain ⟨hf, hc⟩ := write_counted h
  have h : r.write bytes = (.ready (.error fault), r') := h
  unfold write at h
  dsimp only at h
  split at h
  · rename_i hplan
    obtain ⟨plan, hplan, -⟩ := Option.map_eq_some_iff.1 hplan
    obtain ⟨hplan, hnumber⟩ := Option.filter_eq_some_iff.1 hplan
    have hnumber : plan.1 = r.writeCalls + 1 := by simpa using hnumber
    simp [retries, hf, hc, hplan, hnumber]
  · cases h

end Recorder

theorem Copier.not_awaitsSink (c : Copier) (r : Recorder) : ¬ c.AwaitsSink r := by
  unfold AwaitsSink
  split
  · exact r.write_ne_pending _
  · exact r.flush_ne_pending
  · exact r.flush_ne_pending
  all_goals exact id

theorem Copier.Attempt.counted {c c' : Copier} {body body' : Body} {r r' : Recorder}
    (ha : c.Attempt body r c' body' r') : r'.failWrite = r.failWrite ∧ r.writeCalls ≤ r'.writeCalls := by
  cases ha with
  | unit | ended | readAgain | readLost | notReady => exact ⟨rfl, Nat.le_refl _⟩
  | written _ hw | unitDone _ hw | stuck _ hw | writeAgain _ hw | writeLost _ hw =>
    obtain ⟨hf, hc⟩ := Recorder.write_counted hw
    exact ⟨hf, by omega⟩
  | flushed _ hw | closed _ hw | flushLost _ hw =>
    obtain ⟨hf, hc⟩ := Recorder.flush_counted hw
    exact ⟨hf, by omega⟩

namespace Transfer

variable {chunks : List Bytes} {t t' u u' : Transfer Recorder}

/-- What is left to do for the copier. -/
def load (t : Transfer Recorder) : Nat := t.copier.state.load t.body.work + t.sink.retries

theorem load_copy (h : t.copy? = some t') (hrest : t.copier.HasRest) : t'.load < t.load := by
  obtain ⟨ha, -⟩ := copy?_eq_some h
  obtain ⟨hf, hc⟩ := ha.counted
  have hretries := Recorder.retries_le hf hc
  unfold load
  rcases ha.load_lt_or_again hrest with hl | ⟨hcopier, hbody, _, _, _, -, hw, -⟩
  · omega
  · have := Recorder.retries_of_failed hw
    rw [hcopier, hbody]
    omega

/-- Without a producer to wait for, the copy is over after as many steps as there are left. -/
theorem isOver_steps {n : Nat} (hp : t.producer = none) (hs : t.body.isStream = false)
    (hrest : t.copier.HasRest) (hn : t.load ≤ n) : (t.steps n).isOver = true := by
  induction n generalizing t with
  | zero =>
    show t.isOver = true
    cases hc : t.copier.state with
    | done | failed => simp [isOver, Copier.result?, hc]
    | reading | writing | flushing | closing =>
      simp only [load, hc, Copying.load] at hn
      omega
  | succ n ih =>
    cases hs' : t.step? with
    | none =>
      rw [steps_of_none hs']
      rw [step?_of_alone hp] at hs'
      have hstep : t.copier.step? t.body t.sink = none := by simpa [copy?] using hs'
      rcases Copier.awaits_of_step?_eq_none hstep with ho | hsink | ⟨-, ch, hb, -⟩
      · exact ho
      · exact absurd hsink (t.copier.not_awaitsSink t.sink)
      · rw [hb] at hs
        cases hs
    | some next =>
      rw [steps_of_some hs']
      rw [step?_of_alone hp] at hs'
      obtain ⟨ha, hproducer⟩ := copy?_eq_some hs'
      have hlt := load_copy hs' hrest
      exact ih (hproducer.trans hp) (ha.isStream_eq.trans hs) (ha.hasRest hrest) (by omega)

theorem Matches.not_blocked (h : t.Matches chunks u) (ho : t.isOver = false) (hs : t.copy? = none) :
    t.produce?.isSome = true := by
  obtain ⟨p, units, hp, -, -, hf⟩ := h.fed
  have hstep : t.copier.step? t.body t.sink = none := by simpa [copy?] using hs
  rcases Copier.awaits_of_step?_eq_none hstep with hover | hsink | ⟨hstate, ch, hb, hread⟩
  · have ho : t.copier.result?.isSome = false := ho
    rw [hover] at ho
    cases ho
  · exact absurd hsink (t.copier.not_awaitsSink t.sink)
  · -- a read that has to wait leaves room for the producer
    have hread : t.body.read Copier.unitLimit = (.pending, .stream (ch.read Copier.unitLimit).2) := by
      rw [hb]
      simp only [Body.read, hread, Poll.map]
    obtain ⟨p', body', hfeed⟩ := (hf (by rw [hstate]; rfl)).1.feed_of_pending hread h.stream
    simp [produce?, hp, hfeed]

/-- Whatever the schedule, the copy of the stream is where its steps bring the copy of the units. -/
theorem Matches.run {moves : List Move} (h : t.Matches chunks u) (hrest : t.copier.HasRest)
    (hr : t.run? moves = some t') :
    t'.Matches chunks (u.steps (moves.count .copy)) ∧
      moves.count .copy + moves.count .produce + (u.steps (moves.count .copy)).load + t'.sending ≤
        u.load + t.sending := by
  -- from the front, since the steps of the other copy are counted from its start
  induction moves generalizing t u with
  | nil =>
    cases hr
    exact ⟨h, by simp [steps]⟩
  | cons move moves ih =>
    simp only [run?, List.foldlM_cons, Option.bind_eq_bind, Option.bind_eq_some_iff] at hr
    obtain ⟨t₁, hs, hr⟩ := hr
    cases move with
    | copy =>
      obtain ⟨u₁, hu, h₁⟩ := h.copy hs
      have hlt := load_copy hu (h.copier ▸ hrest)
      obtain ⟨ha, hproducer⟩ := copy?_eq_some hs
      obtain ⟨hend, hle⟩ := ih h₁ (ha.hasRest hrest) hr
      have hsending : t₁.sending = t.sending := by rw [sending, hproducer, sending]
      rw [List.count_cons_self, List.count_cons_of_ne (by decide),
        steps_of_some ((step?_of_alone h.alone).trans hu)]
      exact ⟨hend, by omega⟩
    | produce =>
      -- no step on the other side
      obtain ⟨h₁, hcopier, hlt⟩ := h.produce hs
      obtain ⟨hend, hle⟩ := ih h₁ (hcopier ▸ hrest) hr
      rw [List.count_cons_self, List.count_cons_of_ne (by decide)]
      exact ⟨hend, by omega⟩
    | release =>
      obtain ⟨ho, hs⟩ := Option.ite_none_right_eq_some.1 hs
      cases hs
      obtain ⟨hend, hle⟩ := ih (h.release ho) hrest hr
      rw [List.count_cons_of_ne (by decide), List.count_cons_of_ne (by decide)]
      exact ⟨hend, hle⟩

theorem isOver_settle (discipline : Discipline) {body : Body} (sink : Recorder) (hs : body.isStream = false) :
    (alone discipline body sink).settle.isOver = true := by
  refine isOver_steps rfl hs (fun size rest h => by cases h) ?_
  have hretries := sink.retries_le_one
  simp only [load, alone, Copying.load, stepLimit, Option.map_none, Option.getD_none]
  omega

theorem isOver_settle_ofUnits (discipline : Discipline) (units : List Bytes) (sink : Recorder) :
    (ofUnits discipline units sink).settle.isOver = true :=
  isOver_settle discipline sink rfl

/-- Copying a live stream to a recorder, whatever its cap and its failures. Each chunk is cut by itself, into
units that are full but for the last of the chunk, and an empty chunk into none. On every schedule, copier and
recorder are after each step of the copier as after as many steps on these units; the copy is over where the
copy of the units is, which comes to its end. No schedule goes on for ever, and before the copy is over one of
the parties can go on. -/
theorem schedule_run {discipline : Discipline} {sink : Recorder} {moves : List Move}
    (hr : (ofChunks discipline chunks sink).run? moves = some t) :
    (∀ chunk ∈ chunks, chunk.units.flatten = chunk ∧
      (∀ unit ∈ chunk.units, unit ≠ [] ∧ unit.length ≤ Copier.unitLimit) ∧
      ∀ unit ∈ chunk.units.dropLast, unit.length = Copier.unitLimit) ∧
    t.copier = ((ofUnits discipline (chunks.flatMap Bytes.units) sink).steps (moves.count .copy)).copier ∧
    t.sink = ((ofUnits discipline (chunks.flatMap Bytes.units) sink).steps (moves.count .copy)).sink ∧
    (t.isOver = true →
      t.copier = (ofUnits discipline (chunks.flatMap Bytes.units) sink).settle.copier ∧
      t.sink = (ofUnits discipline (chunks.flatMap Bytes.units) sink).settle.sink) ∧
    (ofUnits discipline (chunks.flatMap Bytes.units) sink).settle.isOver = true ∧
    (t.isOver = false → t.copy?.isSome = true ∨ t.produce?.isSome = true) ∧
    moves.count .copy + moves.count .produce ≤
      3 * chunkWork (chunks.flatMap Bytes.units) + 3 * chunkWork chunks + 2 * chunks.length + 6 := by
  obtain ⟨h, hle⟩ := (matches_ofUnits discipline chunks sink).run (fun size rest h => by cases h) hr
  refine ⟨fun chunk _ => ⟨Bytes.flatten_units chunk, fun unit => Bytes.mem_units,
    fun unit => Bytes.length_of_mem_dropLast_units⟩, h.copier.symm, h.sink.symm, fun ho => ?_,
    isOver_settle_ofUnits .., fun ho => ?_, ?_⟩
  · rw [← h.copier, ← h.sink]
    have hover :
        ((ofUnits discipline (chunks.flatMap Bytes.units) sink).steps (moves.count .copy)).isOver = true := by
      unfold isOver
      rw [h.copier]
      exact ho
    have hsame := steps_eq_of_isOver rfl hover (isOver_settle_ofUnits discipline _ sink)
    exact ⟨congrArg Transfer.copier hsame, congrArg Transfer.sink hsame⟩
  · cases hs : t.copy? with
    | some next => exact .inl rfl
    | none => exact .inr (h.not_blocked ho hs)
  · have hretries := sink.retries_le_one
    have hload : (ofUnits discipline (chunks.flatMap Bytes.units) sink).load =
        3 * chunkWork (chunks.flatMap Bytes.units) + 4 + sink.retries := by
      simp only [load, ofUnits, Body.work_ofUnits, Copying.load]
    have hsending : (ofChunks discipline chunks sink).sending = 3 * chunkWork chunks + 2 * chunks.length + 1 := by
      simp [sending, ofChunks, Producer.load]
    omega

/-- The third write fails. It is the second of the last chunk, and the producer stops when the copy is over. -/
theorem schedule_run_failed :
    ∃ t, (ofChunks .chunked [[97], [], [98, 99], [100]]
        ({ cap := some 1, failWrite := some (3, .io .brokenPipe) } : Recorder)).run?
          [.produce, .produce, .copy, .produce, .copy, .produce, .produce, .copy, .produce, .copy, .copy, .copy,
            .release, .produce, .produce] = some t ∧
      t.isOver = true ∧ t.copier.result? = some (.error (1, .io .brokenPipe)) ∧ t.sink.writes = [1, 1] ∧
      t.sink.flushedAt = [1] ∧ t.sink.writeCalls = 3 := by
  have hrun : ((ofChunks .chunked [[97], [], [98, 99], [100]]
      ({ cap := some 1, failWrite := some (3, .io .brokenPipe) } : Recorder)).run?
        [.produce, .produce, .copy, .produce, .copy, .produce, .produce, .copy, .produce, .copy, .copy, .copy,
          .release, .produce, .produce]).map isOver = some true := by decide +kernel
  obtain ⟨t, hr, ho⟩ := Option.map_eq_some_iff.1 hrun
  obtain ⟨-, -, -, hover, -⟩ := schedule_run hr
  obtain ⟨hcopier, hsink⟩ := hover ho
  refine ⟨t, hr, ho, ?_⟩
  rw [hcopier, hsink]
  decide +kernel

end Transfer

end Courier
