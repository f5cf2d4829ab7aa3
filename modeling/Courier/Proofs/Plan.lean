import Courier.Proofs.Schedule
import Courier.Transfer.Plan
import Courier.Transfer.Trail

/-!
# A copy follows its plan

The acts that are left for a copier are told by its state and by the units that are ahead of it
(`Copier.left`). Each attempt performs the first of them, or none where it is to be made again, so what the rest
comes to stays the same all along (`Copier.Attempt.outcome_eq`). `Recorder.follows` reads that outcome off the
plan: the acts up to the first refused one were performed.
-/

namespace Courier

/-! ### Plans -/

namespace Bytes

theorem writes_nil (cap : Option Nat) : writes cap [] = [] := by
  rw [writes, pieces_nil, List.map_nil]

/-- What a sink with this cap takes of the bytes that it is given. -/
def piece (cap : Option Nat) (bytes : Bytes) : Bytes := bytes.take (cap.getD bytes.length)

theorem writes_stuck {cap : Option Nat} {rest : Bytes} (h : rest ≠ []) (hp : rest.piece cap = []) :
    rest.writes cap = [.write []] := by
  have hz : cap.getD rest.length = 0 := by simpa [piece, h] using hp
  rw [writes, hz, pieces_zero h, List.map_cons, List.map_nil]

theorem writes_some {cap : Nat} {rest : Bytes} (h : rest ≠ []) (hl : 0 < cap) :
    rest.writes (some cap) = .write (rest.take cap) :: writes (some cap) (rest.drop cap) := by
  rw [writes, writes, Option.getD_some, Option.getD_some, pieces_of_ne h hl, List.map_cons]

/-- The first write takes a piece, and the others are those of the rest. -/
theorem writes_of_ne {cap : Option Nat} {rest : Bytes} (hp : rest.piece cap ≠ []) :
    rest.writes cap = .write (rest.piece cap) :: writes cap (rest.drop (rest.piece cap).length) := by
  have hne : rest ≠ [] := by
    rintro rfl
    exact hp List.take_nil
  have hlimit : 0 < cap.getD rest.length := by
    rcases Nat.eq_zero_or_pos (cap.getD rest.length) with hz | hz
    · rw [piece, hz] at hp
      exact absurd rfl hp
    · exact hz
  cases cap with
  | none =>
    rw [Option.getD_none] at hlimit
    have hpiece : rest.piece none = rest := List.take_length
    rw [hpiece, List.drop_length, writes_nil, writes, Option.getD_none, pieces_of_ne hne hlimit, List.take_length,
      List.drop_length, pieces_nil, List.map_cons, List.map_nil]
  | some cap =>
    rw [Option.getD_some] at hlimit
    have hdrop : rest.drop (rest.piece (some cap)).length = rest.drop cap := by
      rw [piece, Option.getD_some, List.length_take]
      rcases Nat.le_total cap rest.length with hle | hle
      · rw [Nat.min_eq_left hle]
      · rw [Nat.min_eq_right hle, List.drop_length, List.drop_eq_nil_of_le hle]
    rw [hdrop, writes_some hne hlimit]
    rfl

theorem exists_writes (cap : Option Nat) {rest : Bytes} (h : rest ≠ []) :
    ∃ piece acts, rest.writes cap = .write piece :: acts := by
  by_cases hp : rest.piece cap = []
  · exact ⟨[], [], writes_stuck h hp⟩
  · exact ⟨_, _, writes_of_ne hp⟩

theorem total_writes (cap : Option Nat) (unit : Bytes) : Act.total (unit.writes cap) = 0 := by
  rw [writes]
  induction unit.pieces (cap.getD unit.length) with
  | nil => rfl
  | cons piece pieces ih =>
    rw [List.map_cons, Act.total, ih]
    rfl

theorem bytes_writes {cap : Option Nat} {unit : Bytes} (h : .write [] ∉ unit.writes cap) :
    (unit.writes cap).flatMap Act.bytes = unit := by
  have hflat : (unit.writes cap).flatMap Act.bytes = (unit.pieces (cap.getD unit.length)).flatten := by
    simp [writes, List.flatMap_map, Act.bytes, List.flatMap_id']
  rw [hflat]
  exact flatten_landed fun hmem => h (List.mem_map_of_mem hmem)

end Bytes

theorem Act.total_append (left right : List Act) : total (left ++ right) = total left + total right := by
  induction left with
  | nil => exact (Nat.zero_add _).symm
  | cons act left ih => rw [List.cons_append, total, total, ih, Nat.add_assoc]

theorem Act.length_flushes (size : Nat) (acts : List Act) : (flushes size acts).length = acts.count .flush := by
  induction acts generalizing size with
  | nil => rfl
  | cons act acts ih => cases act <;> simp [flushes, ih]

namespace Discipline

theorem plan_cons (discipline : Discipline) (cap : Option Nat) (unit : Bytes) (units : List Bytes)
    (fault? : Option Fault) :
    discipline.plan cap (unit :: units) fault? =
      unit.writes cap ++ (discipline.behind unit.length ++ discipline.plan cap units fault?) := by
  simp only [plan, List.flatMap_cons, List.append_assoc]

/-- The units are counted whole. -/
theorem total_plan (discipline : Discipline) (cap : Option Nat) (units : List Bytes) (fault? : Option Fault) :
    Act.total (discipline.plan cap units fault?) = units.flatten.length := by
  induction units with
  | nil => cases fault? <;> rfl
  | cons unit units ih =>
    rw [plan_cons, Act.total_append, Act.total_append, ih, Bytes.total_writes, List.flatten_cons,
      List.length_append, Nat.zero_add]
    congr 1
    unfold behind
    split <;> rfl

/-- Unless nothing gets on, the writes hand over the units. -/
theorem bytes_plan {discipline : Discipline} {cap : Option Nat} {units : List Bytes} {fault? : Option Fault}
    (h : .write [] ∉ discipline.plan cap units fault?) :
    (discipline.plan cap units fault?).flatMap Act.bytes = units.flatten := by
  induction units with
  | nil => cases fault? <;> rfl
  | cons unit units ih =>
    rw [plan_cons, List.mem_append, List.mem_append, not_or, not_or] at h
    obtain ⟨hunit, -, hunits⟩ := h
    rw [plan_cons, List.flatMap_append, List.flatMap_append, ih hunits, Bytes.bytes_writes hunit,
      List.flatten_cons]
    congr 1
    unfold behind
    split <;> rfl

theorem count_flush_plan (discipline : Discipline) (cap : Option Nat) (units : List Bytes) :
    (discipline.plan cap units none).count .flush = if discipline = .chunked then units.length + 1 else 1 := by
  induction units with
  | nil => cases discipline <;> rfl
  | cons unit units ih =>
    have hunit : (unit.writes cap).count .flush = 0 := by simp [Bytes.writes, List.count_eq_zero]
    rw [plan_cons, List.count_append, List.count_append, ih, hunit, behind]
    cases discipline with
    | chunked => simp; omega
    | buffered => simp

end Discipline

/-! ### Recorders -/

namespace Recorder

variable {r r' : Recorder}

theorem failing_eq_some {plan : Option (Nat × Fault)} {call : Nat} {fault : Fault} :
    failing plan call = some fault ↔ plan = some (call, fault) := by
  cases plan with
  | none => simp [failing]
  | some plan =>
    obtain ⟨number, cause⟩ := plan
    by_cases hn : number = call
    · simp [failing, Option.filter, hn]
    · simp [failing, Option.filter, hn]

/-- No call fails but one. -/
theorem failing_eq_none_of_ne {plan : Option (Nat × Fault)} {call other : Nat} {fault : Fault}
    (h : failing plan call = some fault) (hne : other ≠ call) : failing plan other = none := by
  rw [failing_eq_some.1 h]
  simp [failing, Option.filter, Ne.symm hne]

/-- A write fails, or a piece lands. -/
theorem write_cases {bytes : Bytes} {answer : Except Fault Nat}
    (h : ResponseSink.write r bytes = (.ready answer, r')) :
    (∃ fault, failing r.failWrite (r.writeCalls + 1) = some fault ∧ answer = .error fault ∧
      r' = { r with writeCalls := r.writeCalls + 1 }) ∨
    (failing r.failWrite (r.writeCalls + 1) = none ∧ answer = .ok (bytes.piece r.cap).length ∧
      r' = (r.land (bytes.piece r.cap)).2) := by
  have h : r.write bytes = (.ready answer, r') := h
  unfold write at h
  dsimp only at h
  split at h
  · rename_i fault hf
    cases h
    exact .inl ⟨fault, hf, rfl, rfl⟩
  · rename_i hf
    refine .inr ⟨hf, ?_⟩
    cases hcap : r.cap with
    | none | some cap =>
      simp only [hcap] at h
      cases h
      simp [Bytes.piece, land, hcap]

theorem write_error {bytes : Bytes} {fault : Fault}
    (h : ResponseSink.write r bytes = (.ready (.error fault), r')) :
    failing r.failWrite (r.writeCalls + 1) = some fault ∧ r' = { r with writeCalls := r.writeCalls + 1 } := by
  rcases write_cases h with ⟨_, hf, he, hr⟩ | ⟨-, he, -⟩ <;> cases he
  exact ⟨hf, hr⟩

theorem put_of_landed {piece : Bytes} (hf : failing r.failWrite (r.writeCalls + 1) = none) :
    r.perform (.write piece) = r.land piece := by
  simp only [perform, put, hf]

theorem perform_lands {piece : Bytes} (hp : piece ≠ []) (hf : failing r.failWrite (r.writeCalls + 1) = none) :
    r.perform (.write piece) = (.ok (), (r.land piece).2) := by
  rw [put_of_landed hf, land, if_neg hp]

theorem write_landed {bytes : Bytes} {n : Nat} (h : ResponseSink.write r bytes = (.ready (.ok n), r'))
    (hn : 0 < n) :
    r'.cap = r.cap ∧ bytes.piece r.cap ≠ [] ∧ n = (bytes.piece r.cap).length ∧
      r.perform (.write (bytes.piece r.cap)) = (.ok (), r') := by
  rcases write_cases h with ⟨_, -, he, -⟩ | ⟨hf, he, rfl⟩ <;> cases he
  have hp : bytes.piece r.cap ≠ [] := List.length_pos_iff.1 hn
  exact ⟨rfl, hp, rfl, perform_lands hp hf⟩

theorem write_stuck {bytes : Bytes} (h : ResponseSink.write r bytes = (.ready (.ok 0), r')) :
    bytes.piece r.cap = [] ∧ r.perform (.write []) = (.error Copier.stuck, r') := by
  rcases write_cases h with ⟨_, -, he, -⟩ | ⟨hf, he, rfl⟩
  · cases he
  · have hp : bytes.piece r.cap = [] := List.length_eq_zero_iff.1 (by simpa using he.symm)
    exact ⟨hp, (put_of_landed hf).trans (by rw [hp, land, if_pos rfl])⟩

theorem flush_eq_perform {answer : Except Fault Unit} (h : ResponseSink.flush r = (.ready answer, r')) :
    r.perform .flush = (answer, r') := by
  have h : r.flush = (.ready answer, r') := h
  unfold flush at h
  dsimp only at h
  split at h <;> rename_i hf <;> cases h <;> simp only [perform, hf]

theorem flush_kept {answer : Poll (Except Fault Unit)} (h : ResponseSink.flush r = (answer, r')) :
    r'.cap = r.cap ∧ r'.body = r.body := by
  have h : r.flush = (answer, r') := h
  unfold flush at h
  dsimp only at h
  split at h <;> cases h <;> exact ⟨rfl, rfl⟩

theorem put_of_failed {piece : Bytes} {fault : Fault}
    (hf : failing r.failWrite (r.writeCalls + 1) = some fault) (hi : fault.isInterrupted = false) :
    r.perform (.write piece) = (.error fault, { r with writeCalls := r.writeCalls + 1 }) := by
  simp [perform, put, hf, hi]

/-- The write behind an interrupted one is not interrupted again. -/
theorem put_again {piece : Bytes} {fault : Fault} (hf : failing r.failWrite (r.writeCalls + 1) = some fault)
    (hi : fault.isInterrupted = true) :
    r.perform (.write piece) = { r with writeCalls := r.writeCalls + 1 }.perform (.write piece) := by
  have hnext : failing r.failWrite (r.writeCalls + 1 + 1) = none := failing_eq_none_of_ne hf (by omega)
  rw [put_of_landed (r := { r with writeCalls := r.writeCalls + 1 }) hnext]
  simp [perform, put, hf, hi]

theorem follow_cons_ok {act : Act} (h : r.perform act = (.ok (), r')) (written : Nat) (acts : List Act) :
    r.follow written (act :: acts) = r'.follow (written + act.counted) acts := by
  rw [follow, h]

theorem follow_congr {act : Act} (h : r.perform act = r'.perform act) (written : Nat) (acts : List Act) :
    r.follow written (act :: acts) = r'.follow written (act :: acts) := by
  rw [follow, follow, h]

theorem follow_cons_error {act : Act} {fault : Fault} (h : r.perform act = (.error fault, r')) (written : Nat)
    (acts : List Act) : r.follow written (act :: acts) = (.error (written, fault), r') := by
  rw [follow, h]

end Recorder

/-! ### Copiers -/

namespace Copier

variable {c c' : Copier} {body body' : Body} {r r' : Recorder}

/-- What is left to do for a copier with these units ahead. -/
def left (c : Copier) (cap : Option Nat) (units : List Bytes) (fault? : Option Fault) : List Act :=
  match c.state with
  | .reading => c.discipline.plan cap units fault?
  | .writing size rest => rest.writes cap ++ (c.discipline.behind size ++ c.discipline.plan cap units fault?)
  | .flushing => .flush :: c.discipline.plan cap units fault?
  | .closing => [.flush]
  | .done | .failed _ => []

/-- What a copy comes to from here on. -/
def outcome (c : Copier) (body : Body) (r : Recorder) : Except (Nat × Fault) Nat × Recorder :=
  match c.state with
  | .failed fault => (.error (c.written, fault), r)
  | _ => r.follow c.written (c.left r.cap (body.units []) body.fault?)

theorem outcome_reading (hc : c.state = .reading) :
    c.outcome body r = r.follow c.written (c.discipline.plan r.cap (body.units []) body.fault?) := by
  simp only [outcome, left, hc]

theorem outcome_writing {size : Nat} {rest : Bytes} (hc : c.state = .writing size rest) :
    c.outcome body r = r.follow c.written (rest.writes r.cap ++
      (c.discipline.behind size ++ c.discipline.plan r.cap (body.units []) body.fault?)) := by
  simp only [outcome, left, hc]

theorem outcome_flushing (hc : c.state = .flushing) :
    c.outcome body r = r.follow c.written (.flush :: c.discipline.plan r.cap (body.units []) body.fault?) := by
  simp only [outcome, left, hc]

theorem outcome_closing (hc : c.state = .closing) : c.outcome body r = r.follow c.written [.flush] := by
  simp only [outcome, left, hc]

theorem outcome_fail (c : Copier) (fault : Fault) (body : Body) (r : Recorder) :
    (c.fail fault).outcome body r = (.error (c.written, fault), r) := rfl

theorem outcome_afterUnit (c : Copier) (size : Nat) (body : Body) (r : Recorder) :
    (c.afterUnit size).outcome body r = r.follow c.written
      (c.discipline.behind size ++ c.discipline.plan r.cap (body.units []) body.fault?) := by
  have hcount : r.perform (.count size) = (.ok (), r) := rfl
  rw [Discipline.behind, List.cons_append, Recorder.follow_cons_ok hcount]
  by_cases hd : c.discipline = .chunked
  · simp [outcome, left, afterUnit, hd, Act.counted]
  · simp [outcome, left, afterUnit, hd, Act.counted]

/-- An attempt changes nothing about what the copy comes to. -/
theorem Attempt.outcome_eq (ha : c.Attempt body r c' body' r') (hs : body.isStream = false) (hrest : c.HasRest) :
    c'.outcome body' r' = c.outcome body r := by
  have hread {answer : Poll (Except Fault Bytes)} {next : Body} (hr : body.read unitLimit = (answer, next)) :=
    And.intro (Body.units_read [] hs hr) (Body.fault?_read hr)
  cases ha with
  | unit hc hr hu =>
    obtain ⟨hunits, hfault⟩ := hread hr
    rw [Body.unitsBehind_ok _ hu] at hunits
    rw [Body.faultBehind_ok _ hu] at hfault
    rw [outcome_writing rfl, outcome_reading hc, hunits, hfault, Discipline.plan_cons]
  | ended hc hr =>
    obtain ⟨hunits, hfault⟩ := hread hr
    rw [outcome_closing rfl, outcome_reading hc, hunits, hfault]
    rfl
  | readAgain hc hr hf =>
    obtain ⟨hunits, hfault⟩ := hread hr
    rw [outcome_reading hc, outcome_reading hc, hunits, hfault, Body.unitsBehind, Body.faultBehind, if_pos hf,
      if_pos hf]
  | readLost hc hr hf =>
    obtain ⟨hunits, hfault⟩ := hread hr
    rw [outcome_fail, outcome_reading hc, hunits, hfault, Body.unitsBehind, Body.faultBehind, hf]
    rfl
  | notReady hc hr _ =>
    obtain ⟨hunits, hfault⟩ := hread hr
    rw [outcome_reading hc, outcome_reading hc, hunits, hfault, Body.unitsBehind, Body.faultBehind]
  | written hc hw hn hl =>
    obtain ⟨hcap, hpiece, rfl, hput⟩ := Recorder.write_landed hw hn
    rw [outcome_writing rfl, outcome_writing hc, Bytes.writes_of_ne hpiece, List.cons_append,
      Recorder.follow_cons_ok hput, hcap]
    rfl
  | unitDone hc hw hn hl =>
    obtain ⟨hcap, hpiece, rfl, hput⟩ := Recorder.write_landed hw hn
    rw [outcome_afterUnit, outcome_writing hc, Bytes.writes_of_ne hpiece, hl, Bytes.writes_nil, List.cons_append,
      List.nil_append, Recorder.follow_cons_ok hput, hcap]
    rfl
  | stuck hc hw =>
    obtain ⟨hpiece, hput⟩ := Recorder.write_stuck hw
    rw [outcome_fail, outcome_writing hc, Bytes.writes_stuck (hrest _ _ hc) hpiece, List.cons_append,
      Recorder.follow_cons_error hput]
  | writeAgain hc hw hi =>
    obtain ⟨hf, rfl⟩ := Recorder.write_error hw
    obtain ⟨piece, acts, hwrites⟩ := Bytes.exists_writes r.cap (hrest _ _ hc)
    rw [outcome_writing hc, outcome_writing hc, hwrites, List.cons_append]
    -- the interrupted write and the one behind it are one act of the plan
    exact Recorder.follow_congr (Recorder.put_again hf hi).symm ..
  | writeLost hc hw hi =>
    obtain ⟨hf, rfl⟩ := Recorder.write_error hw
    obtain ⟨piece, acts, hwrites⟩ := Bytes.exists_writes r.cap (hrest _ _ hc)
    rw [outcome_fail, outcome_writing hc, hwrites, List.cons_append,
      Recorder.follow_cons_error (Recorder.put_of_failed hf hi)]
  | flushed hc hw =>
    rw [outcome_reading rfl, outcome_flushing hc, Recorder.follow_cons_ok (Recorder.flush_eq_perform hw),
      (Recorder.flush_kept hw).1]
    rfl
  | closed hc hw =>
    rw [outcome_closing hc, Recorder.follow_cons_ok (Recorder.flush_eq_perform hw)]
    rfl
  | flushLost hc hw =>
    have hflush := Recorder.flush_eq_perform hw
    rcases hc with hc | hc
    · rw [outcome_fail, outcome_flushing hc, Recorder.follow_cons_error hflush]
    · rw [outcome_fail, outcome_closing hc, Recorder.follow_cons_error hflush]

theorem outcome_of_result? {result : Except (Nat × Fault) Nat} (h : c.result? = some result) :
    c.outcome body r = (result, r) := by
  unfold result? at h
  split at h <;> rename_i hc <;> cases h
  · simp only [outcome, left, hc, Recorder.follow]
  · simp only [outcome, hc]

end Copier

namespace Transfer

section

variable {σ : Type} [ResponseSink σ] {feed : Body → Body → Prop} {turn : σ → σ → Prop} {t : Transfer σ}

/-- A transfer that is left to itself leaves a trail. -/
theorem trail_steps (hp : t.producer = none) (n : Nat) : ∃ k calls, t.Trail feed turn k calls (t.steps n) := by
  induction n with
  | zero => exact ⟨0, [], .refl⟩
  | succ n ih =>
    obtain ⟨k, calls, h⟩ := ih
    rw [steps_add]
    cases hs : (t.steps n).step? with
    | none =>
      rw [steps_of_none hs]
      exact ⟨k, calls, h⟩
    | some next =>
      rw [steps_of_some hs]
      exact ⟨k + 1, _, .copy h ((step?_of_alone (producer_steps hp n)).symm.trans hs)⟩

theorem trail_settle (feed : Body → Body → Prop) (turn : σ → σ → Prop) (discipline : Discipline) (body : Body)
    (sink : σ) :
    ∃ k calls, (alone discipline body sink).Trail feed turn k calls (alone discipline body sink).settle :=
  trail_steps rfl _

end

variable {t : Transfer Recorder}

theorem outcome_steps (hp : t.producer = none) (hs : t.body.isStream = false) (hrest : t.copier.HasRest) (n : Nat) :
    (t.steps n).copier.outcome (t.steps n).body (t.steps n).sink = t.copier.outcome t.body t.sink := by
  induction n generalizing t with
  | zero => rfl
  | succ n ih =>
    cases hstep : t.step? with
    | none => rw [steps_of_none hstep]
    | some next =>
      rw [steps_of_some hstep]
      rw [step?_of_alone hp] at hstep
      obtain ⟨ha, hproducer⟩ := copy?_eq_some hstep
      rw [ih (hproducer.trans hp) (ha.isStream_eq.trans hs) (ha.hasRest hrest), ha.outcome_eq hs hrest]

/-- The copy of a body without a producer comes to what its plan comes to. -/
theorem settle_follow (discipline : Discipline) (body : Body) (sink : Recorder) (hs : body.isStream = false) :
    ∃ result, (alone discipline body sink).settle.copier.result? = some result ∧
      (result, (alone discipline body sink).settle.sink) =
        sink.follow 0 (discipline.plan sink.cap (body.units []) body.fault?) := by
  have hover := isOver_settle discipline sink hs
  obtain ⟨result, hresult⟩ := Option.isSome_iff_exists.1 hover
  refine ⟨result, hresult, ?_⟩
  rw [← Copier.outcome_of_result? hresult]
  exact (outcome_steps rfl hs (fun size rest h => by cases h) _).trans (Copier.outcome_reading rfl)

end Transfer

/-! ### Following a plan -/

namespace Recorder

variable {r r' : Recorder}

/-- What an act leaves behind that did not fail. -/
structure Performed (r : Recorder) (act : Act) (r' : Recorder) : Prop where
  allowed : r.refusal? [] act = none
  body : r'.body = r.body ++ act.bytes
  flushedAt : r'.flushedAt = r.flushedAt ++ Act.flushes r.size [act]
  size : r'.size = r.size + act.bytes.length
  later : ∀ before other, r.refusal? (act :: before) other = r'.refusal? before other

theorem body_land (r : Recorder) (piece : Bytes) : (r.land piece).2.body = r.body ++ piece := by
  simp [land, body]

/-- Where a write is interrupted, no other one fails. -/
theorem ending?_of_interrupted {plan : Option (Nat × Fault)} {call : Nat} {fault : Fault}
    (h : failing plan call = some fault) (hi : fault.isInterrupted = true) (other : Nat) :
    ending? plan other = none := by
  unfold ending?
  by_cases hn : other = call
  · rw [hn, h]
    simp [Option.filter, hi]
  · rw [failing_eq_none_of_ne h hn, Option.filter_none]

/-- A write ends the copy, or its piece lands, behind a write that was interrupted or at once. -/
theorem perform_write (r : Recorder) (piece : Bytes) :
    (∃ fault, ending? r.failWrite (r.writeCalls + 1) = some fault ∧
      r.perform (.write piece) = (.error fault, { r with writeCalls := r.writeCalls + 1 })) ∨
    (ending? r.failWrite (r.writeCalls + 1) = none ∧ ∃ again,
      (∀ n, ending? r.failWrite (r.writeCalls + again + n) = ending? r.failWrite (r.writeCalls + n)) ∧
      r.perform (.write piece) = { r with writeCalls := r.writeCalls + again }.land piece) := by
  cases hf : failing r.failWrite (r.writeCalls + 1) with
  | none => exact .inr ⟨by simp [ending?, hf], 0, fun _ => rfl, put_of_landed hf⟩
  | some fault =>
    cases hi : fault.isInterrupted with
    | false => exact .inl ⟨fault, by simp [ending?, hf, Option.filter, hi], put_of_failed hf hi⟩
    | true =>
      have hnone := ending?_of_interrupted hf hi
      refine .inr ⟨hnone _, 1, fun n => by rw [hnone, hnone], (put_again hf hi).trans (put_of_landed ?_)⟩
      exact failing_eq_none_of_ne hf (by show r.writeCalls + 1 + 1 ≠ _; omega)

theorem performed_of_ok {act : Act} (h : r.perform act = (.ok (), r')) : r.Performed act r' := by
  cases act with
  | write piece =>
    rcases r.perform_write piece with ⟨fault, -, hp⟩ | ⟨hnone, again, hlater, hp⟩
    · rw [hp] at h
      cases h
    rw [hp, land] at h
    by_cases hpiece : piece = []
    · rw [if_pos hpiece] at h
      cases h
    rw [if_neg hpiece] at h
    cases h
    refine ⟨by simp [refusal?, hnone, hpiece], by simp [body, Act.bytes], by simp [flushedAt, Act.flushes], rfl,
      fun before other => ?_⟩
    cases other with
    | write next =>
      have hcall := hlater (before.countP Act.isWrite + 1 + 1)
      have hnumber : r.writeCalls + again + (before.countP Act.isWrite + 1 + 1) =
        r.writeCalls + again + 1 + before.countP Act.isWrite + 1 := by omega
      rw [hnumber] at hcall
      simp only [refusal?, List.countP_cons, Act.isWrite, if_true, hcall]
      rfl
    | flush => simp [refusal?]
    | count size | lose fault => rfl
  | count size =>
    cases h
    exact ⟨rfl, by simp [Act.bytes], by simp [Act.flushes], rfl, fun before other => by
      cases other <;> simp [refusal?, Act.isWrite]⟩
  | flush =>
    simp only [perform] at h
    split at h <;> rename_i hf <;> cases h
    refine ⟨hf, by simp [body, Act.bytes], by simp [flushedAt, Act.flushes], rfl, fun before other => ?_⟩
    cases other with
    | flush =>
      have hnumber : r.flushCalls + (before.count .flush + 1) + 1 =
        r.flushCalls + 1 + before.count .flush + 1 := by omega
      simp only [refusal?, List.count_cons_self, hnumber]
    | write next => simp [refusal?, Act.isWrite]
    | count size | lose fault => rfl
  | lose fault => cases h

/-- An act that fails adds no byte and no flush. -/
theorem refused_of_error {act : Act} {fault : Fault} (h : r.perform act = (.error fault, r')) :
    r.refusal? [] act = some fault ∧ r'.body = r.body ∧ r'.flushedAt = r.flushedAt := by
  cases act with
  | write piece =>
    rcases r.perform_write piece with ⟨fault, hsome, hp⟩ | ⟨hnone, again, -, hp⟩
    · rw [hp] at h
      cases h
      exact ⟨by simp [refusal?, hsome], rfl, rfl⟩
    rw [hp, land] at h
    by_cases hpiece : piece = []
    · rw [if_pos hpiece] at h
      cases h
      exact ⟨by simp [refusal?, hnone, hpiece], by simp [body, hpiece], rfl⟩
    · rw [if_neg hpiece] at h
      cases h
  | count size => cases h
  | flush =>
    simp only [perform] at h
    split at h <;> rename_i hf <;> cases h
    exact ⟨hf, rfl, rfl⟩
  | lose fault =>
    cases h
    exact ⟨rfl, rfl, rfl⟩

/-- A recorder follows acts up to the first that it refuses. -/
structure Follows (r : Recorder) (written : Nat) (acts done left : List Act)
    (result : Except (Nat × Fault) Nat) (r' : Recorder) : Prop where
  split : acts = done ++ left
  allowed : ∀ before act after, done = before ++ act :: after → r.refusal? before act = none
  body : r'.body = r.body ++ done.flatMap Act.bytes
  flushedAt : r'.flushedAt = r.flushedAt ++ Act.flushes r.size done
  ended : left = [] ∧ result = .ok (written + Act.total done) ∨
    ∃ act after fault, left = act :: after ∧ r.refusal? done act = some fault ∧
      result = .error (written + Act.total done, fault)

theorem flushes_cons (size : Nat) (act : Act) (acts : List Act) :
    Act.flushes size (act :: acts) = Act.flushes size [act] ++ Act.flushes (size + act.bytes.length) acts := by
  cases act <;> simp [Act.flushes, Act.bytes]

theorem follows (r : Recorder) (written : Nat) (acts : List Act) :
    ∃ done left, r.Follows written acts done left (r.follow written acts).1 (r.follow written acts).2 := by
  induction acts generalizing r written with
  | nil =>
    exact ⟨[], [], rfl, fun before act after h => by simp at h, by simp [follow], by simp [follow, Act.flushes],
      .inl ⟨rfl, rfl⟩⟩
  | cons act acts ih =>
    rcases hp : r.perform act with ⟨fault | _, r₁⟩
    · obtain ⟨hrefusal, hbody, hflushed⟩ := refused_of_error hp
      rw [follow_cons_error hp]
      exact ⟨[], act :: acts, rfl, fun before act after h => by simp at h, by simp [hbody],
        by simp [hflushed, Act.flushes], .inr ⟨act, acts, fault, rfl, hrefusal, rfl⟩⟩
    · have hperformed := performed_of_ok hp
      rw [follow_cons_ok hp]
      obtain ⟨done, left, hfollows⟩ := ih r₁ (written + act.counted)
      have htotal : written + act.counted + Act.total done = written + Act.total (act :: done) := by
        simp [Act.total, Nat.add_assoc]
      refine ⟨act :: done, left, by rw [hfollows.split, List.cons_append], ?_, ?_, ?_, ?_⟩
      · intro before other after hsplit
        cases before with
        | nil =>
          cases hsplit
          exact hperformed.allowed
        | cons first before =>
          obtain ⟨rfl, hdone⟩ := List.cons.inj hsplit
          rw [hperformed.later]
          exact hfollows.allowed before other after hdone
      · rw [hfollows.body, hperformed.body, List.flatMap_cons, List.append_assoc]
      · rw [hfollows.flushedAt, hperformed.flushedAt, flushes_cons r.size act done, hperformed.size, List.append_assoc]
      · simpa only [htotal, hperformed.later] using hfollows.ended

theorem Follows.of_ok {written n : Nat} {acts done left : List Act} {result : Except (Nat × Fault) Nat}
    (h : r.Follows written acts done left result r') (hn : result = .ok n) :
    done = acts ∧ written + Act.total acts = n := by
  rcases h.ended with ⟨rfl, hresult⟩ | ⟨act, after, fault, -, -, hresult⟩
  · have hsplit := h.split
    rw [List.append_nil] at hsplit
    subst hsplit
    rw [hn] at hresult
    cases hresult
    exact ⟨rfl, rfl⟩
  · rw [hn] at hresult
    cases hresult

/-- All acts are performed when none of them is refused. -/
theorem Follows.result_iff {written : Nat} {acts done left : List Act} {result : Except (Nat × Fault) Nat}
    (h : r.Follows written acts done left result r') :
    (∃ n, result = .ok n) ↔ ∀ before act after, acts = before ++ act :: after → r.refusal? before act = none := by
  rcases h.ended with ⟨rfl, hresult⟩ | ⟨act, after, fault, rfl, hrefusal, hresult⟩
  · have hsplit := h.split
    rw [List.append_nil] at hsplit
    exact ⟨fun _ => hsplit ▸ h.allowed, fun _ => ⟨_, hresult⟩⟩
  · refine ⟨fun ⟨n, hn⟩ => ?_, fun hnone => ?_⟩
    · rw [hresult] at hn
      cases hn
    · rw [hnone done act after h.split] at hrefusal
      cases hrefusal

/-- A write that nothing gets on with, and a read that fails, would be refused. -/
theorem plan_allowed {discipline : Discipline} {cap : Option Nat} {units : List Bytes} {fault? : Option Fault}
    (h : ∀ before act after, discipline.plan cap units fault? = before ++ act :: after →
      r.refusal? before act = none) :
    .write [] ∉ discipline.plan cap units fault? ∧ fault? = none := by
  refine ⟨fun hmem => ?_, ?_⟩
  · obtain ⟨before, after, hsplit⟩ := List.append_of_mem hmem
    have hrefusal := h before _ after hsplit
    simp [refusal?] at hrefusal
  · cases fault? with
    | none => rfl
    | some fault =>
      have hrefusal := h _ (.lose fault) [] rfl
      cases hrefusal

end Recorder

/-! ### Steps that a copy does not notice -/

namespace Body

/-- Idle steps supply nothing. -/
theorem script_filter (script : List ReadStep) :
    scriptUnits (script.filter (!·.isIdle)) = scriptUnits script ∧
      scriptFault? (script.filter (!·.isIdle)) = scriptFault? script := by
  induction script with
  | nil => exact ⟨rfl, rfl⟩
  | cons step script ih =>
    obtain ⟨hunits, hfault⟩ := ih
    cases hidle : step.isIdle with
    | true =>
      rw [List.filter_cons_of_neg (by simp [hidle]), hunits, hfault]
      cases step with
      | notReady => exact ⟨rfl, rfl⟩
      | fail fault =>
        have hi : fault.isInterrupted = true := hidle
        simp only [scriptUnits, scriptFault?, hi, if_true, and_self]
      | data data => cases hidle
      | stop => cases hidle
    | false =>
      rw [List.filter_cons_of_pos (by simp [hidle])]
      cases step with
      | data data => simp only [scriptUnits, scriptFault?, hunits, hfault, and_self]
      | fail fault =>
        have hi : fault.isInterrupted = false := hidle
        simp [scriptUnits, scriptFault?, hi]
      | stop => exact ⟨rfl, rfl⟩
      | notReady => cases hidle

/-- Two scripts that differ in idle steps only. -/
theorem script_congr {script script' : List ReadStep} (h : script'.filter (!·.isIdle) = script.filter (!·.isIdle)) :
    scriptUnits script' = scriptUnits script ∧ scriptFault? script' = scriptFault? script := by
  obtain ⟨hunits, hfault⟩ := script_filter script
  obtain ⟨hunits', hfault'⟩ := script_filter script'
  rw [h] at hunits' hfault'
  exact ⟨hunits'.symm.trans hunits, hfault'.symm.trans hfault⟩

end Body

namespace Transfer

/-- A copy of a reader, whatever it does with each read, to a recorder, whatever its cap and its failures. The
copy comes to its end. Its acts are those of the plan up to the first that the recorder refuses: it has accepted
their bytes and was flushed where they flush. The copy reports that refusal, with the units written out before
it counted, and ends well exactly when no act is refused; all the bytes are then in the sink. Reads that are not
ready, and reads that are interrupted, show in nothing. -/
theorem copy_run (discipline : Discipline) (script : List ReadStep) (length : Option Nat) (sink : Recorder) :
    let acts := discipline.plan sink.cap (Body.scriptUnits script) (Body.scriptFault? script)
    let t := (alone discipline (.reader script length) sink).settle
    t.isOver = true ∧
    (∃ done left, acts = done ++ left ∧
      (∀ before act after, done = before ++ act :: after → sink.refusal? before act = none) ∧
      t.sink.body = sink.body ++ done.flatMap Act.bytes ∧
      t.sink.flushedAt = sink.flushedAt ++ Act.flushes sink.size done ∧
      (left = [] ∧ t.copier.result? = some (.ok (Act.total done)) ∨
        ∃ act after fault, left = act :: after ∧ sink.refusal? done act = some fault ∧
          t.copier.result? = some (.error (Act.total done, fault)))) ∧
    ((∃ n, t.copier.result? = some (.ok n)) ↔
      ∀ before act after, acts = before ++ act :: after → sink.refusal? before act = none) ∧
    (∀ n, t.copier.result? = some (.ok n) →
      t.sink.body = sink.body ++ Body.scriptContent script ∧ n = (Body.scriptContent script).length ∧
      t.sink.flushedAt.length = sink.flushedAt.length +
        if discipline = .chunked then (Body.scriptUnits script).length + 1 else 1) ∧
    ∀ script' length', script'.filter (!·.isIdle) = script.filter (!·.isIdle) →
      (alone discipline (.reader script' length') sink).settle.copier.result? = t.copier.result? ∧
      (alone discipline (.reader script' length') sink).settle.sink = t.sink := by
  intro acts t
  obtain ⟨result, hresult, hfollow⟩ := settle_follow discipline (.reader script length) sink rfl
  have hresult : t.copier.result? = some result := hresult
  have hfollow : (result, t.sink) = sink.follow 0 acts := hfollow
  obtain ⟨done, left, h⟩ := sink.follows 0 acts
  rw [← hfollow] at h
  have hiff : (∃ n, t.copier.result? = some (.ok n)) ↔
      ∀ before act after, acts = before ++ act :: after → sink.refusal? before act = none := by
    simpa [hresult] using h.result_iff
  refine ⟨isOver_settle discipline sink rfl, ⟨done, left, h.split, h.allowed, h.body, h.flushedAt, ?_⟩, ?_,
    fun n hn => ?_, fun script' length' hs => ?_⟩
  · have hended := h.ended
    simp only [Nat.zero_add] at hended
    simpa only [hresult, Option.some.injEq] using hended
  · exact hiff
  · have hnone := hiff.1 ⟨n, hn⟩
    obtain ⟨hstuck, hfault⟩ := Recorder.plan_allowed hnone
    obtain ⟨rfl, rfl⟩ := h.of_ok (Option.some.inj (hresult.symm.trans hn))
    have hunits := Body.flatten_scriptUnits script
    refine ⟨?_, ?_, ?_⟩
    · rw [h.body, Discipline.bytes_plan hstuck, hunits]
    · rw [Nat.zero_add, Discipline.total_plan, hunits]
    · have hcount := Discipline.count_flush_plan discipline sink.cap (Body.scriptUnits script)
      rw [← hfault] at hcount
      rw [h.flushedAt, List.length_append, Act.length_flushes, hcount]
  · obtain ⟨hunits, hfault⟩ := Body.script_congr hs
    obtain ⟨result', hresult', hfollow'⟩ := settle_follow discipline (.reader script' length') sink rfl
    have hplan : discipline.plan sink.cap (Body.scriptUnits script') (Body.scriptFault? script') = acts := by
      rw [hunits, hfault]
    have hsame := hfollow'.trans ((congrArg (sink.follow 0) hplan).trans hfollow.symm)
    obtain ⟨rfl, hsink⟩ := Prod.mk.inj hsame
    exact ⟨hresult'.trans hresult.symm, hsink⟩

/-- A failing write need not end the copy that makes it: one that is interrupted is made again. -/
theorem not_forall_failed_write_ends :
    ¬ ∀ (discipline : Discipline) (script : List ReadStep) (cap : Option Nat) (call : Nat) (fault : Fault),
      let sink : Recorder := { cap, failWrite := some (call, fault) }
      let t := (alone discipline (.reader script none) sink).settle
      0 < call → call ≤ t.sink.writeCalls → ∃ n, t.copier.result? = some (.error (n, fault)) := by
  intro h
  obtain ⟨n, hn⟩ := h .buffered [.data [104, 105]] none 1 (.io .interrupted) (by decide) (by decide +kernel)
  have hresult : (alone .buffered (.reader [.data [104, 105]] none)
      ({ failWrite := some (1, .io .interrupted) } : Recorder)).settle.copier.result? = some (.ok 2) := by
    decide +kernel
  rw [hresult] at hn
  cases hn

end Transfer

end Courier
