import Courier.Proofs.Plan

/-!
# The count of a copy that fails

A copier counts a unit when all of it is written out. What the sink has taken is what was counted and the part
of the unit in hand that was accepted (`Counted`), so the count of a copy that fails is short of it exactly
where a write fails behind another one for the same unit. Whether a recorder lets that happen depends on its cap
and on the write that fails.
-/

namespace Courier

/-- How much of the unit in hand was accepted. -/
def Copying.begun : Copying → Nat
  | .writing size rest => size - rest.length
  | .reading | .flushing | .closing | .done | .failed _ => 0

/-- Whatever is copied, and whatever its source does between two reads: a copy that fails has counted the bytes
that the recorder accepted. -/
def Recorder.CountsTruly (r : Recorder) : Prop :=
  ∀ (discipline : Discipline) (body : Body) (feed : Body → Body → Prop) (n : Nat) (calls : List Delivery.Call)
    (t : Transfer Recorder) (written : Nat) (fault : Fault),
    (Transfer.alone discipline body r).Trail feed (· = ·) n calls t →
      t.copier.result? = some (.error (written, fault)) → t.sink.body.length = r.body.length + written

/-- A copier on a recorder that it got as `r`. -/
structure Counted (r : Recorder) (c : Copier) (s : Recorder) : Prop where
  cap : s.cap = r.cap
  failWrite : s.failWrite = r.failWrite
  calls : r.writeCalls ≤ s.writeCalls
  body : s.body.length = r.body.length + c.written + c.state.begun
  fits : ∀ size rest, c.state = .writing size rest → rest ≠ [] ∧ rest.length ≤ size ∧ size ≤ Copier.unitLimit
  /-- Only a small cap splits a unit, and not before the first write. -/
  split : 0 < c.state.begun →
    r.writeCalls < s.writeCalls ∧ ∃ cap, r.cap = some cap ∧ 0 < cap ∧ cap < Copier.unitLimit

namespace Counted

variable {r s s' : Recorder} {c c' : Copier} {body body' : Body}

theorem new (r : Recorder) (discipline : Discipline) : Counted r { discipline } r where
  cap := rfl
  failWrite := rfl
  calls := Nat.le_refl _
  body := rfl
  fits _ _ h := by cases h
  split h := absurd h (Nat.lt_irrefl 0)

/-- Without a unit in hand the counted bytes are all there are. -/
theorem of_no_unit (h : Counted r c s) (hcap : s'.cap = s.cap) (hfail : s'.failWrite = s.failWrite)
    (hcalls : s.writeCalls ≤ s'.writeCalls) (hunit : ∀ size rest, c'.state ≠ .writing size rest)
    (hbody : s'.body.length = r.body.length + c'.written) : Counted r c' s' := by
  have hzero : c'.state.begun = 0 := by
    cases hc : c'.state with
    | writing size rest => exact absurd hc (hunit size rest)
    | reading | flushing | closing | done | failed => rfl
  exact ⟨hcap.trans h.cap, hfail.trans h.failWrite, Nat.le_trans h.calls hcalls, by omega,
    fun size rest hc => absurd hc (hunit size rest), fun hpos => by omega⟩

/-- What a write that lands does to the count. -/
theorem landed {size n : Nat} {rest : Bytes} (h : Counted r c s) (hc : c.state = .writing size rest)
    (hw : ResponseSink.write s rest = (.ready (.ok n), s')) (hn : 0 < n) :
    s'.cap = s.cap ∧ s'.failWrite = s.failWrite ∧ s'.writeCalls = s.writeCalls + 1 ∧ n ≤ rest.length ∧
      s'.body.length = s.body.length + n ∧
      (rest.drop n ≠ [] → ∃ cap, r.cap = some cap ∧ 0 < cap ∧ cap < Copier.unitLimit) := by
  obtain ⟨hfail, hcalls⟩ := Recorder.write_counted hw
  obtain ⟨-, hrest, hsize⟩ := h.fits size rest hc
  rcases Recorder.write_cases hw with ⟨_, -, he, -⟩ | ⟨-, he, rfl⟩
  · cases he
  cases he
  have hle : (rest.piece s.cap).length ≤ rest.length := List.length_take_le' ..
  refine ⟨rfl, hfail, hcalls, hle, ?_, fun hleft => ?_⟩
  · rw [Recorder.body_land, List.length_append]
  · -- with a cap of a whole unit, or without one, nothing would be left
    have hlt : (rest.piece s.cap).length < rest.length := by
      by_contra hge
      exact hleft (List.drop_eq_nil_of_le (by omega))
    rw [Bytes.piece, List.length_take] at hlt hn
    rw [← h.cap]
    cases hcap : s.cap with
    | none =>
      rw [hcap, Option.getD_none] at hlt
      omega
    | some cap =>
      rw [hcap, Option.getD_some] at hlt hn
      exact ⟨cap, rfl, by omega, by omega⟩

/-- A unit that a write leaves for good was not begun. -/
theorem begun_eq_zero_of_stuck {size : Nat} {rest : Bytes} (h : Counted r c s) (hc : c.state = .writing size rest)
    (hp : rest.piece s.cap = []) : c.state.begun = 0 := by
  by_contra hne
  obtain ⟨-, cap, hcap, hpos, -⟩ := h.split (Nat.pos_of_ne_zero hne)
  obtain ⟨hrest, -⟩ := h.fits size rest hc
  rw [h.cap, hcap] at hp
  rcases List.take_eq_nil_iff.1 hp with hz | hnil
  · exact absurd hz (Nat.ne_of_gt hpos)
  · exact hrest hnil

theorem attempt (h : Counted r c s) (ha : c.Attempt body s c' body' s')
    (hspare : ∀ cap call fault, r.cap = some cap → 0 < cap → cap < Copier.unitLimit →
      r.failWrite = some (call, fault) → fault.isInterrupted = true ∨ call ≤ r.writeCalls + 1) :
    Counted r c' s' := by
  have hbody := h.body
  cases ha with
  | @unit unit next hc hr hu =>
    rw [hc] at hbody
    refine ⟨h.cap, h.failWrite, h.calls, by simpa [Copying.begun] using hbody, fun size rest hw => ?_,
      fun hpos => absurd hpos (by simp [Copying.begun])⟩
    cases hw
    exact ⟨hu, Nat.le_refl _, Body.length_read hr⟩
  | ended hc | readLost hc =>
    rw [hc] at hbody
    exact h.of_no_unit rfl rfl (Nat.le_refl _) (fun size rest hw => by cases hw) hbody
  | readAgain | notReady => exact h
  | @written size n rest next hc hw hn hl =>
    obtain ⟨hcap, hfail, hcalls, hle, hnext, hsplit⟩ := h.landed hc hw hn
    obtain ⟨-, hrest, hsize⟩ := h.fits size rest hc
    rw [hc] at hbody
    have hlength : (rest.drop n).length = rest.length - n := List.length_drop
    have := h.calls
    refine ⟨hcap.trans h.cap, hfail.trans h.failWrite, by omega, ?_, fun size' rest' hw' => ?_, fun _ => ?_⟩
    · simp only [Copying.begun] at hbody ⊢
      omega
    · cases hw'
      exact ⟨hl, by omega, hsize⟩
    · exact ⟨by omega, hsplit hl⟩
  | @unitDone size n rest next hc hw hn hl =>
    obtain ⟨hcap, hfail, hcalls, hle, hnext, -⟩ := h.landed hc hw hn
    obtain ⟨-, hrest, -⟩ := h.fits size rest hc
    have hlength : rest.length ≤ n := List.drop_eq_nil_iff.1 hl
    rw [hc] at hbody
    simp only [Copying.begun] at hbody
    refine h.of_no_unit hcap hfail (by omega) (fun size' rest' hw' => ?_) ?_
    · simp only [Copier.afterUnit] at hw'
      split at hw' <;> cases hw'
    · simp only [Copier.afterUnit]
      omega
  | @stuck size rest next hc hw =>
    have hzero := h.begun_eq_zero_of_stuck hc (Recorder.write_stuck hw).1
    rcases Recorder.write_cases hw with ⟨_, -, he, -⟩ | ⟨-, he, rfl⟩
    · cases he
    have hlength : (rest.piece s.cap).length = 0 := by simpa using he.symm
    refine h.of_no_unit rfl rfl (Nat.le_succ _) (fun size rest hw => by cases hw) ?_
    rw [Recorder.body_land, List.length_append, hlength, hbody, hzero]
    rfl
  | @writeAgain size rest fault next hc hw hi =>
    obtain ⟨-, rfl⟩ := Recorder.write_error hw
    exact ⟨h.cap, h.failWrite, Nat.le_succ_of_le h.calls, hbody, h.fits, fun hpos =>
      ⟨Nat.lt_succ_of_lt (h.split hpos).1, (h.split hpos).2⟩⟩
  | @writeLost size rest fault next hc hw hi =>
    obtain ⟨hf, rfl⟩ := Recorder.write_error hw
    have hzero : c.state.begun = 0 := by
      by_contra hne
      obtain ⟨hcalls, cap, hcap, hpos, hlt⟩ := h.split (Nat.pos_of_ne_zero hne)
      have hplan := Recorder.failing_eq_some.1 hf
      rw [h.failWrite] at hplan
      rcases hspare cap _ fault hcap hpos hlt hplan with htrue | hle
      · rw [hi] at htrue
        cases htrue
      · omega
    exact h.of_no_unit rfl rfl (Nat.le_succ _) (fun size rest hw => by cases hw) (hbody.trans (by rw [hzero]; rfl))
  | flushed hc hw | closed hc hw =>
    obtain ⟨hcap, hnext⟩ := Recorder.flush_kept hw
    obtain ⟨hfail, hcalls⟩ := Recorder.flush_counted hw
    rw [hc, ← hnext] at hbody
    exact h.of_no_unit hcap hfail (Nat.le_of_eq hcalls.symm) (fun size rest hw => by cases hw) hbody
  | flushLost hc hw =>
    obtain ⟨hcap, hnext⟩ := Recorder.flush_kept hw
    obtain ⟨hfail, hcalls⟩ := Recorder.flush_counted hw
    have hzero : c.state.begun = 0 := by rcases hc with hc | hc <;> rw [hc] <;> rfl
    rw [hzero, ← hnext] at hbody
    exact h.of_no_unit hcap hfail (Nat.le_of_eq hcalls.symm) (fun size rest hw => by cases hw) hbody

end Counted

/-! ### A copy whose count is short -/

namespace Body

/-- Units that fit into a read each come as they are. -/
theorem units_ofUnits {units : List Bytes} (h : ∀ unit ∈ units, unit ≠ [] ∧ unit.length ≤ Copier.unitLimit) :
    (ofUnits units).units [] = units ∧ (ofUnits units).fault? = none := by
  induction units with
  | nil => exact ⟨rfl, rfl⟩
  | cons unit units ih =>
    obtain ⟨hne, hle⟩ := h unit List.mem_cons_self
    obtain ⟨hunits, hfault⟩ := ih fun other ho => h other (List.mem_cons_of_mem _ ho)
    have hunit : unit.units = [unit] := by
      rw [Bytes.units_of_ne hne, List.take_of_length_le hle, List.drop_eq_nil_of_le hle, Bytes.units_nil]
    constructor
    · show (if unit = [] then [] else unit.units ++ (ofUnits units).units []) = unit :: units
      rw [if_neg hne, hunit, hunits, List.singleton_append]
    · show (if unit = [] then none else (ofUnits units).fault?) = none
      rw [if_neg hne, hfault]

end Body

namespace Recorder

/-- So many units of one byte, and one that a recorder with this cap accepts in two writes. -/
def lateUnits (ahead cap : Nat) : List Bytes := List.replicate ahead [0] ++ [List.replicate (cap + 1) 0]

theorem failing_ne {plan : Option (Nat × Fault)} {call other : Nat} {fault : Fault} (h : plan = some (call, fault))
    (hne : other ≠ call) : failing plan other = none :=
  failing_eq_none_of_ne (failing_eq_some.2 h) hne

theorem mem_lateUnits (ahead : Nat) {cap : Nat} (hlt : cap < Copier.unitLimit) :
    ∀ unit ∈ lateUnits ahead cap, unit ≠ [] ∧ unit.length ≤ Copier.unitLimit := by
  intro unit hm
  rcases List.mem_append.1 hm with hm | hm
  · rw [(List.mem_replicate.1 hm).2]
    simp [Copier.unitLimit]
  · rw [List.mem_singleton.1 hm]
    exact ⟨by simp, by rw [List.length_replicate]; omega⟩

/-- The write that fails is the second of its unit. -/
theorem follow_late {r : Recorder} {cap ahead : Nat} {fault : Fault} (hpos : 0 < cap)
    (hf : r.failWrite = some (r.writeCalls + ahead + 2, fault)) (hi : fault.isInterrupted = false) (written : Nat) :
    ∃ r', r.follow written (Discipline.buffered.plan (some cap) (lateUnits ahead cap) none) =
      (.error (written + ahead, fault), r') ∧ r'.body.length = r.body.length + ahead + cap := by
  have hbyte : Bytes.writes (some cap) [0] = [.write [0]] := by
    have hle : [(0 : UInt8)].length ≤ cap := hpos
    rw [Bytes.writes_some (by simp) hpos, List.take_of_length_le hle, List.drop_eq_nil_of_le hle, Bytes.writes_nil]
  induction ahead generalizing r written with
  | zero =>
    have hunit : Bytes.writes (some cap) (List.replicate (cap + 1) 0) =
        [.write (List.replicate cap 0), .write [0]] := by
      rw [Bytes.writes_some (by simp) hpos, List.take_replicate, List.drop_replicate, Nat.min_eq_left (by omega),
        Nat.add_sub_cancel_left, List.replicate_one, hbyte]
    have hne : List.replicate cap (0 : UInt8) ≠ [] := by simpa using Nat.ne_of_gt hpos
    have hfirst := perform_lands (r := r) hne (failing_ne hf (by omega))
    obtain ⟨s, hsecond, hbody⟩ : ∃ s, (r.land (List.replicate cap 0)).2.perform (.write [0]) = (.error fault, s) ∧
        s.body = (r.land (List.replicate cap 0)).2.body :=
      ⟨_, put_of_failed (failing_eq_some.2 hf) hi, rfl⟩
    refine ⟨s, ?_, ?_⟩
    · rw [lateUnits, List.replicate_zero, List.nil_append, Discipline.plan_cons, hunit, List.cons_append,
        follow_cons_ok hfirst, List.cons_append, follow_cons_error hsecond]
      rfl
    · rw [hbody, body_land, List.length_append, List.length_replicate, Nat.add_zero]
  | succ ahead ih =>
    have hfirst : r.perform (.write [0]) = (.ok (), (r.land [0]).2) :=
      perform_lands (by simp) (failing_ne hf (by omega))
    have hnumber : r.writeCalls + (ahead + 1) + 2 = (r.land [0]).2.writeCalls + ahead + 2 := by
      show _ = r.writeCalls + 1 + ahead + 2
      omega
    obtain ⟨r', hfollow, hbody⟩ := ih (r := (r.land [0]).2) (hnumber ▸ hf) (written + 1)
    have hunits : lateUnits (ahead + 1) cap = [0] :: lateUnits ahead cap := by
      rw [lateUnits, List.replicate_succ, List.cons_append, lateUnits]
    have hbehind : Discipline.buffered.behind [(0 : UInt8)].length = [.count 1] := rfl
    have hcount : (r.land [0]).2.perform (.count 1) = (.ok (), (r.land [0]).2) := rfl
    refine ⟨r', ?_, ?_⟩
    · rw [hunits, Discipline.plan_cons, hbyte, List.singleton_append, follow_cons_ok hfirst, hbehind,
        List.singleton_append, follow_cons_ok hcount]
      simpa only [Act.counted, Nat.add_zero, Nat.add_assoc, Nat.add_comm 1 ahead] using hfollow
    · rw [hbody, body_land, List.length_append, List.length_singleton]
      omega

end Recorder

namespace Transfer

variable {feed : Body → Body → Prop}

theorem Trail.counted {r : Recorder} {discipline : Discipline} {body : Body} {n : Nat}
    {calls : List Delivery.Call} {t : Transfer Recorder}
    (h : (alone discipline body r).Trail feed (· = ·) n calls t)
    (hspare : ∀ cap call fault, r.cap = some cap → 0 < cap → cap < Copier.unitLimit →
      r.failWrite = some (call, fault) → fault.isInterrupted = true ∨ call ≤ r.writeCalls + 1) :
    Counted r t.copier t.sink := by
  induction h with
  | refl => exact .new r discipline
  | copy _ hs ih => exact ih.attempt (copy?_eq_some hs).1 hspare
  | feed _ _ ih => exact ih
  | turn _ ht ih => exact ht ▸ ih

end Transfer

/-- The count of a failing copy is true on a recorder exactly when no write can fail behind another one for the
same unit: it accepts whole units, or nothing, or the write that fails is made again or is the first of all. -/
theorem Recorder.countsTruly_iff (r : Recorder) :
    r.CountsTruly ↔ ∀ cap call fault, r.cap = some cap → 0 < cap → cap < Copier.unitLimit →
      r.failWrite = some (call, fault) → fault.isInterrupted = true ∨ call ≤ r.writeCalls + 1 := by
  constructor
  · intro h cap call fault hcap hpos hlt hf
    by_contra hno
    obtain ⟨hi, hcall⟩ := not_or.1 hno
    -- units of one byte take up the writes ahead, so that the one that fails is the second of its unit
    obtain ⟨ahead, rfl⟩ : ∃ ahead, call = r.writeCalls + ahead + 2 := ⟨call - r.writeCalls - 2, by omega⟩
    obtain ⟨hunits, hfault⟩ := Body.units_ofUnits (mem_lateUnits ahead hlt)
    obtain ⟨result, hresult, hfollow⟩ := Transfer.settle_follow .buffered (.ofUnits (lateUnits ahead cap)) r rfl
    obtain ⟨r', hlate, hbody⟩ := r.follow_late hpos hf (by simpa using hi) 0
    rw [hunits, hfault, hcap, hlate] at hfollow
    obtain ⟨rfl, hsink⟩ := Prod.mk.inj hfollow
    obtain ⟨n, calls, htrail⟩ :=
      Transfer.trail_settle (fun _ _ => False) (· = ·) .buffered (.ofUnits (lateUnits ahead cap)) r
    have hcount := h .buffered _ _ n calls _ _ fault htrail hresult
    rw [hsink] at hcount
    omega
  · intro hspare discipline body feed n calls t written fault htrail hresult
    have hcounted := htrail.counted hspare
    have hbody := hcounted.body
    unfold Copier.result? at hresult
    split at hresult <;> cases hresult
    rename_i hc
    rw [hc] at hbody
    exact hbody

/-- The second of two writes for one unit fails, and the two bytes of the first are not counted. -/
theorem Recorder.not_forall_countsTruly : ¬ ∀ r : Recorder, r.CountsTruly := by
  intro h
  obtain ⟨n, calls, htrail⟩ := Transfer.trail_settle (fun _ _ => False) (· = ·) .buffered
    (.bytes [104, 101, 108, 108, 111]) ({ cap := some 2, failWrite := some (2, .io .brokenPipe) } : Recorder)
  have hcount := h _ .buffered _ _ n calls _ 0 (.io .brokenPipe) htrail (by decide +kernel)
  have hbody : (Transfer.alone .buffered (.bytes [104, 101, 108, 108, 111])
      ({ cap := some 2, failWrite := some (2, .io .brokenPipe) } : Recorder)).settle.sink.body = [104, 101] := by
    decide +kernel
  rw [hbody] at hcount
  cases hcount

end Courier
