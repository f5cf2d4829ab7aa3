import Courier.Fault.Severity
import Courier.Fault.Wrapper

/-!
# What decides a severity

The chain of a fault is looked at from the outside in, one fault at a time, and a code of the operating system
settles it where it is met. So a wrapper costs one look, and whatever is under `chainLimit` wrappers is not seen:
not even a code that is directly below the last of them (`severity_under_os_iff`).
-/

namespace Courier

namespace Fault

theorem isDisconnect_iff {code : Int} : isDisconnect code = true ↔ code = 32 ∨ code = 104 ∨ code = 103 := by
  rw [isDisconnect, Bool.or_eq_true, Bool.or_eq_true, decide_eq_true_iff, decide_eq_true_iff, decide_eq_true_iff,
    or_assoc]
  rfl

theorem codeSeverity_eq_debug_iff {code : Int} :
    codeSeverity code = .debug ↔ code = 32 ∨ code = 104 ∨ code = 103 := by
  rw [← isDisconnect_iff, codeSeverity]
  split <;> simp_all

theorem debug_or_warn_of_code (code : Int) : codeSeverity code = .debug ∨ codeSeverity code = .warn := by
  unfold codeSeverity
  split
  · exact .inl rfl
  · exact .inr rfl

theorem codeSeverity_eq_warn_iff {code : Int} :
    codeSeverity code = .warn ↔ code ≠ 32 ∧ code ≠ 104 ∧ code ≠ 103 := by
  have hquiet : codeSeverity code = .debug ↔ _ := codeSeverity_eq_debug_iff
  rcases debug_or_warn_of_code code with h | h
  · have hcode := hquiet.1 h
    rw [h]
    constructor
    · intro hw; cases hw
    · omega
  · have hcode : ¬ (code = 32 ∨ code = 104 ∨ code = 103) := by
      rw [← hquiet, h]
      intro hd; cases hd
    exact iff_of_true h (by omega)

/-! ### The chain -/

theorem getElem?_causes_zero (fault : Fault) : fault.causes[0]? = some fault := by
  rw [causes_eq]; rfl

theorem getElem?_causes_succ (fault : Fault) (i : Nat) :
    fault.causes[i + 1]? = fault.causes[i]?.bind next? := by
  induction i generalizing fault with
  | zero =>
    rw [getElem?_causes_zero, Option.bind_some, causes_eq, List.getElem?_cons_succ]
    rcases fault.next? with _ | inner
    · rfl
    · exact inner.getElem?_causes_zero
  | succ i ih =>
    rw [causes_eq fault, List.getElem?_cons_succ, List.getElem?_cons_succ]
    rcases fault.next? with _ | inner
    · rfl
    · exact ih inner

/-! ### Looking down the chain -/

theorem severityWithin_of_code {fault : Fault} {code : Int} (h : fault.code? = some code) (limit : Nat) :
    fault.severityWithin (limit + 1) = codeSeverity code := by
  rw [severityWithin, h]

theorem severityWithin_of_next {fault inner : Fault} (h : fault.next? = some inner) (limit : Nat) :
    fault.severityWithin (limit + 1) = inner.severityWithin limit := by
  obtain ⟨wrapper, rfl⟩ := next?_eq_some_iff.1 h
  rw [severityWithin, wrapper.code?_around, wrapper.next?_around]

/-- A fault that neither carries a code nor is a wrapper hides what is below. -/
theorem severityWithin_of_none {fault : Fault} (hc : fault.code? = none) (hn : fault.next? = none) (limit : Nat) :
    fault.severityWithin limit = .warn := by
  cases limit with
  | zero => rfl
  | succ limit => rw [severityWithin, hc, hn]

theorem severityWithin_cases (fault : Fault) (limit : Nat) :
    fault.severityWithin limit = .debug ∨ fault.severityWithin limit = .warn := by
  induction limit generalizing fault with
  | zero => exact .inr rfl
  | succ limit ih =>
    rcases hc : fault.code? with _ | code
    · rcases hn : fault.next? with _ | inner
      · exact .inr (severityWithin_of_none hc hn _)
      · rw [severityWithin_of_next hn]
        exact ih inner
    · rw [severityWithin_of_code hc]
      exact debug_or_warn_of_code code

/-- The codes are those of a broken pipe, a reset and an abort. -/
theorem severityWithin_eq_debug_iff (fault : Fault) (limit : Nat) :
    fault.severityWithin limit = .debug ↔
      ∃ i code, i < limit ∧ fault.causes[i]? = some (.os code) ∧ (code = 32 ∨ code = 104 ∨ code = 103) := by
  induction limit generalizing fault with
  | zero => simp [severityWithin]
  | succ limit ih =>
    rcases hn : fault.next? with _ | inner
    · -- the chain is this fault
      have hchain : fault.causes = [fault] := by rw [causes_eq, hn]; rfl
      constructor
      · intro h
        rcases hc : fault.code? with _ | code
        · rw [severityWithin_of_none hc hn] at h; cases h
        · rw [severityWithin_of_code hc, codeSeverity_eq_debug_iff] at h
          exact ⟨0, code, by omega, by rw [hchain, code?_eq_some_iff.1 hc]; rfl, h⟩
      · rintro ⟨i, code, -, hi, hcode⟩
        have hos : fault = .os code := by
          rw [hchain] at hi
          exact List.mem_singleton.1 (List.mem_of_getElem? hi) |>.symm
        rw [severityWithin_of_code (code?_eq_some_iff.2 hos)]
        exact codeSeverity_eq_debug_iff.2 hcode
    · have hchain : fault.causes = fault :: inner.causes := by rw [causes_eq, hn]; rfl
      rw [severityWithin_of_next hn, ih inner, hchain]
      constructor
      · rintro ⟨i, code, hi, h⟩
        exact ⟨i + 1, code, by omega, h⟩
      · rintro ⟨i, code, hi, h, hcode⟩
        cases i with
        | zero =>
          cases h
          cases hn
        | succ i => exact ⟨i, code, by omega, h, hcode⟩

theorem severityWithin_under_of_le {limit : Nat} (fault : Fault) {layers : List Wrapper}
    (h : limit ≤ layers.length) : (fault.under layers).severityWithin limit = .warn := by
  induction layers generalizing limit with
  | nil =>
    obtain rfl : limit = 0 := by simpa using h
    rfl
  | cons wrapper layers ih =>
    cases limit with
    | zero => rfl
    | succ limit =>
      rw [List.length_cons] at h
      rw [under_cons, severityWithin_of_next (wrapper.next?_around _)]
      exact ih (by omega)

theorem severityWithin_under (fault : Fault) (layers : List Wrapper) (limit : Nat) :
    (fault.under layers).severityWithin (layers.length + limit) = fault.severityWithin limit := by
  induction layers with
  | nil => rw [under_nil, List.length_nil, Nat.zero_add]
  | cons wrapper layers ih =>
    rw [under_cons, List.length_cons, Nat.succ_add, severityWithin_of_next (wrapper.next?_around _), ih]

/-! ### The severity -/

theorem severity_under_of_le (fault : Fault) {layers : List Wrapper} (h : 8 ≤ layers.length) :
    (fault.under layers).severity = .warn :=
  severityWithin_under_of_le fault h

theorem severity_under_os {layers : List Wrapper} (h : layers.length ≤ 7) (code : Int) :
    ((os code).under layers).severity = codeSeverity code := by
  obtain ⟨limit, hlimit⟩ : ∃ limit, chainLimit = layers.length + (limit + 1) :=
    ⟨7 - layers.length, by unfold chainLimit; omega⟩
  rw [severity, hlimit, severityWithin_under]
  exact severityWithin_of_code rfl limit

theorem severity_under_of_none {core : Fault} (hc : core.code? = none) (hn : core.next? = none)
    (layers : List Wrapper) : (core.under layers).severity = .warn := by
  rcases Nat.lt_or_ge layers.length chainLimit with h | h
  · obtain ⟨limit, hlimit⟩ := Nat.exists_eq_add_of_le (Nat.le_of_lt h)
    rw [severity, hlimit, severityWithin_under]
    exact severityWithin_of_none hc hn limit
  · exact severityWithin_under_of_le core h

/-- What decides the severity of a fault. Each fault of its chain is the one directly below that before it, where
that is a wrapper; the severity is quiet when one of the first eight is an input or output fault with the code of a
broken pipe, a reset or an abort, and that of a warning in every other case: when the chain ends in anything but
such a code, or when it is longer. What is under eight wrappers can be exchanged for anything. -/
theorem severity_exact (fault : Fault) :
    (fault.causes[0]? = some fault ∧ ∀ i, fault.causes[i + 1]? = fault.causes[i]?.bind next?) ∧
    (fault.severity = .debug ↔
      ∃ i code, i ≤ 7 ∧ fault.causes[i]? = some (.os code) ∧ (code = 32 ∨ code = 104 ∨ code = 103)) ∧
    (fault.severity = .debug ∨ fault.severity = .warn) ∧
    (∃ (layers : List Wrapper) (core : Fault), core.next? = none ∧ fault = core.under layers) ∧
    (∀ layers core, core.next? = none → fault = under core layers →
      ((∀ code, core = .os code → code ≠ 32 ∧ code ≠ 104 ∧ code ≠ 103) ∨ 8 ≤ layers.length) →
        fault.severity = .warn) ∧
    ∀ layers inner other, fault = under inner layers → 8 ≤ layers.length →
      (under other layers).severity = fault.severity := by
  refine ⟨⟨fault.getElem?_causes_zero, fault.getElem?_causes_succ⟩, ?_, fault.severityWithin_cases _,
    fault.exists_under, ?_, ?_⟩
  · simp only [severity, severityWithin_eq_debug_iff, chainLimit, Nat.lt_succ_iff]
  · rintro layers core hn rfl (hcode | hlength)
    · rcases hc : core.code? with _ | code
      · exact severity_under_of_none hc hn layers
      · obtain rfl := code?_eq_some_iff.1 hc
        rcases Nat.lt_or_ge layers.length 8 with h | h
        · rw [severity_under_os (Nat.le_of_lt_succ h)]
          exact codeSeverity_eq_warn_iff.2 (hcode code rfl)
        · exact severity_under_of_le _ h
    · exact severity_under_of_le core hlength
  · rintro layers inner other rfl hlength
    rw [severity_under_of_le other hlength, severity_under_of_le inner hlength]

/-- A reset under seven wrappers of all makes is quiet; under one more nothing shows but the wrappers. -/
theorem severity_exact_wrapped :
    let layers : List Wrapper := [.io .brokenPipe, .connection, .engine, .io .other, .connection, .engine, .io .other]
    ((os 104).under layers).severity = .debug ∧ ((os 104).under (.connection :: layers)).severity = .warn ∧
      ((foreign "closed").under (.connection :: layers)).severity =
        ((os 104).under (.connection :: layers)).severity := by
  intro layers
  obtain ⟨-, hdebug, -⟩ := severity_exact ((os 104).under layers)
  obtain ⟨-, -, -, -, hwarn, hdeep⟩ := severity_exact ((os 104).under (.connection :: layers))
  refine ⟨hdebug.2 ⟨7, 104, Nat.le_refl _, rfl, by simp⟩, ?_, hdeep _ _ _ rfl (Nat.le_refl _)⟩
  exact hwarn _ _ rfl rfl (.inr (Nat.le_refl _))

/-- The severity of a code shows through its wrappers just when there are at most seven of them, or the code is a
loud one anyway. -/
theorem severity_under_os_iff (layers : List Wrapper) (code : Int) :
    ((os code).under layers).severity = (os code).severity ↔
      layers.length ≤ 7 ∨ (code ≠ 32 ∧ code ≠ 104 ∧ code ≠ 103) := by
  have hcore : (os code).severity = codeSeverity code := rfl
  rcases Nat.lt_or_ge layers.length 8 with h | h
  · have hle : layers.length ≤ 7 := Nat.le_of_lt_succ h
    rw [hcore, severity_under_os hle]
    exact iff_of_true rfl (.inl hle)
  · rw [hcore, severity_under_of_le _ h, eq_comm, codeSeverity_eq_warn_iff, or_iff_right]
    omega

/-- The eighth wrapper hides a reset that is directly below. -/
theorem not_forall_severity_under_os :
    ¬ ∀ (layers : List Wrapper) (code : Int), layers.length ≤ chainLimit →
      ((os code).under layers).severity = (os code).severity := by
  intro h
  cases h (.replicate 8 (.io .other)) 104 (Nat.le_refl _)

end Fault

end Courier
