import Courier.Text.Number
import Mathlib.Data.List.Basic
import Mathlib.Data.Nat.Digits.Defs
import Mathlib.Tactic.IntervalCases

/-!
# Written numbers are read back

The digits of a number are digits of its base, have its value, and do not begin with a zero unless they are that
zero alone. So a form that has room for the number reads it back (`NumberForm.read?_digitsOf`), from in front of
anything that does not go on with a digit.
-/

namespace Courier.Text

/-- The text does not go on with a digit. -/
def Ends (base : Nat) (text : List Char) : Prop := ∀ c, text.head? = some c → isDigit base c = false

variable {base n d : Nat} {c : Char} {text : List Char}

theorem ends_nil : Ends base [] := nofun

theorem ends_cons (h : isDigit base c = false) : Ends base (c :: text) := by
  intro c' hc
  cases hc
  exact h

theorem takeWhile_digits {digits : List Char} (hd : ∀ c ∈ digits, isDigit base c = true) (hr : Ends base text) :
    (digits ++ text).takeWhile (isDigit base) = digits := by
  rw [List.takeWhile_append_of_pos hd]
  cases text with
  | nil => simp
  | cons c text => simp [hr c rfl]

theorem dropWhile_digits {digits : List Char} (hd : ∀ c ∈ digits, isDigit base c = true) (hr : Ends base text) :
    (digits ++ text).dropWhile (isDigit base) = text := by
  rw [List.dropWhile_append_of_pos hd]
  cases text with
  | nil => rfl
  | cons c text => simp [hr c rfl]

/-! ### Digits -/

theorem digitValue?_digitChar (hb : base ≤ 16) (hd : d < base) : digitValue? base d.digitChar = some d := by
  have hd' : d < 16 := by omega
  interval_cases d <;> simp [digitValue?, Nat.digitChar, hd]

theorem isDigit_digitChar (hb : base ≤ 16) (hd : d < base) : isDigit base d.digitChar = true := by
  rw [isDigit, digitValue?_digitChar hb hd]
  rfl

/-- The digits of a number, last digit first. -/
theorem digitsOf_eq (hb : 1 < base) :
    digitsOf base n = if n < base then [n.digitChar] else digitsOf base (n / base) ++ [(n % base).digitChar] :=
  Nat.toDigits_eq_if hb

theorem digitsOf_ne_nil (base n : Nat) : digitsOf base n ≠ [] := Nat.toDigits_ne_nil

theorem exists_of_mem_digitsOf (hb : 1 < base) (hc : c ∈ digitsOf base n) : ∃ d < base, c = d.digitChar := by
  induction n using Nat.strongRecOn with
  | ind n ih =>
    rw [digitsOf_eq hb] at hc
    split at hc
    · rename_i hn
      exact ⟨n, hn, List.mem_singleton.1 hc⟩
    · rename_i hn
      rcases List.mem_append.1 hc with hc | hc
      · exact ih _ (Nat.div_lt_self (by omega) hb) hc
      · exact ⟨n % base, Nat.mod_lt _ (by omega), List.mem_singleton.1 hc⟩

theorem isDigit_of_mem_digitsOf (hb : 1 < base) (hb' : base ≤ 16) (hc : c ∈ digitsOf base n) :
    isDigit base c = true := by
  obtain ⟨d, hd, rfl⟩ := exists_of_mem_digitsOf hb hc
  exact isDigit_digitChar hb' hd

theorem valueOf_snoc (digits : List Char) (hb : base ≤ 16) (hd : d < base) :
    valueOf base (digits ++ [d.digitChar]) = base * valueOf base digits + d := by
  simp [valueOf, digitValue?_digitChar hb hd]

theorem valueOf_digitsOf (hb : 1 < base) (hb' : base ≤ 16) : valueOf base (digitsOf base n) = n := by
  induction n using Nat.strongRecOn with
  | ind n ih =>
    rw [digitsOf_eq hb]
    split
    · rename_i hn
      rw [← List.nil_append [_], valueOf_snoc [] hb' hn]
      simp [valueOf]
    · rw [valueOf_snoc _ hb' (Nat.mod_lt _ (by omega)), ih _ (Nat.div_lt_self (by omega) hb)]
      exact Nat.div_add_mod n base

theorem length_digitsOf_le {most : Nat} (hm : 0 < most) (hn : n < base ^ most) :
    (digitsOf base n).length ≤ most :=
  Nat.toDigits_length base n most hm hn

/-- Only the zero itself begins with a zero. -/
theorem head?_digitsOf (hb : 1 < base) (hb' : base ≤ 16) (hn : n ≠ 0) : (digitsOf base n).head? ≠ some '0' := by
  induction n using Nat.strongRecOn with
  | ind n ih =>
    rw [digitsOf_eq hb]
    split
    · simpa using hn
    · rename_i hle
      rw [List.head?_append_of_ne_nil _ (digitsOf_ne_nil _ _)]
      have hpos : 0 < n / base := Nat.div_pos (by omega) (by omega)
      exact ih _ (Nat.div_lt_self (by omega) hb) (by omega)

theorem digitsOf_zero : digitsOf base 0 = ['0'] := Nat.toDigits_zero base

/-! ### Forms -/

namespace NumberForm

variable (form : NumberForm)

theorem accepts_digitsOf (hb : 1 < form.base) (hb' : form.base ≤ 16)
    (hm : ∀ most, form.most = some most → 0 < most ∧ n < form.base ^ most) (hn : n < form.bound) :
    form.accepts (digitsOf form.base n) = true := by
  have hmost : form.most.all ((digitsOf form.base n).length ≤ ·) = true := by
    cases hmost : form.most with
    | none => rfl
    | some most => simpa using length_digitsOf_le (hm most hmost).1 (hm most hmost).2
  have hzero : (digitsOf form.base n).length == 1 || (digitsOf form.base n).head? != some '0' := by
    by_cases h : n = 0
    · simp [h, digitsOf_zero]
    · simp [head?_digitsOf hb hb' h]
  simp only [accepts, hmost, valueOf_digitsOf hb hb', Bool.or_assoc, hzero]
  simp [digitsOf_ne_nil, hn]

/-- A written number is read back. -/
theorem read?_digitsOf (hb : 1 < form.base) (hb' : form.base ≤ 16)
    (hm : ∀ most, form.most = some most → 0 < most ∧ n < form.base ^ most) (hn : n < form.bound)
    (hr : Ends form.base text) : form.read? (digitsOf form.base n ++ text) = some (n, text) := by
  have hd : ∀ c ∈ digitsOf form.base n, isDigit form.base c = true := fun c => isDigit_of_mem_digitsOf hb hb'
  simp only [read?, takeWhile_digits hd hr, dropWhile_digits hd hr, form.accepts_digitsOf hb hb' hm hn, if_true,
    valueOf_digitsOf hb hb']

/-- Where there is no digit there is no number. -/
theorem read?_of_ends (hr : Ends form.base text) : form.read? text = none := by
  have hnone : text.takeWhile (isDigit form.base) = [] := by
    cases text with
    | nil => rfl
    | cons c text => simp [hr c rfl]
  simp [read?, hnone, accepts]

end NumberForm

end Courier.Text
