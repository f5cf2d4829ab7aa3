import Courier.Text.Number

/-!
# Quoted text in TOML documents

Four forms: between double quotes with escapes, between single quotes without, and both again
between threefold quotes, where the text may run over several lines. Each reader starts behind the
opening quotes and returns the text together with what follows the closing ones.
-/

namespace Courier.Toml

open Text (digitValue? isDigit valueOf)

def isBlank (c : Char) : Bool := c = ' ' || c = '\t'

/-- A tab, or a character that is no control character of ASCII. -/
def isPrintable (c : Char) : Bool :=
  c = '\t' || (' ' ≤ c && c.toNat ≤ 0x7e) || 0x80 ≤ c.toNat

/-- Takes a line break off the front. -/
def newline? : List Char → Option (List Char)
  | '\n' :: rest => some rest
  | '\r' :: '\n' :: rest => some rest
  | _ => none

/-- The text without the blanks and line breaks in front. -/
def skipBreaks : List Char → List Char
  | '\r' :: '\n' :: rest => skipBreaks rest
  | c :: rest => if isBlank c || c = '\n' then skipBreaks rest else c :: rest
  | [] => []

/-- The character with the number given by the first `count` characters, all of them hexadecimal
digits. -/
def scalar? (count : Nat) (text : List Char) : Option (Char × List Char) :=
  let digits := text.take count
  let value := valueOf 16 digits
  if digits.length = count ∧ digits.all (isDigit 16) ∧ value.isValidChar then
    some (Char.ofNat value, text.drop count)
  else none

/-- Reads what follows a backslash. -/
def escape? : List Char → Option (Char × List Char)
  | 'b' :: rest => some (Char.ofNat 0x08, rest)
  | 't' :: rest => some ('\t', rest)
  | 'n' :: rest => some ('\n', rest)
  | 'f' :: rest => some (Char.ofNat 0x0c, rest)
  | 'r' :: rest => some ('\r', rest)
  | '"' :: rest => some ('"', rest)
  | '\\' :: rest => some ('\\', rest)
  | 'u' :: rest => scalar? 4 rest
  | 'U' :: rest => scalar? 8 rest
  | _ => none

/-- What follows a backslash at the end of a line: the line breaks and blanks before the next
character do not count. -/
def continuation? (text : List Char) : Option (List Char) :=
  (newline? (text.dropWhile isBlank)).map skipBreaks

theorem length_newline? {text rest : List Char} (h : newline? text = some rest) :
    rest.length < text.length := by
  unfold newline? at h
  split at h
  · cases h
    exact Nat.lt_succ_self _
  · cases h
    exact Nat.lt_succ_of_lt (Nat.lt_succ_self _)
  · cases h

theorem length_skipBreaks (text : List Char) : (skipBreaks text).length ≤ text.length := by
  fun_induction skipBreaks text <;> simp_all <;> omega

theorem length_scalar? {count : Nat} {text rest : List Char} {c : Char}
    (h : scalar? count text = some (c, rest)) : rest.length ≤ text.length := by
  simp only [scalar?] at h
  split at h
  · obtain ⟨-, rfl⟩ := Prod.mk.inj (Option.some.inj h)
    simp
  · simp at h

theorem length_escape? {text rest : List Char} {c : Char} (h : escape? text = some (c, rest)) :
    rest.length < text.length := by
  unfold escape? at h
  split at h
  case h_8 | h_9 =>
    have := length_scalar? h
    simp only [List.length_cons]
    omega
  all_goals simp_all

theorem length_continuation? {text rest : List Char} (h : continuation? text = some rest) :
    rest.length < text.length := by
  obtain ⟨start, hstart, rfl⟩ := Option.map_eq_some_iff.1 h
  have hdrop : (text.dropWhile isBlank).length ≤ text.length :=
    (List.dropWhile_sublist isBlank).length_le
  have hnew := length_newline? hstart
  have hskip := length_skipBreaks start
  omega

/-- Text between double quotes, on one line. -/
def basic? (text : List Char) : Option (List Char × List Char) :=
  match text with
  | '"' :: rest => some ([], rest)
  | '\\' :: rest =>
    match h : escape? rest with
    | some (c, rest') =>
      have := length_escape? h
      (basic? rest').map fun (chars, rest) => (c :: chars, rest)
    | none => none
  | c :: rest =>
    if isPrintable c then (basic? rest).map fun (chars, rest) => (c :: chars, rest) else none
  | [] => none
termination_by text.length

/-- Text between single quotes, on one line. -/
def literal? : List Char → Option (List Char × List Char)
  | '\'' :: rest => some ([], rest)
  | c :: rest =>
    if isPrintable c then (literal? rest).map fun (chars, rest) => (c :: chars, rest) else none
  | [] => none

/-- Text between threefold double quotes. Up to two more quotes may stand before the closing ones. -/
def basicLines? (text : List Char) : Option (List Char × List Char) :=
  match text with
  | '"' :: '"' :: '"' :: '"' :: '"' :: rest => some (['"', '"'], rest)
  | '"' :: '"' :: '"' :: '"' :: rest => some (['"'], rest)
  | '"' :: '"' :: '"' :: rest => some ([], rest)
  | '\\' :: rest =>
    match hc : continuation? rest with
    | some rest' =>
      have := length_continuation? hc
      basicLines? rest'
    | none =>
      match h : escape? rest with
      | some (c, rest') =>
        have := length_escape? h
        (basicLines? rest').map fun (chars, rest) => (c :: chars, rest)
      | none => none
  | '\r' :: '\n' :: rest => (basicLines? rest).map fun (chars, rest) => ('\n' :: chars, rest)
  | c :: rest =>
    if isPrintable c || c = '\n' then
      (basicLines? rest).map fun (chars, rest) => (c :: chars, rest)
    else none
  | [] => none
termination_by text.length

/-- Text between threefold single quotes. Up to two more quotes may stand before the closing ones. -/
def literalLines? : List Char → Option (List Char × List Char)
  | '\'' :: '\'' :: '\'' :: '\'' :: '\'' :: rest => some (['\'', '\''], rest)
  | '\'' :: '\'' :: '\'' :: '\'' :: rest => some (['\''], rest)
  | '\'' :: '\'' :: '\'' :: rest => some ([], rest)
  | '\r' :: '\n' :: rest => (literalLines? rest).map fun (chars, rest) => ('\n' :: chars, rest)
  | c :: rest =>
    if isPrintable c || c = '\n' then
      (literalLines? rest).map fun (chars, rest) => (c :: chars, rest)
    else none
  | [] => none

/-- The text without the line break that may follow threefold opening quotes. -/
def skipFirstBreak (text : List Char) : List Char := (newline? text).getD text

/-- Reads a quoted text on one line. -/
def line? : List Char → Option (List Char × List Char)
  | '"' :: rest => basic? rest
  | '\'' :: rest => literal? rest
  | _ => none

/-- Reads a quoted text of any form. -/
def quoted? : List Char → Option (List Char × List Char)
  | '"' :: '"' :: '"' :: rest => basicLines? (skipFirstBreak rest)
  | '\'' :: '\'' :: '\'' :: rest => literalLines? (skipFirstBreak rest)
  | text => line? text

end Courier.Toml
