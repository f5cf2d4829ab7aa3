import Courier.Text.Number
import Courier.Toml

/-!
# Formats of documents

What stands between texts and documents comes from outside, and is given as a `Format`: a reader and a writer.
Of both no more is relied on than what the language says of plain lines, each of them `key = value` with a bare
key, and that a document has distinct keys and numbers of 64 bits (`Format.Lawful`). A reader is free to read
more.
-/

namespace Courier.Toml

/-- The characters of a key that stands without quotes. -/
def isBare (c : Char) : Bool := c.isAlphanum || c = '_' || c = '-'

/-- A character of ASCII that stands for itself between double quotes. -/
def IsPlain (c : Char) : Prop := ' ' ≤ c ∧ c ≤ '~' ∧ c ≠ '"' ∧ c ≠ '\\'

instance : DecidablePred IsPlain := fun _ => inferInstanceAs (Decidable (_ ∧ _))

def writeFlag (b : Bool) : List Char := if b then "true".toList else "false".toList

/-- How a value is written on a plain line. -/
inductive Written : List Char → Value → Prop
  | text {chars : List Char} (h : ∀ c ∈ chars, IsPlain c) : Written ('"' :: chars ++ ['"']) (.text chars)
  | number {n : Nat} (h : n ≤ maxNumber) : Written (Text.digitsOf 10 n) (.number n)
  | flag (b : Bool) : Written (writeFlag b) (.flag b)

/-- A line of a document: the key, the value as it is written, and the value. -/
structure Line where
  key : List Char
  written : List Char
  value : Value

namespace Line

def entry (line : Line) : Entry := ⟨line.key, line.value⟩

def print (line : Line) : List Char := line.key ++ " = ".toList ++ line.written ++ ['\n']

structure Plain (line : Line) : Prop where
  key_ne_nil : line.key ≠ []
  bare : ∀ c ∈ line.key, isBare c = true
  value : Written line.written line.value

end Line

structure Format where
  read? : List Char → Option Document
  write? : Document → Option (List Char)

/-- What the language says of its readers and writers. -/
structure Format.Lawful (format : Format) : Prop where
  /-- Plain lines are read, each as its entry. -/
  read_lines : ∀ lines : List Line, (∀ line ∈ lines, line.Plain) → (lines.map Line.key).Nodup →
    format.read? (lines.flatMap Line.print) = some (lines.map Line.entry)
  /-- Entries that can be written as plain lines are written so. -/
  write_lines : ∀ lines : List Line, (∀ line ∈ lines, line.Plain) → (lines.map Line.key).Nodup →
    format.write? (lines.map Line.entry) = some (lines.flatMap Line.print)
  /-- No key is given twice. -/
  distinct : ∀ text document, format.read? text = some document → (document.map (·.key)).Nodup
  /-- No number is larger than can be written. -/
  numbers : ∀ text document, format.read? text = some document →
    ∀ entry ∈ document, ∀ n, entry.value = .number n → isNumber n = true

end Courier.Toml
