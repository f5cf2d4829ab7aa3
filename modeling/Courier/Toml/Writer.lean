import Courier.Toml.Format
import Courier.Toml.Reader

/-!
# Writing TOML documents

Documents are written in plain lines, one an entry. There is no answer for a document that needs more: a key
or a text with other characters, or a number that is negative or too large.
-/

namespace Courier.Toml

/-- The value as it is written on a plain line. -/
def Value.print? : Value → Option (List Char)
  | .text chars => if chars.all fun c => IsPlain c then some ('"' :: chars ++ ['"']) else none
  | .number n => if 0 ≤ n ∧ n ≤ maxNumber then some (Text.digitsOf 10 n.toNat) else none
  | .flag b => some (writeFlag b)

/-- The plain line of an entry. -/
def Entry.line? (entry : Entry) : Option Line :=
  if entry.key ≠ [] ∧ entry.key.all isBare then
    entry.value.print?.map fun written => ⟨entry.key, written, entry.value⟩
  else none

def print? (document : Document) : Option (List Char) :=
  (document.mapM Entry.line?).map fun lines => lines.flatMap Line.print

/-- The format that settings are read and written in. -/
def format : Format where
  read? := parse?
  write? := print?

end Courier.Toml
