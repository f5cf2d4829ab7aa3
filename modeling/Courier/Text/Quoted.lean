import Courier.Text.Joining
import Courier.Text.Number
import Courier.Text.Unprinted

/-!
# Quoted text

Text between double quotes, so that every character of it shows. What would not show, or would show as
a part of its neighbour, is written by its number.
-/

namespace Courier.Text

/-- Whether the character shows, and shows alone. All characters of ASCII but the controls do. -/
def isShown (c : Char) : Bool :=
  if c.toNat < 0x7f then ' ' ≤ c else !isJoining c && !isUnprinted c

/-- A character as it is written between quotes. -/
def quotedChar (c : Char) : List Char :=
  match c with
  | '\x00' => ['\\', '0']
  | '\t' => ['\\', 't']
  | '\n' => ['\\', 'n']
  | '\r' => ['\\', 'r']
  | '"' => ['\\', '"']
  | '\\' => ['\\', '\\']
  | c =>
    if isShown c then [c] else ['\\', 'u', '\x7b'] ++ digitsOf 16 c.toNat ++ ['\x7d']

/-- The text between double quotes. -/
def quoted (text : String) : String :=
  String.ofList ('"' :: text.toList.flatMap quotedChar ++ ['"'])

end Courier.Text
