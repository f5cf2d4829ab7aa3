/-!
# TOML documents without tables

A document is a list of entries with distinct keys. The values are texts, whole numbers of 64 bits
and truth values; a document that holds anything else (a table, a list, a date, a number with a
fraction) is not read at all.
-/

namespace Courier.Toml

inductive Value
  | text (chars : List Char)
  | number (n : Int)
  | flag (b : Bool)
deriving DecidableEq, Repr

structure Entry where
  key : List Char
  value : Value
deriving DecidableEq, Repr

abbrev Document := List Entry

/-- The largest number that can be written. -/
def maxNumber : Nat := 0x7fffffffffffffff

/-- Whether a number can be written. -/
def isNumber (n : Int) : Bool := -(maxNumber : Int) - 1 ≤ n && n ≤ maxNumber

end Courier.Toml
