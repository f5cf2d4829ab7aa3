/-!
# Numbers in text

Digits in a base up to 16, written in lower case and read in either case. A reader takes the longest
run of digits at the front of a text, so that what follows a number never is a digit.
-/

namespace Courier.Text

/-- The value of a digit in the given base. -/
def digitValue? (base : Nat) (c : Char) : Option Nat :=
  let value? : Option Nat :=
    if '0' ≤ c ∧ c ≤ '9' then some (c.toNat - '0'.toNat)
    else if 'a' ≤ c ∧ c ≤ 'f' then some (c.toNat - 'a'.toNat + 10)
    else if 'A' ≤ c ∧ c ≤ 'F' then some (c.toNat - 'A'.toNat + 10)
    else none
  value?.filter (· < base)

def isDigit (base : Nat) (c : Char) : Bool := (digitValue? base c).isSome

/-- The value of a run of digits, most significant first. -/
def valueOf (base : Nat) (digits : List Char) : Nat :=
  digits.foldl (fun value c => base * value + (digitValue? base c).getD 0) 0

/-- The digits of a number, most significant first, without leading zeros. -/
def digitsOf (base n : Nat) : List Char := Nat.toDigits base n

/-- How a number may be written at some place. -/
structure NumberForm where
  base : Nat := 10
  /-- The most digits that may be written. -/
  most : Option Nat := none
  /-- Whether a number of several digits may begin with a zero. -/
  leadingZeros : Bool := true
  /-- The number is below this. -/
  bound : Nat

namespace NumberForm

/-- Whether the digits are a number of this form. -/
def accepts (form : NumberForm) (digits : List Char) : Bool :=
  !digits.isEmpty && form.most.all (digits.length ≤ ·) &&
    (form.leadingZeros || digits.length == 1 || digits.head? != some '0') &&
    valueOf form.base digits < form.bound

/-- Reads the run of digits at the front of the text, which has to be a number of this form. -/
def read? (form : NumberForm) (text : List Char) : Option (Nat × List Char) :=
  let digits := text.takeWhile (isDigit form.base)
  if form.accepts digits then
    some (valueOf form.base digits, text.dropWhile (isDigit form.base))
  else none

end NumberForm

end Courier.Text
