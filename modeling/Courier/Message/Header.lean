import Courier.Bytes
import Courier.Message.Token

/-!
# Header fields

A header set holds, for each name, a list of values in the order they were added. Names are kept in
lower case, so that they are equal whenever they differ in case only.
-/

namespace Courier

structure HeaderName where
  text : String
deriving DecidableEq, Repr

namespace HeaderName

/-- The longest name that is accepted. -/
def maxLength : Nat := 0xffff

/-- The name spelled by these bytes, in any case. -/
def ofBytes? (bytes : Bytes) : Option HeaderName :=
  let chars := bytes.map fun b => Char.ofNat b.toNat
  if isToken chars ∧ chars.length ≤ maxLength then
    some ⟨String.ofList (chars.map Char.toLower)⟩
  else none

def contentLength : HeaderName := ⟨"content-length"⟩
def contentType : HeaderName := ⟨"content-type"⟩
def transferEncoding : HeaderName := ⟨"transfer-encoding"⟩

end HeaderName

/-- A value may hold any bytes but the control characters of ASCII other than the tab. -/
def isHeaderValue (bytes : Bytes) : Bool :=
  bytes.all fun b => b = 9 || (0x20 ≤ b && b ≠ 0x7f)

/-- Fields in the order they were added. -/
abbrev Headers := List (HeaderName × Bytes)

namespace Headers

/-- The values of a name, in the order they were added. -/
def values (headers : Headers) (name : HeaderName) : List Bytes :=
  (headers.filter (·.1 = name)).map (·.2)

def has (headers : Headers) (name : HeaderName) : Bool := headers.any (·.1 = name)

/-- Each name once, in the order of their first fields. -/
def names (headers : Headers) : List HeaderName := (headers.map (·.1)).eraseDups

/-- Adds a value to those of the name. -/
def append (headers : Headers) (name : HeaderName) (value : Bytes) : Headers :=
  headers ++ [(name, value)]

def remove (headers : Headers) (name : HeaderName) : Headers := headers.filter (·.1 ≠ name)

/-- Makes this the only value of the name. -/
def insert (headers : Headers) (name : HeaderName) (value : Bytes) : Headers :=
  (headers.remove name).append name value

/-- Whether the host works out the values of a name itself. -/
def isComputed (name : HeaderName) : Bool := name = .contentLength

/-- Copies the fields of one name over those that are there: the name loses the values it had. A name that the
host works out itself is not copied. -/
def copyName (new headers : Headers) (name : HeaderName) : Headers :=
  if isComputed name then headers
  else (new.values name).foldl (fun headers value => headers.append name value) (headers.remove name)

/-- Copies the fields of one name after the other. -/
def copyNames (headers new : Headers) (order : List HeaderName) : Headers := order.foldl (copyName new) headers

/-- Copies fields over those that are there. -/
def copyFields (headers new : Headers) : Headers := headers.copyNames new new.names

/-- What copying fields comes to, with the order of the fields aside: those that are replaced go, and the new ones
follow. -/
def overlay (headers new : Headers) : Headers :=
  headers.filter (fun field => isComputed field.1 || !new.has field.1) ++
    new.filter (fun field => !isComputed field.1)

theorem values_append (headers : Headers) (name other : HeaderName) (value : Bytes) :
    (headers.append name value).values other =
      headers.values other ++ if name = other then [value] else [] := by
  by_cases h : name = other <;> simp [append, values, h]

theorem values_remove (headers : Headers) (name other : HeaderName) :
    (headers.remove name).values other = if other = name then [] else headers.values other := by
  unfold remove values
  rw [List.filter_filter]
  by_cases h : other = name
  · simp [h]
  · rw [if_neg h]
    congr 2
    funext field
    by_cases hf : field.1 = other <;> simp [hf, h]

end Headers

end Courier
