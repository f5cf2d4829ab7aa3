/-!
# Byte strings

A byte string is a list of bytes, so that what a sink has received can be compared with what a body
holds by plain list equations.
-/

namespace Courier

abbrev Bytes := List UInt8

namespace Bytes

/-- The UTF-8 form of a text. -/
def ofString (text : String) : Bytes := text.toUTF8.toList

/-- The text whose UTF-8 form this is, if there is one. -/
def toString? (bytes : Bytes) : Option String := String.fromUTF8? ⟨bytes.toArray⟩

/-- The consecutive pieces of at most `limit` bytes. With a limit of zero nothing gets on: there is one piece,
and no byte in it. -/
def pieces (limit : Nat) (bytes : Bytes) : List Bytes :=
  if bytes = [] then []
  else if limit = 0 then [[]]
  else bytes.take limit :: pieces limit (bytes.drop limit)
termination_by bytes.length
decreasing_by
  have := List.length_pos_iff.2 ‹bytes ≠ []›
  simp only [List.length_drop]
  omega

end Bytes

end Courier
