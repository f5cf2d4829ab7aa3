/-!
# Classes of characters

A class of characters is a list of ranges of code points, from the lowest to the highest.
-/

namespace Courier.Text

/-- Ranges of code points, each given by its first and its last one. -/
abbrev Ranges := List (Nat × Nat)

namespace Ranges

def has (ranges : Ranges) (c : Char) : Bool :=
  ranges.any fun (first, last) => first ≤ c.toNat && c.toNat ≤ last

end Ranges

end Courier.Text
