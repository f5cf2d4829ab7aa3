/-!
# Tokens

The words of HTTP: method names and header names are tokens, runs of visible ASCII characters without
separators.
-/

namespace Courier

/-- Letters, digits and fifteen marks. -/
def isTokenChar (c : Char) : Bool :=
  c.isAlphanum || "!#$%&'*+-.^_|~".toList.contains c || c.toNat = 0x60

def isToken (chars : List Char) : Bool := !chars.isEmpty && chars.all isTokenChar

end Courier
