import Courier.Address
import Courier.Text.Number

/-!
# Reading socket addresses

The readers take an address off the front of a text and return what follows it;
`SocketAddress.parse?` accepts a text that is an address and nothing else. Octets have no leading
zeros, groups have at most four digits, and ports and scopes may have any number of leading zeros.
-/

namespace Courier

open Text (NumberForm)

/-- Takes one given character off the front. -/
def takeChar? (c : Char) : List Char → Option (List Char)
  | d :: rest => if c = d then some rest else none
  | [] => none

/-- The number of an octet. -/
def octetForm : NumberForm := { most := some 3, leadingZeros := false, bound := 0x100 }
/-- The number of a group of version 6. -/
def groupForm : NumberForm := { base := 16, most := some 4, bound := 0x10000 }
def portForm : NumberForm := { bound := 0x10000 }
def scopeForm : NumberForm := { bound := 0x100000000 }

def Ipv4.read? (text : List Char) : Option (Ipv4 × List Char) := do
  let (a, text) ← octetForm.read? text
  let (b, text) ← octetForm.read? (← takeChar? '.' text)
  let (c, text) ← octetForm.read? (← takeChar? '.' text)
  let (d, text) ← octetForm.read? (← takeChar? '.' text)
  some (⟨.ofNat a, .ofNat b, .ofNat c, .ofNat d⟩, text)

namespace Ipv6

/-- What `readGroups` found: the groups, whether the last two were written in the form of version 4,
and the rest of the text. -/
structure Groups where
  groups : List UInt16
  embedded : Bool
  rest : List Char

/-- Reads groups separated by colons, as many as there are but at most `room`. The last two may be
written in the form of version 4. `leads` says that no colon comes before the first group. -/
def readGroups : (room : Nat) → (leads : Bool) → List Char → Groups
  | 0, _, text => ⟨[], false, text⟩
  | room + 1, leads, text =>
    let start := if leads then some text else takeChar? ':' text
    match if 0 < room then start.bind Ipv4.read? else none with
    | some (ip, rest) => ⟨ip.toGroups, true, rest⟩
    | none =>
      match start.bind groupForm.read? with
      | some (group, rest) =>
        let tail := readGroups room false rest
        ⟨.ofNat group :: tail.groups, tail.embedded, tail.rest⟩
      | none => ⟨[], false, text⟩

/-- Reads eight groups, or fewer with `::` standing for the missing ones, of which there is at least
one. The form of version 4 may only end the address. -/
def read? (text : List Char) : Option (Ipv6 × List Char) := do
  let head := readGroups 8 true text
  if head.groups.length = 8 then
    return (← ofGroups? head.groups, head.rest)
  guard !head.embedded
  let rest ← takeChar? ':' head.rest
  let rest ← takeChar? ':' rest
  let tail := readGroups (7 - head.groups.length) true rest
  let zeros := List.replicate (8 - head.groups.length - tail.groups.length) 0
  return (← ofGroups? (head.groups ++ zeros ++ tail.groups), tail.rest)

end Ipv6

namespace SocketAddress

def readPort? (text : List Char) : Option (UInt16 × List Char) := do
  let (port, rest) ← portForm.read? (← takeChar? ':' text)
  some (.ofNat port, rest)

/-- Reads the scope, if one is written. -/
def readScope (text : List Char) : UInt32 × List Char :=
  match (takeChar? '%' text).bind scopeForm.read? with
  | some (scope, rest) => (.ofNat scope, rest)
  | none => (0, text)

def readV4? (text : List Char) : Option (SocketAddress × List Char) := do
  let (ip, text) ← Ipv4.read? text
  let (port, text) ← readPort? text
  some (.v4 ip port, text)

def readV6? (text : List Char) : Option (SocketAddress × List Char) := do
  let (ip, text) ← Ipv6.read? (← takeChar? '[' text)
  let (scope, text) := readScope text
  let (port, text) ← readPort? (← takeChar? ']' text)
  some (.v6 ip scope port, text)

/-- The address that the whole text stands for. -/
def parse? (text : List Char) : Option SocketAddress :=
  match (readV4? text).or (readV6? text) with
  | some (address, []) => some address
  | _ => none

end SocketAddress

end Courier
