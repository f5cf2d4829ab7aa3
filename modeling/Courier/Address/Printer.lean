import Courier.Address
import Courier.Text.Number

/-!
# Writing socket addresses

`127.0.0.1:80` and `[fe80::1%2]:80`. In an address of version 6 the first of the longest runs of
zero groups is written as `::`, if it has two groups or more, and an address that maps one of
version 4 ends in that one's own form.
-/

namespace Courier

open Text (digitsOf)

def Ipv4.print (ip : Ipv4) : List Char :=
  digitsOf 10 ip.a.toNat ++ '.' :: digitsOf 10 ip.b.toNat ++
    '.' :: digitsOf 10 ip.c.toNat ++ '.' :: digitsOf 10 ip.d.toNat

namespace Ipv6

/-- How many zero groups the list begins with. -/
def zerosAhead (groups : List UInt16) : Nat := (groups.takeWhile (· = 0)).length

/-- Position and length of the first of the longest runs of zero groups. -/
def longestZeros (groups : List UInt16) : Nat × Nat :=
  (List.range groups.length).foldl
    (fun best start =>
      let length := zerosAhead (groups.drop start)
      if best.2 < length then (start, length) else best)
    (0, 0)

/-- Groups separated by colons. -/
def printGroups : List UInt16 → List Char
  | [] => []
  | [group] => digitsOf 16 group.toNat
  | group :: rest => digitsOf 16 group.toNat ++ ':' :: printGroups rest

def print (ip : Ipv6) : List Char :=
  match ip.mapped? with
  | some v4 => "::ffff:".toList ++ v4.print
  | none =>
    let (start, length) := longestZeros ip.groups
    if 1 < length then
      printGroups (ip.groups.take start) ++ ':' :: ':' ::
        printGroups (ip.groups.drop (start + length))
    else printGroups ip.groups

end Ipv6

namespace SocketAddress

def print : SocketAddress → List Char
  | v4 ip port => ip.print ++ ':' :: digitsOf 10 port.toNat
  | v6 ip scope port =>
    let zone := if scope = 0 then [] else '%' :: digitsOf 10 scope.toNat
    '[' :: ip.print ++ zone ++ ']' :: ':' :: digitsOf 10 port.toNat

instance : ToString SocketAddress := ⟨fun address => String.ofList address.print⟩

end SocketAddress

end Courier
