/-!
# Socket addresses

An address of the internet protocol together with a port. An address of version 6 may carry a scope,
the number of the network interface that it belongs to; scope zero is none.
-/

namespace Courier

/-- An address of version 4: four octets, most significant first. -/
structure Ipv4 where
  a : UInt8
  b : UInt8
  c : UInt8
  d : UInt8
deriving DecidableEq, Repr

/-- An address of version 6: eight groups of 16 bits, most significant first. -/
structure Ipv6 where
  groups : List UInt16
  length_eq : groups.length = 8
deriving DecidableEq, Repr

inductive SocketAddress
  | v4 (ip : Ipv4) (port : UInt16)
  | v6 (ip : Ipv6) (scope : UInt32) (port : UInt16)
deriving DecidableEq, Repr

namespace Ipv4

/-- The address written as two groups of version 6. -/
def toGroups (ip : Ipv4) : List UInt16 :=
  [UInt16.ofNat (ip.a.toNat * 256 + ip.b.toNat), UInt16.ofNat (ip.c.toNat * 256 + ip.d.toNat)]

/-- The address that two groups of version 6 stand for. -/
def ofGroups (high low : UInt16) : Ipv4 :=
  ⟨UInt8.ofNat (high.toNat / 256), UInt8.ofNat (high.toNat % 256),
    UInt8.ofNat (low.toNat / 256), UInt8.ofNat (low.toNat % 256)⟩

/-- Whether the address belongs to the machine itself. -/
def isLoopback (ip : Ipv4) : Bool := ip.a = 127

end Ipv4

namespace Ipv6

/-- The address with the given groups, if there are eight. -/
def ofGroups? (groups : List UInt16) : Option Ipv6 :=
  if h : groups.length = 8 then some ⟨groups, h⟩ else none

/-- The address of version 4 inside an address of the block `::ffff:0:0/96`. -/
def mapped? (ip : Ipv6) : Option Ipv4 :=
  match ip.groups with
  | [0, 0, 0, 0, 0, 0xffff, high, low] => some (Ipv4.ofGroups high low)
  | _ => none

/-- Whether the address belongs to the machine itself. -/
def isLoopback (ip : Ipv6) : Bool := ip.groups = [0, 0, 0, 0, 0, 0, 0, 1]

end Ipv6

namespace SocketAddress

def port : SocketAddress → UInt16
  | v4 _ port => port
  | v6 _ _ port => port

def isLoopback : SocketAddress → Bool
  | v4 ip _ => ip.isLoopback
  | v6 ip _ _ => ip.isLoopback

end SocketAddress

end Courier
