/-
  RelayBroker.Address

  Host addresses. A host has one address of either family; an IPv6 address that
  merely wraps an IPv4 address stands for the latter once it is made canonical.
-/

import RelayBroker.Number.Natural

namespace RelayBroker

/-- The address of a host: four octets, or eight groups of 16 bits. -/
inductive Address where
  | v4 (a b c d : UInt8)
  | v6 (groups : Vector UInt16 8)
deriving DecidableEq, Repr

namespace Address

instance : Inhabited Address := ⟨v4 0 0 0 0⟩

/-- Whether the address is of the IPv6 family. -/
def isV6 : Address → Bool
  | v4 .. => false
  | v6 _ => true

/-! ## Wrapped IPv4 addresses -/

/-- The two octets of a group. -/
def octets (g : UInt16) : UInt8 × UInt8 :=
  (UInt8.ofNat (g.toNat / 256), UInt8.ofNat (g.toNat % 256))

/-- The group of two octets. -/
def group (high low : UInt8) : UInt16 :=
  UInt16.ofNat (high.toNat * 256 + low.toNat)

/-- The IPv4 address that eight groups wrap: five zero groups, a group of ones, and
the address in the last two. -/
def wrapped? (groups : List UInt16) : Option Address :=
  match groups with
  | [g0, g1, g2, g3, g4, g5, high, low] =>
    if g0 = 0 ∧ g1 = 0 ∧ g2 = 0 ∧ g3 = 0 ∧ g4 = 0 ∧ g5 = 0xFFFF then
      let (a, b) := octets high
      let (c, d) := octets low
      some (v4 a b c d)
    else none
  | _ => none

/-- The address under which a host is known: a wrapped IPv4 address is unwrapped. -/
def canonical : Address → Address
  | v4 a b c d => v4 a b c d
  | v6 groups => (wrapped? groups.toList).getD (v6 groups)

/-! ## Order -/

/-- The place of an address among all addresses: the IPv4 addresses come first, and
within a family the number that the address spells decides. -/
def rank : Address → Nat
  | v4 a b c d => Number.ofDigits 256 [a.toNat, b.toNat, c.toNat, d.toNat]
  | v6 groups => Number.twoTo 32 + Number.ofDigits 65536 (groups.toList.map UInt16.toNat)

end Address

end RelayBroker
