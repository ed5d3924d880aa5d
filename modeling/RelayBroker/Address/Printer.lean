/-
  RelayBroker.Address.Printer

  The text of an address: dotted octets, or groups in lower-case hexadecimal in
  which the longest run of two or more zero groups, the first of equally long
  ones, is left out. A wrapped IPv4 address keeps its dots.
-/

import RelayBroker.Address

namespace RelayBroker.Address

/-- Octets separated by dots. -/
def dotted (a b c d : UInt8) : List Char :=
  let digits (n : UInt8) := Nat.toDigits 10 n.toNat
  digits a ++ '.' :: digits b ++ '.' :: digits c ++ '.' :: digits d

/-- Groups separated by colons. -/
def colonSeparated (groups : List UInt16) : List Char :=
  [':'].intercalate (groups.map fun g => Nat.toDigits 16 g.toNat)

/-- Start and length of the longest run of zero groups, the first of equally long
ones. -/
def zeroRun (groups : List UInt16) : Nat × Nat :=
  (List.range groups.length).foldl (fun best i =>
    let length := ((groups.drop i).takeWhile fun g => g = 0).length
    if best.2 < length then (i, length) else best) (0, 0)

/-- The text of eight groups. -/
def groupsText (groups : List UInt16) : List Char :=
  match wrapped? groups with
  | some (v4 a b c d) => "::ffff:".toList ++ dotted a b c d
  | _ =>
    let (start, length) := zeroRun groups
    if 1 < length then
      colonSeparated (groups.take start) ++ [':', ':'] ++
        colonSeparated (groups.drop (start + length))
    else colonSeparated groups

/-- The text of an address. -/
def text : Address → String
  | v4 a b c d => String.ofList (dotted a b c d)
  | v6 groups => String.ofList (groupsText groups.toList)

end RelayBroker.Address
