/-
  RelayBroker.Address.Parser

  Reading addresses. The grammar is strict: octets are written without leading
  zeros, groups with one to four hexadecimal digits, a double colon stands for at
  least one zero group, and the last two groups may be written as dotted octets.

  Each reader takes what it can from the front of a text and gives the rest.
-/

import RelayBroker.Address

namespace RelayBroker.Address

/-! ## Readers -/

/-- The decimal digits at the front of a text. -/
def spanDecimal (cs : List Char) : List Nat × List Char :=
  Number.spanDigits (fun c => Number.decimalValue? c.toNat) cs

/-- The hexadecimal digits at the front of a text. -/
def spanHex (cs : List Char) : List Nat × List Char :=
  Number.spanDigits (fun c => Number.hexValue? c.toNat) cs

/-- The character `c` at the front of a text. -/
def expect (c : Char) : List Char → Option (List Char)
  | [] => none
  | x :: rest => if x = c then some rest else none

/-- The separator `c`, which the first of several items does without. -/
def separator (c : Char) (first : Bool) (cs : List Char) : Option (List Char) :=
  if first then some cs else expect c cs

/-- An octet: one to three decimal digits without a leading zero. -/
def readOctet (cs : List Char) : Option (UInt8 × List Char) :=
  let (ds, rest) := spanDecimal cs
  let n := Number.ofDigits 10 ds
  if ds = [] ∨ 3 < ds.length ∨ (ds.head? = some 0 ∧ 1 < ds.length) ∨ 255 < n then none
  else some (UInt8.ofNat n, rest)

/-- A group: one to four hexadecimal digits. -/
def readGroup (cs : List Char) : Option (UInt16 × List Char) :=
  let (ds, rest) := spanHex cs
  if ds = [] ∨ 4 < ds.length then none
  else some (UInt16.ofNat (Number.ofDigits 16 ds), rest)

/-- A decimal number of any length that is at most `limit`. -/
def readNumber (limit : Nat) (cs : List Char) : Option (Nat × List Char) :=
  let (ds, rest) := spanDecimal cs
  let n := Number.ofDigits 10 ds
  if ds = [] ∨ limit < n then none else some (n, rest)

/-- Four octets separated by dots. -/
def readDotted (cs : List Char) : Option ((UInt8 × UInt8 × UInt8 × UInt8) × List Char) := do
  let (a, cs) ← readOctet cs
  let (b, cs) ← expect '.' cs >>= readOctet
  let (c, cs) ← expect '.' cs >>= readOctet
  let (d, cs) ← expect '.' cs >>= readOctet
  return ((a, b, c, d), cs)

/-- As many groups as there are, at most `slots`; dotted octets may take the place
of the last two. Also tells whether they did. -/
def readGroups : (slots : Nat) → (first : Bool) → List Char → List UInt16 × Bool × List Char
  | 0, _, cs => ([], false, cs)
  | n + 1, first, cs =>
    let octets := if n = 0 then none else separator ':' first cs >>= readDotted
    match octets with
    | some ((a, b, c, d), rest) => ([group a b, group c d], true, rest)
    | none =>
      match separator ':' first cs >>= readGroup with
      | none => ([], false, cs)
      | some (g, rest) =>
        let (gs, dotted, rest) := readGroups n false rest
        (g :: gs, dotted, rest)

/-- Eight groups as an address. -/
def ofGroups? (groups : List UInt16) : Option Address :=
  if h : groups.length = 8 then some (v6 ⟨groups.toArray, by simpa using h⟩) else none

/-- An IPv6 address: eight groups, or fewer with a double colon in one place. -/
def readV6 (cs : List Char) : Option (Address × List Char) := do
  let (head, dotted, cs) := readGroups 8 true cs
  if head.length = 8 then
    return (← ofGroups? head, cs)
  else if dotted then none
  else
    let cs ← expect ':' cs >>= expect ':'
    -- The double colon takes the place of at least one group.
    let (tail, _, cs) := readGroups (7 - head.length) true cs
    let zeros := List.replicate (8 - head.length - tail.length) 0
    return (← ofGroups? (head ++ zeros ++ tail), cs)

/-- An IPv4 address. -/
def readV4 (cs : List Char) : Option (Address × List Char) := do
  let ((a, b, c, d), cs) ← readDotted cs
  return (v4 a b c d, cs)

/-- What a reader finds in a text that it uses up. -/
def whole? {α : Type} : Option (α × List Char) → Option α
  | some (x, []) => some x
  | _ => none

/-- The address that a text spells. -/
def parse? (s : String) : Option Address :=
  whole? (readV4 s.toList <|> readV6 s.toList)

end RelayBroker.Address
