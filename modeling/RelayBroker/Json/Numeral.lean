/-
  RelayBroker.Json.Numeral

  Reading numbers. The leading digits that fit in 64 bits are taken as they are;
  a number with a point, an exponent or more digits is scaled by powers of ten in
  floating point arithmetic, each step rounded.
-/

import RelayBroker.Json.Fault
import RelayBroker.Number.Natural
import RelayBroker.Text.Utf8

namespace RelayBroker.Json

open Number

/-- The decimal digits at the front, and what follows them. -/
def spanDecimal (cs : Octets) : List Nat × Octets :=
  spanDigits (fun b => decimalValue? b.toNat) cs

/-- Whether an octet is the letter that introduces an exponent. -/
def isExponentMark (b : UInt8) : Bool :=
  b = 0x65 || b = 0x45

/-! ## Scaling -/

/-- Ten to the power `k`, rounded. -/
def tenPower (k : Nat) : Binary64 :=
  (Binary64.ofNat? (tenTo k)).getD Binary64.zero

/-- `x * 10 ^ e`. Powers up to 10^308 are applied at once; greater ones exceed the
range, and lesser ones are applied in steps, three of which leave nothing. -/
def scale : (steps : Nat) → Binary64 → Int → Except Fault Binary64
  | steps, x, e =>
    if e.natAbs ≤ 308 then
      let power := tenPower e.natAbs
      match if 0 ≤ e then x.mul? power else x.div? power with
      | some y => .ok y
      | none => .error .numberOutOfRange
    else if x.mantissa = 0 then .ok x
    else if 0 ≤ e then .error .numberOutOfRange
    else match steps with
      | 0 => .ok Binary64.zero
      | n + 1 => scale n ((x.div? (tenPower 308)).getD Binary64.zero) (e + 308)

/-- The floating point number `digits * 10 ^ e`. -/
def floating (digits : Nat) (e : Int) : Except Fault Binary64 :=
  scale 3 ((Binary64.ofNat? digits).getD Binary64.zero) e

/-! ## Reading -/

/-- Appends digits to a number while it fits in 64 bits; gives the number and how
many digits are left over. -/
def takeDigits : Nat → List Nat → Nat × Nat
  | n, [] => (n, 0)
  | n, d :: ds => if max64 < n * 10 + d then (n, ds.length + 1) else takeDigits (n * 10 + d) ds

/-- Reads an exponent from behind its mark and scales. An exponent beyond 31 bits
yields zero, or exceeds the range. -/
def readExponent (digits : Nat) (e : Int) (cs : Octets) : Except Fault (Binary64 × Octets) :=
  let (minus, cs) := match cs with
    | 0x2B :: rest => (false, rest)
    | 0x2D :: rest => (true, rest)
    | _ => (false, cs)
  match spanDecimal cs with
  | ([], []) => .error (.ended .value)
  | ([], _ :: _) => .error .invalidNumber
  | (ds, rest) =>
    let power := ofDigits 10 ds
    if twoTo 31 ≤ power then
      if digits ≠ 0 ∧ !minus then .error .numberOutOfRange else .ok (Binary64.zero, rest)
    else (floating digits (if minus then e - power else e + power)).map fun x => (x, rest)

/-- Reads the decimal places from behind the point, then an exponent if there is
one. -/
def readFraction (digits : Nat) (e : Int) (cs : Octets) : Except Fault (Binary64 × Octets) :=
  match spanDecimal cs with
  | ([], []) => .error (.ended .value)
  | ([], _ :: _) => .error .invalidNumber
  | (ds, rest) =>
    let (digits, left) := takeDigits digits ds
    let e := e - ((ds.length - left : Nat) : Int)
    match rest with
    | b :: after =>
      if isExponentMark b then readExponent digits e after
      else (floating digits e).map fun x => (x, rest)
    | [] => (floating digits e).map fun x => (x, rest)

/-- A whole number of 64 bits with its sign. Minus zero, and what lies below the
least number of 64 bits, is a floating point number. -/
def whole (minus : Bool) (n : Nat) : Numeral :=
  if !minus then .natural n
  else if n = 0 ∨ twoTo 63 < n then .float true ((Binary64.ofNat? n).getD Binary64.zero)
  else .negative n

/-- Reads a number from behind its sign. -/
def readNumeral (minus : Bool) (cs : Octets) : Except Fault (Numeral × Octets) :=
  let withSign (r : Except Fault (Binary64 × Octets)) : Except Fault (Numeral × Octets) :=
    r.map fun (x, rest) => (.float minus x, rest)
  match spanDecimal cs with
  | ([], []) => .error (.ended .value)
  | ([], _ :: _) => .error .invalidNumber
  | (0 :: _ :: _, _) => .error .invalidNumber
  | (ds, rest) =>
    let (digits, left) := takeDigits 0 ds
    let plain : Except Fault (Numeral × Octets) :=
      if left = 0 then .ok (whole minus digits, rest)
      else withSign ((floating digits left).map fun x => (x, rest))
    match rest with
    | b :: after =>
      if b = 0x2E then withSign (readFraction digits left after)
      else if isExponentMark b then withSign (readExponent digits left after)
      else plain
    | [] => plain

end RelayBroker.Json
