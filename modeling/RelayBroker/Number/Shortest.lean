/-
  RelayBroker.Number.Shortest

  The shortest decimal number that reads back as a given floating point number:
  the fewest digits among the decimals that round to it, and of those the
  nearest. Floating point numbers appear in error messages only.
-/

import RelayBroker.Number.Binary64

namespace RelayBroker.Number

/-- The number `digits * 10 ^ exponent`. -/
structure Decimal where
  digits : Nat
  exponent : Int
deriving DecidableEq, Repr

namespace Shortest

/-- `x * 2 ^ p * 10 ^ q` as a ratio of natural numbers. -/
def scaled (x : Nat) (p q : Int) : Nat × Nat :=
  (x * twoTo p.toNat * tenTo q.toNat, twoTo (-p).toNat * tenTo (-q).toNat)

/-- Whether the ratio `a` is less than the ratio `b`. -/
def less (a b : Nat × Nat) : Bool :=
  a.1 * b.2 < b.1 * a.2

/-- How many decimal digits a natural number has. -/
def width (n : Nat) : Nat :=
  (Nat.toDigits 10 n).length

/-- The power of ten of the first digit of the positive ratio `r`. -/
def leadingPower (r : Nat × Nat) : Int :=
  if r.2 ≤ r.1 then (width (r.1 / r.2) : Int) - 1
  else
    let j := width (r.2 / r.1) - 1
    if r.2 ≤ r.1 * tenTo j then -(j : Int) else -((j : Int) + 1)

/-- Whether `n * 10 ^ g` rounds to `x`: it lies between the midpoints to the two
neighbours of `x`, the midpoints included where the mantissa is even. -/
def roundsTo (x : Binary64) (n : Nat) (g : Int) : Bool :=
  let below := if x.mantissa = twoTo 52 ∧ Binary64.minExponent < x.exponent then 1 else 2
  let low := scaled (4 * x.mantissa - below) (x.exponent - 2) 0
  let high := scaled (4 * x.mantissa + 2) (x.exponent - 2) 0
  let d := scaled n 0 g
  if x.mantissa % 2 = 0 then !less d low && !less high d else less low d && less d high

/-- The nearest multiple of `10 ^ g` that rounds to `x`, if any does. -/
def onGrid? (x : Binary64) (g : Int) : Option Decimal :=
  let (a, b) := scaled x.mantissa x.exponent (-g)
  let floor := a / b
  match roundsTo x floor g, roundsTo x (floor + 1) g with
  | true, false => some ⟨floor, g⟩
  | false, true => some ⟨floor + 1, g⟩
  | true, true => some ⟨Binary64.divideEven a b, g⟩
  | false, false => none

/-- Without the zeros at its end. -/
def stripZeros : Nat → Decimal → Decimal
  | 0, d => d
  | fuel + 1, d =>
    if d.digits ≠ 0 ∧ d.digits % 10 = 0 then stripZeros fuel ⟨d.digits / 10, d.exponent + 1⟩ else d

end Shortest

open Shortest in
/-- The shortest decimal that rounds to a number, without zeros at its end.
Seventeen digits always suffice. -/
def Binary64.shortest (x : Binary64) : Decimal :=
  if x.mantissa = 0 then ⟨0, 0⟩
  else
    let first := leadingPower x.ratio
    let found := (List.range 17).findSome? fun (k : Nat) => onGrid? x (first - (k : Int))
    stripZeros 20 (found.getD ⟨x.mantissa, x.exponent⟩)

/-! ## The text of a number -/

/-- Zeros, `n` of them. -/
def zeros (n : Nat) : List Char :=
  List.replicate n '0'

/-- The text of a nonnegative floating point number: positional from 0.00001 to
below 10^16 and always with a point, otherwise one digit before the point and an
exponent with its sign. -/
def Binary64.text (x : Binary64) : String :=
  let d := x.shortest
  let ds := Nat.toDigits 10 d.digits
  let lead : Int := d.exponent + (ds.length : Int) - 1
  String.ofList <|
    if 0 ≤ d.exponent ∧ lead ≤ 15 then ds ++ zeros d.exponent.toNat ++ ['.', '0']
    else if 0 ≤ lead ∧ lead ≤ 15 then
      let whole := lead.toNat + 1
      ds.take whole ++ '.' :: ds.drop whole
    else if -5 ≤ lead ∧ lead < 0 then '0' :: '.' :: zeros ((-lead).toNat - 1) ++ ds
    else
      let mantissa := match ds with
        | [] => []
        | [c] => [c]
        | c :: rest => c :: '.' :: rest
      mantissa ++ ['e', if lead < 0 then '-' else '+'] ++ Nat.toDigits 10 lead.natAbs

end RelayBroker.Number
