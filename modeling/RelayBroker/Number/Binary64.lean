/-
  RelayBroker.Number.Binary64

  Nonnegative floating point numbers of 64 bits in exact arithmetic: a mantissa
  below 2^53 times a power of two. A result that is no such number is rounded to
  the nearest one, and of two to the one with the even mantissa.
-/

import RelayBroker.Number.Natural

namespace RelayBroker.Number

/-- The number `mantissa * 2 ^ exponent`. -/
structure Binary64 where
  mantissa : Nat
  exponent : Int
deriving DecidableEq, Repr

namespace Binary64

/-- The least exponent. -/
def minExponent : Int := -1074

/-- The greatest exponent. -/
def maxExponent : Int := 971

def zero : Binary64 := ⟨0, minExponent⟩

/-- The number as a ratio of natural numbers. -/
def ratio (x : Binary64) : Nat × Nat :=
  if 0 ≤ x.exponent then (x.mantissa * twoTo x.exponent.toNat, 1)
  else (x.mantissa, twoTo (-x.exponent).toNat)

/-- The quotient of two natural numbers rounded to the nearest one, a half to the
even one. -/
def divideEven (num den : Nat) : Nat :=
  let q := num / den
  let twice := 2 * (num % den)
  if twice < den then q
  else if den < twice then q + 1
  else if q % 2 = 0 then q else q + 1

/-- `num / den / 2 ^ e` as a ratio. -/
def shifted (num den : Nat) (e : Int) : Nat × Nat :=
  if 0 ≤ e then (num, den * twoTo e.toNat) else (num * twoTo (-e).toNat, den)

/-- The number nearest to `num / den`; none if that lies beyond the greatest. -/
def ofRatio? (num den : Nat) : Option Binary64 :=
  if num = 0 then some zero
  else
    let guess := (Nat.log2 num : Int) - (Nat.log2 den : Int) - 53
    let first := max guess minExponent
    let (a, b) := shifted num den first
    let e := if twoTo 53 ≤ a / b then first + 1 else first
    let (a, b) := shifted num den e
    let m := divideEven a b
    let (m, e) := if m = twoTo 53 then (twoTo 52, e + 1) else (m, e)
    if maxExponent < e then none else some ⟨m, e⟩

/-- The number nearest to a natural number. -/
def ofNat? (n : Nat) : Option Binary64 :=
  ofRatio? n 1

/-- The product, rounded; none if it lies beyond the greatest number. -/
def mul? (x y : Binary64) : Option Binary64 :=
  ofRatio? (x.ratio.1 * y.ratio.1) (x.ratio.2 * y.ratio.2)

/-- The quotient by a number other than zero, rounded; none if it lies beyond the
greatest number. -/
def div? (x y : Binary64) : Option Binary64 :=
  ofRatio? (x.ratio.1 * y.ratio.2) (x.ratio.2 * y.ratio.1)

end Binary64

end RelayBroker.Number
