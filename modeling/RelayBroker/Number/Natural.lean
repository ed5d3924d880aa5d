/-
  RelayBroker.Number.Natural

  Natural numbers in decimal and hexadecimal digits, and the bounded numbers of
  the settings.
-/

namespace RelayBroker.Number

/-! ## Digits -/

/-- The value of a decimal digit, given as the code of its character. -/
def decimalValue? (code : Nat) : Option Nat :=
  if 0x30 ≤ code ∧ code ≤ 0x39 then some (code - 0x30) else none

/-- The value of a hexadecimal digit of either case, given as the code of its
character. -/
def hexValue? (code : Nat) : Option Nat :=
  if 0x30 ≤ code ∧ code ≤ 0x39 then some (code - 0x30)
  else if 0x41 ≤ code ∧ code ≤ 0x46 then some (code - 0x41 + 10)
  else if 0x61 ≤ code ∧ code ≤ 0x66 then some (code - 0x61 + 10)
  else none

/-- The digits at the front of a list, by their values, and what follows them. -/
def spanDigits {α : Type} (value? : α → Option Nat) (cs : List α) : List Nat × List α :=
  let isDigit (c : α) : Bool := (value? c).isSome
  ((cs.takeWhile isDigit).filterMap value?, cs.dropWhile isDigit)

/-- The number that digits in base `base` stand for, most significant first. -/
def ofDigits (base : Nat) (digits : List Nat) : Nat :=
  digits.foldl (fun n d => n * base + d) 0

/-! ## Powers -/

/-- Two to the power `k`. -/
def twoTo (k : Nat) : Nat :=
  Nat.pow 2 k

/-- Ten to the power `k`. -/
def tenTo (k : Nat) : Nat :=
  Nat.pow 10 k

/-! ## Bounded numbers -/

/-- The number written by one or more decimal digits, none if other characters
occur. -/
def ofDecimal? (cs : List Char) : Option Nat :=
  if cs.isEmpty then none
  else (cs.mapM fun c => decimalValue? c.toNat).map (ofDigits 10)

/-- The number written by decimal digits, after a plus sign or none, if it is at
most `limit`. -/
def bounded? (limit : Nat) (s : String) : Option Nat :=
  let digits := match s.toList with
    | '+' :: rest => rest
    | cs => cs
  (ofDecimal? digits).filter (· ≤ limit)

/-- The greatest number of 16 bits. -/
def max16 : Nat := 65535

/-- The greatest number of 32 bits. -/
def max32 : Nat := 4294967295

/-- The greatest number of 64 bits. -/
def max64 : Nat := 18446744073709551615

end RelayBroker.Number
