/-
  RelayBroker.Bridge.Fingerprint

  The fingerprint of a bridge: twenty octets, written as forty hexadecimal digits
  of either case and printed with capitals.
-/

import RelayBroker.Error
import RelayBroker.Number.Natural
import RelayBroker.Text.Blank
import RelayBroker.Text.Quoted
import RelayBroker.Text.Utf8

namespace RelayBroker

/-- The identity of a bridge. -/
structure Fingerprint where
  octets : Vector UInt8 20
deriving DecidableEq, Repr

namespace Fingerprint

/-! ## Reading -/

/-- Why a text is no fingerprint. -/
inductive Fault where
  | oddLength
  | notADigit (octet : UInt8) (position : Nat)
  | wrongSize (size : Nat)
deriving DecidableEq, Repr

/-- The text that tells the fault. -/
def Fault.message : Fault → String
  | oddLength => "fingerprint is not hex: Odd number of digits"
  | notADigit octet position =>
    "fingerprint is not hex: Invalid character " ++
      Text.quotedChar (Char.ofNat octet.toNat) ++ " at position " ++ toString position
  | wrongSize size => "fingerprint must be 20 bytes, got " ++ toString size

/-- The value of the digit at a position. -/
def digit (octet : UInt8) (position : Nat) : Except Fault Nat :=
  match Number.hexValue? octet.toNat with
  | some d => .ok d
  | none => .error (.notADigit octet position)

/-- The octets that pairs of digits spell, the first digit being at `position`. -/
def readPairs (position : Nat) : Octets → Except Fault Octets
  | high :: low :: rest => do
    let h ← digit high position
    let l ← digit low (position + 1)
    let tail ← readPairs (position + 2) rest
    return UInt8.ofNat (h * 16 + l) :: tail
  | _ => .ok []

/-- The fingerprint that a text spells, blanks around it aside. -/
def read (s : String) : Except Fault Fingerprint := do
  let digits := Text.utf8 (Text.trim s)
  if digits.length % 2 = 1 then throw .oddLength
  let octets ← readPairs 0 digits
  if h : octets.length = 20 then
    return ⟨⟨octets.toArray, by simpa using h⟩⟩
  else throw (.wrongSize octets.length)

/-- Reads a fingerprint that a participant sent. -/
def parse (s : String) : Except BrokerError Fingerprint :=
  (read s).mapError fun fault => .badRequest fault.message

/-! ## Printing -/

/-- The capital hexadecimal digit of a number below 16. -/
def digitChar (n : Nat) : Char :=
  (Nat.digitChar n).toUpper

/-- The forty digits of a fingerprint. -/
def text (f : Fingerprint) : String :=
  String.ofList <| f.octets.toList.flatMap fun b =>
    [digitChar (b.toNat / 16), digitChar (b.toNat % 16)]

end Fingerprint

end RelayBroker
