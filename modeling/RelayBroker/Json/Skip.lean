/-
  RelayBroker.Json.Skip

  Passing over a value that nobody asked for. It has to be a well-formed value, but
  its numbers may be out of range and its texts need not be well-formed UTF-8.
-/

import RelayBroker.Json.Numeral
import RelayBroker.Json.Token

namespace RelayBroker.Json

/-! ## Numbers -/

/-- Passes over an exponent from behind its mark. -/
def skipExponent (cs : Octets) : Except Fault Octets :=
  let cs := match cs with
    | c :: rest => if c = 0x2B ∨ c = 0x2D then rest else cs
    | [] => []
  match spanDecimal cs with
  | ([], _) => .error .invalidNumber
  | (_, rest) => .ok rest

/-- Passes over decimal places from behind the point. -/
def skipFraction (cs : Octets) : Except Fault Octets :=
  match spanDecimal cs with
  | ([], _) => .error .invalidNumber
  | (_, b :: rest) => if isExponentMark b then skipExponent rest else .ok (b :: rest)
  | (_, []) => .ok []

/-- Passes over a number from behind its sign. -/
def skipNumeral (cs : Octets) : Except Fault Octets :=
  match spanDecimal cs with
  | ([], _) => .error .invalidNumber
  | (0 :: _ :: _, _) => .error .invalidNumber
  | (_, b :: rest) =>
    if b = 0x2E then skipFraction rest
    else if isExponentMark b then skipExponent rest
    else .ok (b :: rest)
  | (_, []) => .ok []

/-! ## Values -/

/-- A list or an object that is still open. -/
inductive Bracket where
  | list
  | object
deriving DecidableEq

/-- Passes over a value that is no list and no object, `b` being its first octet. -/
def skipSimple (b : UInt8) (rest : Octets) : Except Fault Octets :=
  if b = 0x6E then readWord [0x75, 0x6C, 0x6C] rest
  else if b = 0x74 then readWord [0x72, 0x75, 0x65] rest
  else if b = 0x66 then readWord [0x61, 0x6C, 0x73, 0x65] rest
  else if b = 0x2D then skipNumeral rest
  else if (Number.decimalValue? b.toNat).isSome then skipNumeral (b :: rest)
  else if b = 0x22 then skipText rest
  else .error .expectedValue

/-- Passes over the name of a member and the colon behind it. -/
def skipName (cs : Octets) : Except Fault Octets :=
  match skipBlanks cs with
  | [] => .error (.ended .object)
  | b :: rest =>
    if b = 0x22 then
      match skipText rest with
      | .error fault => .error fault
      | .ok rest =>
        match skipBlanks rest with
        | [] => .error (.ended .object)
        | c :: rest => if c = 0x3A then .ok rest else .error .expectedColon
    else .error .keyNotText

/-- What stands before the next value inside a bracket: in an object its name. -/
def skipToValue (bracket : Bracket) (cs : Octets) : Except Fault Octets :=
  match bracket with
  | .list => .ok cs
  | .object => skipName cs

/-- The octet that closes a bracket. -/
def Bracket.close : Bracket → UInt8
  | list => 0x5D
  | object => 0x7D

/-- What was being read if the document ends inside a bracket. -/
def Bracket.place : Bracket → Place
  | list => .list
  | object => .object

/-- What is missing if a value inside a bracket is followed by something else. -/
def Bracket.unclosed : Bracket → Fault
  | list => .expectedElementEnd
  | object => .expectedMemberEnd

/-- Passes over a value, or over what follows a value that is complete, up to the end
of the outermost of the open brackets. Every step but the last uses up an octet, so
one step more than there are octets suffices. -/
def skipOpen : (steps : Nat) → (complete : Bool) → List Bracket → Octets → Except Fault Octets
  | 0, _, _, _ => .error (.ended .value)
  | _ + 1, true, [], cs => .ok cs
  | n + 1, true, bracket :: enclosing, cs =>
    match skipBlanks cs with
    | [] => .error (.ended bracket.place)
    | b :: rest =>
      if b = 0x2C then
        match skipToValue bracket rest with
        | .error fault => .error fault
        | .ok rest => skipOpen n false (bracket :: enclosing) rest
      else if b = bracket.close then skipOpen n true enclosing rest
      else .error bracket.unclosed
  | n + 1, false, brackets, cs =>
    match skipBlanks cs with
    | [] => .error (.ended .value)
    | b :: rest =>
      let opened (bracket : Bracket) : Except Fault Octets :=
        match skipBlanks rest with
        | [] => .error (.ended bracket.place)
        | c :: after =>
          if c = bracket.close then skipOpen n true brackets after
          else match skipToValue bracket rest with
            | .error fault => .error fault
            | .ok rest => skipOpen n false (bracket :: brackets) rest
      if b = 0x5B then opened .list
      else if b = 0x7B then opened .object
      else match skipSimple b rest with
        | .error fault => .error fault
        | .ok rest => skipOpen n true brackets rest

/-- Passes over one value of at most `bound` octets, blanks and all that follows it
included. -/
def skipValue (bound : Nat) (cs : Octets) : Except Fault Octets :=
  skipOpen (bound + 1) false [] cs

end RelayBroker.Json
