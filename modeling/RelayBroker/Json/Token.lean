/-
  RelayBroker.Json.Token

  Blanks, words and texts of a JSON document. A text is read as octets, its escapes
  resolved, and has to be well-formed UTF-8 only if it is used.
-/

import RelayBroker.Json.Fault
import RelayBroker.Number.Natural
import RelayBroker.Text.Utf8

namespace RelayBroker.Json

/-! ## Blanks and words -/

/-- Space, tab, line feed and carriage return. -/
def isBlank (b : UInt8) : Bool :=
  b = 0x20 || b = 0x09 || b = 0x0A || b = 0x0D

/-- What follows the blanks at the front. -/
def skipBlanks (cs : Octets) : Octets :=
  cs.dropWhile isBlank

/-- Reads the rest of one of the words `null`, `true` and `false`. -/
def readWord : (word : Octets) → Octets → Except Fault Octets
  | [], cs => .ok cs
  | _ :: _, [] => .error (.ended .value)
  | w :: word, c :: cs => if c = w then readWord word cs else .error .expectedWord

/-! ## Texts -/

/-- The value of four hexadecimal digits. -/
def hex4? (a b c d : UInt8) : Option Nat :=
  ([a, b, c, d].mapM fun (x : UInt8) => Number.hexValue? x.toNat).map (Number.ofDigits 16)

/-- The character that a backslash and one more octet stand for. -/
def simpleEscape? (b : UInt8) : Option UInt8 :=
  if b = 0x22 ∨ b = 0x5C ∨ b = 0x2F then some b
  else if b = 0x62 then some 0x08
  else if b = 0x66 then some 0x0C
  else if b = 0x6E then some 0x0A
  else if b = 0x72 then some 0x0D
  else if b = 0x74 then some 0x09
  else none

/-- The octets of the character with a code, the last one first. -/
def codeOctets (code : Nat) : Octets :=
  (Text.utf8 (String.singleton (Char.ofNat code))).reverse

/-- Whether a code unit is the first of a surrogate pair. -/
def isLeading (unit : Nat) : Bool :=
  0xD800 ≤ unit && unit ≤ 0xDBFF

/-- Whether a code unit is the second of a surrogate pair. -/
def isTrailing (unit : Nat) : Bool :=
  0xDC00 ≤ unit && unit ≤ 0xDFFF

/-- The code of the character that two surrogates stand for. -/
def pairCode (leading trailing : Nat) : Nat :=
  (leading - 0xD800) * 0x400 + (trailing - 0xDC00) + 0x10000

/-- Reads a text from behind its opening quote, given the octets so far, the last
one first. A character above the basic plane is escaped as two surrogates. -/
def readOctets (read : Octets) : Octets → Except Fault (Octets × Octets)
  | [] => .error (.ended .text)
  | x :: rest =>
    if x = 0x22 then .ok (read.reverse, rest)
    else if x = 0x5C then
      match rest with
      | [] => .error (.ended .text)
      | y :: rest =>
        if y = 0x75 then
          match rest with
          | a :: b :: c :: d :: rest =>
            match hex4? a b c d with
            | none => .error .invalidEscape
            | some unit =>
              if isTrailing unit then .error .loneSurrogate
              else if isLeading unit then
                match rest with
                | [] => .error (.ended .text)
                | [z] => if z = 0x5C then .error (.ended .text) else .error .endOfSurrogates
                | z :: u :: rest =>
                  if z = 0x5C ∧ u = 0x75 then
                    match rest with
                    | a :: b :: c :: d :: rest =>
                      match hex4? a b c d with
                      | none => .error .invalidEscape
                      | some second =>
                        if isTrailing second then
                          readOctets (codeOctets (pairCode unit second) ++ read) rest
                        else .error .loneSurrogate
                    | _ => .error (.ended .text)
                  else .error .endOfSurrogates
              else readOctets (codeOctets unit ++ read) rest
          | _ => .error (.ended .text)
        else
          match simpleEscape? y with
          | some c => readOctets (c :: read) rest
          | none => .error .invalidEscape
    else if x < 0x20 then .error .controlCharacter
    else readOctets (x :: read) rest

/-- Reads a text from behind its opening quote. -/
def readText (cs : Octets) : Except Fault (String × Octets) :=
  match readOctets [] cs with
  | .error fault => .error fault
  | .ok (octets, rest) =>
    match Text.ofUtf8? octets with
    | some s => .ok (s, rest)
    | none => .error .invalidText

/-- Passes over a text from behind its opening quote. Its escapes have to be
complete, but need not name characters. -/
def skipText : Octets → Except Fault Octets
  | [] => .error (.ended .text)
  | x :: rest =>
    if x = 0x22 then .ok rest
    else if x = 0x5C then
      match rest with
      | [] => .error (.ended .text)
      | y :: rest =>
        if y = 0x75 then
          match rest with
          | a :: b :: c :: d :: rest =>
            if (hex4? a b c d).isSome then skipText rest else .error .invalidEscape
          | _ => .error (.ended .text)
        else if (simpleEscape? y).isSome then skipText rest
        else .error .invalidEscape
    else if x < 0x20 then .error .controlCharacter
    else skipText rest

end RelayBroker.Json
