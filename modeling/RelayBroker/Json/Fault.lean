/-
  RelayBroker.Json.Fault

  What can be wrong with a JSON document, and the words for it. A document is read
  from front to back and the first fault met decides.
-/

import RelayBroker.Number.Shortest
import RelayBroker.Text.Quoted

namespace RelayBroker.Json

/-- A number as it is read: whole numbers of 64 bits are kept exact, everything else
is a floating point number. -/
inductive Numeral where
  | natural (n : Nat)
  /-- The number below zero with the absolute value `n`. -/
  | negative (n : Nat)
  /-- The number with the absolute value `x`, below zero if `minus` says so. -/
  | float (minus : Bool) (x : Number.Binary64)
deriving DecidableEq, Repr

/-- A value that stands where another kind of value is wanted. -/
inductive Seen where
  | null
  | boolean (b : Bool)
  | numeral (n : Numeral)
  | text (s : String)
  | sequence
  | map
deriving DecidableEq, Repr

/-- What was being read when the document ended. -/
inductive Place where
  | value
  | text
  | object
  | list
deriving DecidableEq, Repr

/-- What is wrong with a document. -/
inductive Fault where
  | ended (place : Place)
  | expectedValue
  | expectedWord
  | expectedColon
  | expectedMemberEnd
  | expectedElementEnd
  | keyNotText
  | trailingComma
  | trailingCharacters
  | invalidNumber
  | numberOutOfRange
  | invalidEscape
  | controlCharacter
  | endOfSurrogates
  | loneSurrogate
  | invalidText
  | wrongType (seen : Seen) (expected : String)
  | outOfBounds (seen : Seen) (expected : String)
  | duplicateField (name : String)
  | missingField (name : String)
  | tooShort (length : Nat) (record : String) (size : Nat)
deriving DecidableEq, Repr

/-- The words for a number. -/
def Numeral.describe : Numeral → String
  | natural n => "integer `" ++ toString n ++ "`"
  | negative n => "integer `-" ++ toString n ++ "`"
  | float minus x => "floating point `" ++ (if minus then "-" else "") ++ x.text ++ "`"

/-- The words for a value. -/
def Seen.describe : Seen → String
  | null => "null"
  | boolean b => "boolean `" ++ (if b then "true" else "false") ++ "`"
  | numeral n => n.describe
  | text s => "string " ++ Text.quoted s
  | sequence => "sequence"
  | map => "map"

/-- The words for a place. -/
def Place.describe : Place → String
  | value => "a value"
  | text => "a string"
  | object => "an object"
  | list => "a list"

/-- The text that tells a fault. -/
def Fault.message : Fault → String
  | ended place => "EOF while parsing " ++ place.describe
  | expectedValue => "expected value"
  | expectedWord => "expected ident"
  | expectedColon => "expected `:`"
  | expectedMemberEnd => "expected `,` or `\x7d`"
  | expectedElementEnd => "expected `,` or `]`"
  | keyNotText => "key must be a string"
  | trailingComma => "trailing comma"
  | trailingCharacters => "trailing characters"
  | invalidNumber => "invalid number"
  | numberOutOfRange => "number out of range"
  | invalidEscape => "invalid escape"
  | controlCharacter => "control character (\\u0000-\\u001F) found while parsing a string"
  | endOfSurrogates => "unexpected end of hex escape"
  | loneSurrogate => "lone leading surrogate in hex escape"
  | invalidText => "invalid unicode code point"
  | wrongType seen expected => "invalid type: " ++ seen.describe ++ ", expected " ++ expected
  | outOfBounds seen expected => "invalid value: " ++ seen.describe ++ ", expected " ++ expected
  | duplicateField name => "duplicate field `" ++ name ++ "`"
  | missingField name => "missing field `" ++ name ++ "`"
  | tooShort length record size =>
    "invalid length " ++ toString length ++ ", expected struct " ++ record ++ " with " ++
      toString size ++ (if size = 1 then " element" else " elements")

end RelayBroker.Json
