/-
  RelayBroker.Json.Writer

  Writing JSON objects. In a text only the quote, the backslash and the controls are
  escaped, the usual ones by a letter and the others by their code.
-/

import RelayBroker.Text.Utf8

namespace RelayBroker.Json

/-- A lower-case hexadecimal digit. -/
def hexOctet (n : Nat) : UInt8 :=
  UInt8.ofNat (Nat.digitChar n).toNat

/-- What stands for one octet of a text. -/
def escapeOctet (b : UInt8) : Octets :=
  if b = 0x22 then [0x5C, 0x22]
  else if b = 0x5C then [0x5C, 0x5C]
  else if b = 0x08 then [0x5C, 0x62]
  else if b = 0x0C then [0x5C, 0x66]
  else if b = 0x0A then [0x5C, 0x6E]
  else if b = 0x0D then [0x5C, 0x72]
  else if b = 0x09 then [0x5C, 0x74]
  else if b < 0x20 then [0x5C, 0x75, 0x30, 0x30, hexOctet (b.toNat / 16), hexOctet (b.toNat % 16)]
  else [b]

/-- A value that is written. -/
inductive Item where
  | text (s : String)
  | flag (b : Bool)
deriving DecidableEq, Repr

/-- Writes a text between quotes. -/
def writeText (s : String) : Octets :=
  0x22 :: (Text.utf8 s).flatMap escapeOctet ++ [0x22]

/-- Writes a value. -/
def Item.write : Item → Octets
  | text s => writeText s
  | flag b => Text.utf8 (if b then "true" else "false")

/-- Writes a member of an object. -/
def writeMember (member : String × Item) : Octets :=
  writeText member.1 ++ 0x3A :: member.2.write

/-- Writes an object with the given members. -/
def writeObject (members : List (String × Item)) : Octets :=
  0x7B :: [0x2C].intercalate (members.map writeMember) ++ [0x7D]

end RelayBroker.Json
