/-
  RelayBroker.Json.Record

  Reading a JSON document into a record. A record is written as an object, whose
  members may come in any order and among others, or as a list of the values of its
  fields in their order. A field that is not required keeps its blank value when it
  is absent.
-/

import RelayBroker.Json.Skip

namespace RelayBroker.Json

/-- Reads a value from the front of a document. -/
abbrev Reader (α : Type) := Octets → Except Fault (α × Octets)

/-- A field of the record `σ`: its value is read and then stored. -/
structure Field (σ : Type) where
  name : String
  required : Bool
  read : Reader (σ → σ)

/-- A record: its name, its fields in order, and the record before anything is read. -/
structure Shape (σ : Type) where
  name : String
  fields : List (Field σ)
  blank : σ

/-! ## Values of the wrong kind -/

/-- The value that starts with the octet `b`, read as far as a message shows it. -/
def see (b : UInt8) (rest : Octets) : Except Fault Seen :=
  if b = 0x6E then (readWord [0x75, 0x6C, 0x6C] rest).map fun _ => .null
  else if b = 0x74 then (readWord [0x72, 0x75, 0x65] rest).map fun _ => .boolean true
  else if b = 0x66 then (readWord [0x61, 0x6C, 0x73, 0x65] rest).map fun _ => .boolean false
  else if b = 0x2D then (readNumeral true rest).map fun (n, _) => .numeral n
  else if (Number.decimalValue? b.toNat).isSome then
    (readNumeral false (b :: rest)).map fun (n, _) => .numeral n
  else if b = 0x22 then (readText rest).map fun (s, _) => .text s
  else if b = 0x5B then .ok .sequence
  else if b = 0x7B then .ok .map
  else .error .expectedValue

/-- Refuses the value that starts with the octet `b`. -/
def refuse {α : Type} (b : UInt8) (rest : Octets) (expected : String) : Except Fault α :=
  match see b rest with
  | .ok seen => .error (.wrongType seen expected)
  | .error fault => .error fault

/-! ## Values of fields -/

/-- Reads a text. -/
def readString : Reader String := fun cs =>
  match skipBlanks cs with
  | [] => .error (.ended .value)
  | b :: rest => if b = 0x22 then readText rest else refuse b rest "a string"

/-- Reads a text, or nothing for the word `null`. -/
def readString? : Reader (Option String) := fun cs =>
  match skipBlanks cs with
  | b :: rest =>
    if b = 0x6E then (readWord [0x75, 0x6C, 0x6C] rest).map fun rest => (none, rest)
    else (readString (b :: rest)).map fun (s, rest) => (some s, rest)
  | [] => .error (.ended .value)

/-- The natural number of 32 bits that a number is. -/
def count32 : Numeral → Except Fault Nat
  | .natural n =>
    if n ≤ Number.max32 then .ok n else .error (.outOfBounds (.numeral (.natural n)) "u32")
  | .negative n => .error (.outOfBounds (.numeral (.negative n)) "u32")
  | .float minus x => .error (.wrongType (.numeral (.float minus x)) "u32")

/-- Reads a natural number of 32 bits. -/
def readCount : Reader Nat := fun cs =>
  match skipBlanks cs with
  | [] => .error (.ended .value)
  | b :: rest =>
    let numeral :=
      if b = 0x2D then readNumeral true rest
      else if (Number.decimalValue? b.toNat).isSome then readNumeral false (b :: rest)
      else refuse b rest "u32"
    match numeral with
    | .error fault => .error fault
    | .ok (n, rest) => (count32 n).map fun n => (n, rest)

/-! ## Lists -/

/-- Where the next element of a list starts, or nothing at the bracket that closes
the list. -/
def nextElement (first : Bool) (cs : Octets) : Except Fault (Option Octets) :=
  match skipBlanks cs with
  | [] => .error (.ended .list)
  | b :: rest =>
    if b = 0x5D then .ok none
    else if first then .ok (some (b :: rest))
    else if b = 0x2C then
      match skipBlanks rest with
      | [] => .error (.ended .value)
      | c :: rest => if c = 0x5D then .error .trailingComma else .ok (some (c :: rest))
    else .error .expectedElementEnd

/-- The end of a list from which nothing more is wanted. -/
def endList (cs : Octets) : Except Fault Octets :=
  match skipBlanks cs with
  | [] => .error (.ended .list)
  | b :: rest =>
    if b = 0x5D then .ok rest
    else if b = 0x2C then
      match skipBlanks rest with
      | c :: _ => if c = 0x5D then .error .trailingComma else .error .trailingCharacters
      | [] => .error .trailingCharacters
    else .error .trailingCharacters

/-- Reads the texts of a list from behind its opening bracket, given those before,
the last one first. Every step but the last uses up an octet. -/
def readTexts : (steps : Nat) → (read : List String) → Reader (List String)
  | 0, _ => fun _ => .error (.ended .list)
  | n + 1, read => fun cs =>
    match nextElement read.isEmpty cs with
    | .error fault => .error fault
    | .ok none => (endList cs).map fun rest => (read.reverse, rest)
    | .ok (some cs) =>
      match readString cs with
      | .error fault => .error fault
      | .ok (s, rest) => readTexts n (s :: read) rest

/-- Reads a list of texts. -/
def readStrings : Reader (List String) := fun cs =>
  match skipBlanks cs with
  | [] => .error (.ended .value)
  | b :: rest =>
    if b = 0x5B then readTexts (rest.length + 1) [] rest else refuse b rest "a sequence"

/-! ## Records -/

namespace Field

variable {σ : Type}

/-- A field that `read` reads and `store` stores. -/
def of {α : Type} (read : Reader α) (name : String) (required : Bool) (store : α → σ → σ) :
    Field σ :=
  ⟨name, required, fun cs => (read cs).map fun (x, rest) => (store x, rest)⟩

/-- A text. -/
def string (name : String) (required : Bool) (store : String → σ → σ) : Field σ :=
  of readString name required store

/-- A text that may be `null`. -/
def string? (name : String) (store : Option String → σ → σ) : Field σ :=
  of readString? name false store

/-- A natural number of 32 bits. -/
def count (name : String) (store : Nat → σ → σ) : Field σ :=
  of readCount name false store

/-- A list of texts. -/
def strings (name : String) (store : List String → σ → σ) : Field σ :=
  of readStrings name false store

end Field

variable {σ : Type}

/-- Reads the elements of a list as the fields of a record, from behind the opening
bracket and from the field number `index` on. -/
def readElements (shape : Shape σ) : List (Field σ) → (index : Nat) → σ → Reader σ
  | [], _, record => fun cs => .ok (record, cs)
  | field :: fields, index, record => fun cs =>
    match nextElement (index == 0) cs with
    | .error fault => .error fault
    | .ok none =>
      match (field :: fields).findIdx? fun (f : Field σ) => f.required with
      | some k => .error (.tooShort (index + k) shape.name shape.fields.length)
      | none => .ok (record, cs)
    | .ok (some cs) =>
      match field.read cs with
      | .error fault => .error fault
      | .ok (store, rest) => readElements shape fields (index + 1) (store record) rest

/-- Where the name of the next member of an object starts, behind its quote. The
octet `b`, which does not close the object, is the next one. -/
def nextMember (first : Bool) (b : UInt8) (rest : Octets) : Except Fault Octets :=
  if first then
    if b = 0x22 then .ok rest else .error .keyNotText
  else if b = 0x2C then
    match skipBlanks rest with
    | [] => .error (.ended .value)
    | c :: rest =>
      if c = 0x22 then .ok rest
      else if c = 0x7D then .error .trailingComma
      else .error .keyNotText
  else .error .expectedMemberEnd

/-- The colon behind the name of a member. -/
def readColon (cs : Octets) : Except Fault Octets :=
  match skipBlanks cs with
  | [] => .error (.ended .object)
  | b :: rest => if b = 0x3A then .ok rest else .error .expectedColon

/-- Reads the members of an object as the fields of a record, from behind the opening
bracket; `seen` are the names of the fields that have been read. Every step but the
last uses up an octet. -/
def readMembers (shape : Shape σ) :
    (steps : Nat) → (first : Bool) → (seen : List String) → σ → Reader σ
  | 0, _, _, _ => fun _ => .error (.ended .object)
  | n + 1, first, seen, record => fun cs =>
    match skipBlanks cs with
    | [] => .error (.ended .object)
    | b :: rest =>
      if b = 0x7D then
        match shape.fields.find? fun (f : Field σ) => f.required && !seen.contains f.name with
        | some field => .error (.missingField field.name)
        | none => .ok (record, rest)
      else
        match nextMember first b rest >>= readText with
        | .error fault => .error fault
        | .ok (name, rest) =>
          match shape.fields.find? fun (f : Field σ) => f.name = name with
          | some field =>
            if seen.contains name then .error (.duplicateField name)
            else
              match readColon rest >>= field.read with
              | .error fault => .error fault
              | .ok (store, rest) => readMembers shape n false (name :: seen) (store record) rest
          | none =>
            -- When this step began, at most `n` octets were left.
            match readColon rest >>= skipValue n with
            | .error fault => .error fault
            | .ok rest => readMembers shape n false seen record rest

/-- Reads a record. -/
def readRecord (shape : Shape σ) : Reader σ := fun cs =>
  match skipBlanks cs with
  | [] => .error (.ended .value)
  | b :: rest =>
    if b = 0x5B then
      match readElements shape shape.fields 0 shape.blank rest with
      | .error fault => .error fault
      | .ok (record, rest) => (endList rest).map fun rest => (record, rest)
    else if b = 0x7B then readMembers shape (rest.length + 1) true [] shape.blank rest
    else refuse b rest ("struct " ++ shape.name)

/-- The record that a document holds. -/
def decode (shape : Shape σ) (document : Octets) : Except Fault σ :=
  match readRecord shape document with
  | .error fault => .error fault
  | .ok (record, rest) =>
    if (skipBlanks rest).isEmpty then .ok record else .error .trailingCharacters

end RelayBroker.Json
