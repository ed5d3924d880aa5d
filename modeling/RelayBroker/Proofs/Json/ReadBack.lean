/-
  RelayBroker.Proofs.Json.ReadBack

  Reading back what was written. What stands for one octet of a text is read as that octet
  (`readOctets_escapeOctet`), so a text is read back whole, and behind its closing quote
  the document goes on (`readString_writeText`). A member of an object stores its value in
  its field if the field reads what was written (`Stores`, `readMembers_member`), and an object
  of such members is read into the record that they fill (`decode_writeObject`).
-/

import RelayBroker.Json.Record
import RelayBroker.Json.Writer

namespace RelayBroker.Json

/-! ## Octets of a text -/

theorem readOctets_quote (read rest : Octets) :
    readOctets read (0x22 :: rest) = .ok (read.reverse, rest) := by
  rw [readOctets.eq_def]
  rfl

theorem readOctets_plain {b : UInt8} (hquote : b ≠ 0x22) (hslash : b ≠ 0x5C)
    (hcontrol : ¬ b < 0x20) (read rest : Octets) :
    readOctets read (b :: rest) = readOctets (b :: read) rest := by
  rw [readOctets.eq_def]
  simp only [if_neg hquote, if_neg hslash, if_neg hcontrol]

/-- An escape by a letter. -/
theorem readOctets_letter {y b : UInt8} (hcode : y ≠ 0x75) (hletter : simpleEscape? y = some b)
    (read rest : Octets) : readOctets read (0x5C :: y :: rest) = readOctets (b :: read) rest := by
  rw [readOctets.eq_def]
  simp only [if_neg hcode, hletter]
  rfl

/-- An escape by the code of a character. -/
theorem readOctets_code {a b c d : UInt8} {unit : Nat} (hunit : hex4? a b c d = some unit)
    (hleading : isLeading unit = false) (htrailing : isTrailing unit = false)
    (read rest : Octets) : readOctets read (0x5C :: 0x75 :: a :: b :: c :: d :: rest) =
      readOctets (codeOctets unit ++ read) rest := by
  rw [readOctets.eq_def]
  simp only [hunit, htrailing, hleading]
  rfl

/-- The code of a control is read as the one octet that it is. -/
theorem hex4?_control : ∀ n < 0x20,
    hex4? 0x30 0x30 (hexOctet (n / 16)) (hexOctet (n % 16)) = some n ∧
      isLeading n = false ∧ isTrailing n = false ∧ codeOctets n = [UInt8.ofNat n] := by
  decide +kernel

/-- What stands for an octet is read as that octet. -/
theorem readOctets_escapeOctet (b : UInt8) (read rest : Octets) :
    readOctets read (escapeOctet b ++ rest) = readOctets (b :: read) rest := by
  -- The cases are those of the writer: escapes by a letter, by a code, and no escape.
  rw [escapeOctet]
  iterate 7
    split
    · next h => rw [h]; exact readOctets_letter (by decide) rfl read rest
  split
  · next hcontrol =>
    obtain ⟨hunit, hleading, htrailing, hoctets⟩ := hex4?_control b.toNat hcontrol
    have hread := readOctets_code hunit hleading htrailing read rest
    rw [hoctets, UInt8.ofNat_toNat] at hread
    exact hread
  · next hquote hslash _ _ _ _ _ hcontrol =>
    exact readOctets_plain hquote hslash hcontrol read rest

/-- The escaped octets of a text are read back. -/
theorem readOctets_escaped (octets read rest : Octets) :
    readOctets read (octets.flatMap escapeOctet ++ 0x22 :: rest) =
      .ok (read.reverse ++ octets, rest) := by
  induction octets generalizing read with
  | nil => rw [List.append_nil]; exact readOctets_quote read rest
  | cons b octets ih =>
    rw [List.flatMap_cons, List.append_assoc, readOctets_escapeOctet, ih, List.reverse_cons,
      List.append_assoc]
    rfl

/-! ## Texts -/

/-- What stands behind the opening quote of a text that was written. -/
def textTail (s : String) : Octets :=
  (Text.utf8 s).flatMap escapeOctet ++ [0x22]

theorem writeText_append (s : String) (rest : Octets) :
    writeText s ++ rest = 0x22 :: (textTail s ++ rest) := rfl

theorem readText_textTail (s : String) (rest : Octets) :
    readText (textTail s ++ rest) = .ok (s, rest) := by
  have hread := readOctets_escaped (Text.utf8 s) [] rest
  rw [readText, textTail, List.append_assoc, List.singleton_append, hread]
  simp only [List.reverse_nil, List.nil_append, Text.ofUtf8?_utf8]

/-- A text that was written is read back, whatever follows it. -/
theorem readString_writeText (s : String) (rest : Octets) :
    readString (writeText s ++ rest) = .ok (s, rest) := by
  rw [writeText_append]
  exact readText_textTail s rest

example : writeText "a\"\n\x01" = Text.utf8 "\"a\\\"\\n\\u0001\"" := by decide +kernel

/-! ## Members -/

variable {σ : Type} {shape : Shape σ}

/-- A member of an object: its name and its value. -/
abbrev Member := String × Item

/-- A record with the value of a member stored in its field, which reads what was written
whatever follows it. -/
def Stores (shape : Shape σ) (member : Member) (record record' : σ) : Prop :=
  ∃ field store, shape.fields.find? (fun f => f.name = member.1) = some field ∧
    (∀ rest, field.read (member.2.write ++ rest) = .ok (store, rest)) ∧ record' = store record

/-- A text is stored in a field for texts. -/
theorem stores_text {name : String} {required : Bool} {store : String → σ → σ}
    (hfield : shape.fields.find? (fun f => f.name = name) = some (.string name required store))
    (s : String) (record : σ) : Stores shape (name, .text s) record (store s record) := by
  refine ⟨_, store s, hfield, fun rest => ?_, rfl⟩
  have hread : readString ((Item.text s).write ++ rest) = .ok (s, rest) :=
    readString_writeText s rest
  simp only [Field.string, Field.of, hread, Except.map]

/-- A record that the members fill, one after the other. -/
inductive Fills (shape : Shape σ) : List Member → σ → σ → Prop
  | nil (record : σ) : Fills shape [] record record
  | cons {member members record next record'} (stores : Stores shape member record next)
      (rest : Fills shape members next record') : Fills shape (member :: members) record record'

/-- The octets in front of a member: a comma, unless it is the first one. -/
def comma (first : Bool) : Octets :=
  if first then [] else [0x2C]

/-- Writes members behind the first one. -/
def writeRest (members : List Member) : Octets :=
  members.flatMap fun member => 0x2C :: writeMember member

/-- Behind the opening quote of its name, a member is read into the record if its field
has not been read. -/
theorem readMembers_named {member : Member} {record record' : σ}
    (stores : Stores shape member record record') {seen : List String} (hnew : member.1 ∉ seen)
    {first : Bool} {b : UInt8} {cs more rest : Octets} (hnext : skipBlanks cs = b :: more)
    (hopen : b ≠ 0x7D)
    (hname : nextMember first b more =
      .ok (textTail member.1 ++ 0x3A :: (member.2.write ++ rest))) (n : Nat) :
    readMembers shape (n + 1) first seen record cs =
      readMembers shape n false (member.1 :: seen) record' rest := by
  obtain ⟨field, store, hfield, hread, rfl⟩ := stores
  have hseen : seen.contains member.1 = false := by
    rw [← Bool.not_eq_true, List.contains_iff_mem]
    exact hnew
  have hcolon : readColon (0x3A :: (member.2.write ++ rest)) = .ok (member.2.write ++ rest) :=
    rfl
  rw [readMembers]
  simp only [hnext, if_neg hopen, hname, Bind.bind, Except.bind, readText_textTail, hfield, hseen,
    hcolon, hread]
  rfl

/-- A member whose field has not been read is read into the record. -/
theorem readMembers_member {member : Member} {record record' : σ}
    (stores : Stores shape member record record') {seen : List String} (hnew : member.1 ∉ seen)
    (first : Bool) (n : Nat) (rest : Octets) :
    readMembers shape (n + 1) first seen record (comma first ++ writeMember member ++ rest) =
      readMembers shape n false (member.1 :: seen) record' rest := by
  have htail : textTail member.1 ++ 0x3A :: (member.2.write ++ rest) =
      textTail member.1 ++ 0x3A :: member.2.write ++ rest := by
    rw [List.append_assoc, List.cons_append]
  cases first with
  | true =>
    refine readMembers_named stores hnew (b := 0x22) rfl (by decide) ?_ n
    rw [htail]
    rfl
  | false =>
    refine readMembers_named stores hnew (b := 0x2C) rfl (by decide) ?_ n
    rw [htail]
    rfl

/-- The members of an object that was written are read into the record that they fill. -/
theorem readMembers_write {members : List Member} {record record' : σ}
    (fills : Fills shape members record record') {seen : List String}
    (hnd : (members.map Prod.fst).Nodup) (hnew : ∀ name ∈ members.map Prod.fst, name ∉ seen)
    (hrequired : ∀ f ∈ shape.fields, f.required → f.name ∈ seen ∨ f.name ∈ members.map Prod.fst)
    {n : Nat} (hn : members.length < n) (rest : Octets) :
    readMembers shape n false seen record (writeRest members ++ 0x7D :: rest) =
      .ok (record', rest) := by
  -- The induction is on the members; each step reads one of them.
  induction fills generalizing seen n with
  | nil record =>
    obtain ⟨n, rfl⟩ : ∃ k, n = k + 1 := ⟨n - 1, by omega⟩
    have hall : shape.fields.find? (fun f => f.required && !seen.contains f.name) = none := by
      rw [List.find?_eq_none]
      intro f hf
      have hseen := hrequired f hf
      simp only [List.map_nil, List.not_mem_nil, or_false] at hseen
      simpa using hseen
    rw [readMembers]
    simp only [writeRest, List.flatMap_nil, List.nil_append, hall]
    rfl
  | @cons member members record next record' stores _ ih =>
    obtain ⟨n, rfl⟩ : ∃ k, n = k + 1 := ⟨n - 1, by omega⟩
    rw [List.map_cons, List.nodup_cons] at hnd
    have hstep := readMembers_member stores (hnew _ List.mem_cons_self) false n
      (writeRest members ++ 0x7D :: rest)
    rw [writeRest, List.flatMap_cons, List.append_assoc]
    refine hstep.trans (ih hnd.2 ?_ ?_ (by simpa using hn))
    · intro name hname
      rw [List.mem_cons, not_or]
      exact ⟨fun heq => hnd.1 (heq ▸ hname), hnew name (List.mem_cons_of_mem _ hname)⟩
    · intro f hf hreq
      have hsomewhere := hrequired f hf hreq
      simp only [List.map_cons, List.mem_cons] at hsomewhere ⊢
      rcases hsomewhere with hbefore | hhere | hlater
      · exact .inl (.inr hbefore)
      · exact .inl (.inl hhere)
      · exact .inr hlater

/-! ## Objects -/

/-- Each list but the first one is put in behind a separator. -/
theorem intercalate_cons {α : Type} (separator l : List α) (ls : List (List α)) :
    separator.intercalate (l :: ls) = l ++ ls.flatMap (separator ++ ·) := by
  induction ls generalizing l with
  | nil => simp [List.intercalate]
  | cons l' ls ih =>
    rw [List.intercalate_cons_cons, ih, List.flatMap_cons, List.append_assoc, List.append_assoc]

/-- An object, cut behind its first member. -/
theorem writeObject_cons (member : Member) (members : List Member) :
    writeObject (member :: members) =
      0x7B :: (writeMember member ++ (writeRest members ++ [0x7D])) := by
  rw [writeObject, List.map_cons, intercalate_cons, List.flatMap_map, List.cons_append,
    List.append_assoc]
  rfl

/-- There are at least as many octets as members. -/
theorem length_le_writeRest (members : List Member) :
    members.length ≤ (writeRest members).length := by
  induction members with
  | nil => exact Nat.le_refl 0
  | cons member members ih =>
    rw [writeRest] at ih ⊢
    rw [List.flatMap_cons, List.length_append, List.length_cons, List.length_cons]
    omega

/-- An object that was written is read into the record that its members fill. They may be
some of the fields only, as long as none is missing that is required. -/
theorem decode_writeObject {members : List Member} {record : σ}
    (fills : Fills shape members shape.blank record) (hnd : (members.map Prod.fst).Nodup)
    (hrequired : ∀ f ∈ shape.fields, f.required → f.name ∈ members.map Prod.fst) :
    decode shape (writeObject members) = .ok record := by
  -- The object ends the document, so nothing but the record has to be compared.
  have hread : readRecord shape (writeObject members) = .ok (record, []) := by
    cases fills with
    | nil =>
      exact readMembers_write (.nil shape.blank) hnd (by simp)
        (fun f hf hreq => .inr (hrequired f hf hreq)) (n := 2) (by decide) []
    | @cons member members _ next _ stores rest =>
      rw [List.map_cons, List.nodup_cons] at hnd
      have hsteps : members.length <
          (writeMember member ++ (writeRest members ++ [0x7D])).length := by
        have hle := length_le_writeRest members
        rw [List.length_append, List.length_append, List.length_singleton]
        omega
      have hfirst := readMembers_member stores (List.not_mem_nil (a := member.1)) true
        (writeMember member ++ (writeRest members ++ [0x7D])).length (writeRest members ++ [0x7D])
      rw [writeObject_cons]
      refine hfirst.trans (readMembers_write rest hnd.2 ?_ ?_ hsteps [])
      · intro name hname
        rw [List.mem_singleton]
        rintro rfl
        exact hnd.1 hname
      · intro f hf hreq
        rw [List.mem_singleton]
        exact List.mem_cons.mp (hrequired f hf hreq)
  rw [decode, hread]
  rfl

end RelayBroker.Json
