/-
  RelayBroker.Text.Utf8

  Texts as sequences of octets. What travels over the network is a list of
  octets; a text is written as its UTF-8 form, and octets are read back either
  strictly or with every malformed stretch replaced.

  Main statements: reading back the form of a text gives that text, strictly
  (`ofUtf8?_utf8`) and leniently (`ofUtf8Lossy_utf8`).
-/

namespace RelayBroker

/-- What travels over the network. -/
abbrev Octets := List UInt8

namespace Text

/-! ## Strict reading -/

/-- The UTF-8 form of a text. -/
def utf8 (s : String) : Octets :=
  s.toByteArray.data.toList

/-- The text whose UTF-8 form is given, if there is one. -/
def ofUtf8? (o : Octets) : Option String :=
  String.fromUTF8? ⟨o.toArray⟩

theorem ofUtf8?_utf8 (s : String) : ofUtf8? (utf8 s) = some s := by
  have h : (⟨(s.toByteArray.data.toList).toArray⟩ : ByteArray) = s.toByteArray := by simp
  simp only [ofUtf8?, utf8, h, String.fromUTF8?]
  rw [dif_pos s.isValidUTF8]
  rfl

/-! ## Lenient reading

A malformed stretch is an octet that no character starts with, or the start of a
character up to the first octet that cannot continue it. -/

/-- A character whose first octets have been read: how many are still missing,
the bounds of the next one, and the bits collected so far. -/
structure Unfinished where
  missing : Nat
  low : Nat
  high : Nat
  bits : Nat

/-- What one octet at the start of a character yields: characters, and a
character to be continued. -/
def startOctet (b : UInt8) : List Char × Option Unfinished :=
  let n := b.toNat
  if n < 0x80 then ([Char.ofNat n], none)
  else if 0xC2 ≤ n ∧ n ≤ 0xDF then ([], some ⟨1, 0x80, 0xBF, n - 0xC0⟩)
  else if n = 0xE0 then ([], some ⟨2, 0xA0, 0xBF, 0x0⟩)
  else if n = 0xED then ([], some ⟨2, 0x80, 0x9F, 0xD⟩)
  else if 0xE1 ≤ n ∧ n ≤ 0xEF then ([], some ⟨2, 0x80, 0xBF, n - 0xE0⟩)
  else if n = 0xF0 then ([], some ⟨3, 0x90, 0xBF, 0x0⟩)
  else if 0xF1 ≤ n ∧ n ≤ 0xF3 then ([], some ⟨3, 0x80, 0xBF, n - 0xF0⟩)
  else if n = 0xF4 then ([], some ⟨3, 0x80, 0x8F, 0x4⟩)
  else (['\uFFFD'], none)

/-- Reads one more octet, given the characters so far, the last one first, and the
character under way. -/
def feedOctet (read : List Char × Option Unfinished) (b : UInt8) : List Char × Option Unfinished :=
  let restart (chars : List Char) :=
    let (more, u) := startOctet b
    (more ++ chars, u)
  match read.2 with
  | none => restart read.1
  | some u =>
    if u.low ≤ b.toNat ∧ b.toNat ≤ u.high then
      let bits := u.bits * 64 + b.toNat % 64
      if u.missing ≤ 1 then (Char.ofNat bits :: read.1, none)
      else (read.1, some ⟨u.missing - 1, 0x80, 0xBF, bits⟩)
    -- The octet ends a malformed stretch, and is looked at once more on its own.
    else restart ('\uFFFD' :: read.1)

/-- The characters of octets, each malformed stretch being replaced. -/
def replaceMalformed (o : Octets) : List Char :=
  let (chars, u) := o.foldl feedOctet ([], none)
  (if u.isSome then '\uFFFD' :: chars else chars).reverse

/-- The text whose UTF-8 form is given; in octets that are no such form, every
malformed stretch stands for one replacement character. -/
def ofUtf8Lossy (o : Octets) : String :=
  (ofUtf8? o).getD (String.ofList (replaceMalformed o))

theorem ofUtf8Lossy_utf8 (s : String) : ofUtf8Lossy (utf8 s) = s := by
  simp [ofUtf8Lossy, ofUtf8?_utf8]

end Text

end RelayBroker
