/-
  RelayBroker.Proofs.Bridge.Spelling

  The texts that spell a fingerprint. A fingerprint has forty hexadecimal digits, the two
  halves of each octet; a text is read as the fingerprint whose digits are the values of its
  characters (`parse_ok_iff`), whatever the case of the letters. So one text of forty digits is
  as good as another that differs in the case of letters only, and the text that is printed is
  the one in capitals.

  Main statements: `exists_parse_iff`, `parse_ok_iff_toUpper`.
-/

import RelayBroker.Bridge.Fingerprint
import RelayBroker.Proofs.Number.Digits
import RelayBroker.Proofs.Text.Encoding
import RelayBroker.Proofs.Text.Lines

namespace RelayBroker

/-- A hexadecimal digit of either case. -/
def IsHexDigit (c : Char) : Prop :=
  ('0' ≤ c ∧ c ≤ '9') ∨ ('A' ≤ c ∧ c ≤ 'F') ∨ ('a' ≤ c ∧ c ≤ 'f')

instance (c : Char) : Decidable (IsHexDigit c) :=
  inferInstanceAs (Decidable (_ ∨ _))

namespace Fingerprint

open Number

/-! ## Characters -/

/-- The value of a character that is a hexadecimal digit. -/
def charValue? (c : Char) : Option Nat :=
  hexValue? c.toNat

theorem lt_of_hexValue? {n d : Nat} (h : hexValue? n = some d) : n < 128 ∧ d < 16 := by
  simp only [hexValue?] at h
  grind

theorem isSome_charValue?_iff {c : Char} : (charValue? c).isSome ↔ IsHexDigit c := by
  have hle (a b : Char) : a ≤ b ↔ a.toNat ≤ b.toNat := Iff.rfl
  have hbounds : '0'.toNat = 0x30 ∧ '9'.toNat = 0x39 ∧ 'A'.toNat = 0x41 ∧ 'F'.toNat = 0x46 ∧
      'a'.toNat = 0x61 ∧ 'f'.toNat = 0x66 := by decide
  simp only [IsHexDigit, hle, hbounds, charValue?, hexValue?]
  grind

/-- The capital of a digit is the one that is printed for its value. -/
theorem toUpper_of_charValue? {c : Char} {d : Nat} (h : charValue? c = some d) :
    c.toUpper = digitChar d :=
  Text.ascii_induction (P := fun c => ∀ d ∈ charValue? c, c.toUpper = digitChar d)
    (by decide +kernel) (lt_of_hexValue? h).1 d h

/-- Only the digits of either case have a capital that is printed. -/
theorem charValue?_of_toUpper {c : Char} {d : Nat} (hd : d < 16) (h : c.toUpper = digitChar d) :
    charValue? c = some d := by
  have hlt : c.toNat < 128 := by
    by_cases hsmall : c.val ≥ 'a'.val ∧ c.val ≤ 'z'.val
    · exact Nat.lt_of_le_of_lt (UInt32.le_iff_toNat_le.mp hsmall.2) (by decide)
    · -- Any other character is its own capital.
      have hself : c.toUpper = c := dif_neg hsmall
      have hall : ∀ d < 16, (digitChar d).toNat < 128 := by decide +kernel
      rw [hself] at h
      rw [h]
      exact hall d hd
  exact Text.ascii_induction
    (P := fun c => ∀ d < 16, c.toUpper = digitChar d → charValue? c = some d)
    (by decide +kernel) hlt d hd h

theorem isBlank_of_charValue? {c : Char} {d : Nat} (h : charValue? c = some d) :
    Text.isBlank c = false :=
  Text.ascii_induction (P := fun c => ∀ d ∈ charValue? c, Text.isBlank c = false)
    (by decide +kernel) (lt_of_hexValue? h).1 d h

theorem charValue?_digitChar {d : Nat} (h : d < 16) : charValue? (digitChar d) = some d := by
  have hall : ∀ d < 16, charValue? (digitChar d) = some d := by decide +kernel
  exact hall d h

/-! ## Octets -/

/-- The two halves of an octet. -/
def halves (b : UInt8) : List Nat :=
  [b.toNat / 16, b.toNat % 16]

theorem halves_ofNat {h l : Nat} (hh : h < 16) (hl : l < 16) :
    halves (UInt8.ofNat (h * 16 + l)) = [h, l] := by
  have hb : (UInt8.ofNat (h * 16 + l)).toNat = h * 16 + l := by
    rw [UInt8.toNat_ofNat']
    omega
  have hhigh : (h * 16 + l) / 16 = h := by omega
  have hlow : (h * 16 + l) % 16 = l := by omega
  rw [halves, hb, hhigh, hlow]

theorem ofNat_halves (b : UInt8) : UInt8.ofNat (b.toNat / 16 * 16 + b.toNat % 16) = b := by
  rw [Nat.div_add_mod', UInt8.ofNat_toNat]

theorem readPairs_cons_ok_iff {high low : UInt8} {rest octets : Octets} {position : Nat} :
    readPairs position (high :: low :: rest) = .ok octets ↔
      ∃ h l tail, hexValue? high.toNat = some h ∧ hexValue? low.toNat = some l ∧
        readPairs (position + 2) rest = .ok tail ∧ octets = UInt8.ofNat (h * 16 + l) :: tail := by
  rw [readPairs, digit, digit]
  cases hexValue? high.toNat with
  | none => simp [bind, Except.bind]
  | some h =>
    cases hexValue? low.toNat with
    | none => simp [bind, Except.bind]
    | some l =>
      cases readPairs (position + 2) rest with
      | error fault => simp [bind, Except.bind]
      | ok tail => simp [bind, Except.bind, pure, Except.pure, eq_comm]

/-- Pairs of digits are read as the octets of which they are the halves. -/
theorem readPairs_ok_iff {digits octets : Octets} (heven : digits.length % 2 = 0) (position : Nat) :
    readPairs position digits = .ok octets ↔
      digits.map (fun b => hexValue? b.toNat) = (octets.flatMap halves).map some := by
  induction position, digits using readPairs.induct generalizing octets with
  | case1 position high low rest ih =>
    have hrest (tail : Octets) := @ih tail (by simp only [List.length_cons] at heven; omega)
    rw [readPairs_cons_ok_iff]
    constructor
    · rintro ⟨h, l, tail, hh, hl, htail, rfl⟩
      rw [List.map_cons, List.map_cons, hh, hl, (hrest tail).mp htail, List.flatMap_cons,
        halves_ofNat (lt_of_hexValue? hh).2 (lt_of_hexValue? hl).2]
      rfl
    · intro h
      cases octets with
      | nil => cases h
      | cons b tail =>
        simp only [List.map_cons, List.flatMap_cons, halves, List.cons_append, List.nil_append,
          List.cons.injEq] at h
        exact ⟨_, _, tail, h.1, h.2.1, (hrest tail).mpr h.2.2, by rw [ofNat_halves]⟩
  | case2 digits position hshort =>
    -- Less than two digits, and an even number of them, are none.
    match digits with
    | [] =>
      rw [readPairs]
      · cases octets <;> simp [halves]
      · exact hshort
    | [b] => cases heven
    | high :: low :: rest => exact absurd rfl (hshort high low rest)

/-! ## Texts -/

/-- The forty digits of a fingerprint. -/
def digits (f : Fingerprint) : List Nat :=
  f.octets.toList.flatMap halves

theorem length_flatMap_halves (octets : Octets) :
    (octets.flatMap halves).length = 2 * octets.length := by
  induction octets with
  | nil => rfl
  | cons b octets ih =>
    rw [List.flatMap_cons, List.length_append, ih, List.length_cons]
    simp only [halves, List.length_cons, List.length_nil]
    omega

theorem length_digits (f : Fingerprint) : f.digits.length = 40 := by
  rw [digits, length_flatMap_halves, Vector.length_toList]

theorem lt_of_mem_digits {f : Fingerprint} {d : Nat} (h : d ∈ f.digits) : d < 16 := by
  obtain ⟨b, -, hd⟩ := List.mem_flatMap.mp h
  have hb := b.toNat_lt
  simp only [halves, List.mem_cons, List.not_mem_nil, or_false] at hd
  omega

theorem text_eq (f : Fingerprint) : f.text = String.ofList (f.digits.map digitChar) := by
  rw [digits, List.map_flatMap]
  rfl

/-- Octets that are all digits are those of characters that are digits. -/
theorem values_encode_iff {cs : List Char} {ds : List Nat} :
    (Text.encode cs).map (fun b => hexValue? b.toNat) = ds.map some ↔
      cs.map charValue? = ds.map some := by
  induction cs generalizing ds with
  | nil => rfl
  | cons c cs ih =>
    rw [Text.encode_cons]
    by_cases hc : c.toNat < 128
    · have hoctet : (UInt8.ofNat c.toNat).toNat = c.toNat := by
        rw [UInt8.toNat_ofNat']
        omega
      rw [Text.utf8EncodeChar_ascii hc]
      cases ds with
      | nil => simp
      | cons d ds =>
        simp only [List.cons_append, List.nil_append, List.map_cons, List.cons.injEq, hoctet, ih,
          charValue?]
    · -- Neither the character nor its first octet is a digit.
      obtain ⟨b, octets, hoctets⟩ := List.exists_cons_of_ne_nil (Text.utf8EncodeChar_ne_nil c)
      have hb : 128 ≤ b.toNat := by
        rcases Text.octet_of_char (hoctets ▸ List.mem_cons_self) with ⟨hlt, -⟩ | ⟨-, hle⟩
        · exact absurd hlt hc
        · exact hle
      rw [hoctets]
      cases ds with
      | nil => simp
      | cons d ds =>
        simp only [List.cons_append, List.map_cons, List.cons.injEq]
        refine iff_of_false (fun h => ?_) fun h => hc (lt_of_hexValue? h.1).1
        have hlt := (lt_of_hexValue? h.1).1
        omega

/-- A text is read as the fingerprint whose digits are the values of its characters. -/
theorem parse_ok_iff {s : String} {f : Fingerprint} :
    parse s = .ok f ↔ (Text.trim s).toList.map charValue? = f.digits.map some := by
  rw [← values_encode_iff, ← Text.utf8_eq_encode, parse, read]
  generalize Text.utf8 (Text.trim s) = text
  by_cases heven : text.length % 2 = 1
  · -- A fingerprint has an even number of digits.
    rw [if_pos heven]
    refine iff_of_false nofun fun h => ?_
    have hlength := congrArg List.length h
    rw [List.length_map, List.length_map, length_digits] at hlength
    omega
  · rw [if_neg heven, digits, ← readPairs_ok_iff (by omega) 0]
    dsimp only
    cases readPairs 0 text with
    | error fault => exact iff_of_false nofun nofun
    | ok octets =>
      obtain ⟨v⟩ := f
      by_cases hsize : octets.length = 20
      · simp only [bind, Except.bind, dif_pos hsize, pure, Except.pure, Except.mapError,
          Except.ok.injEq]
        rw [Fingerprint.mk.injEq, ← Vector.toList_inj]
        rfl
      · simp only [bind, Except.bind, dif_neg hsize]
        refine iff_of_false nofun fun h => hsize ?_
        rw [Except.ok.inj h, Vector.length_toList]

/-- Characters have some values exactly if their capitals are those that are printed. -/
theorem map_toUpper_iff {cs : List Char} {ds : List Nat} (hds : ∀ d ∈ ds, d < 16) :
    cs.map Char.toUpper = ds.map digitChar ↔ cs.map charValue? = ds.map some := by
  induction cs generalizing ds with
  | nil => cases ds <;> simp
  | cons c cs ih =>
    cases ds with
    | nil => simp
    | cons d ds =>
      rw [List.forall_mem_cons] at hds
      simp only [List.map_cons, List.cons.injEq, ih hds.2]
      exact and_congr_left' ⟨charValue?_of_toUpper hds.1, toUpper_of_charValue?⟩

/-- **A text spells a fingerprint if its capitals are the text of it**, blanks aside. -/
theorem parse_ok_iff_toUpper {s : String} {f : Fingerprint} :
    parse s = .ok f ↔ (Text.trim s).toUpper = f.text := by
  rw [← String.toList_inj, text_eq, String.toList_ofList, String.toUpper, String.toList_map,
    map_toUpper_iff fun d => lt_of_mem_digits, parse_ok_iff]

/-- The text of a fingerprint is a spelling of it. -/
theorem parse_text (f : Fingerprint) : parse f.text = .ok f := by
  have hvalues : (f.digits.map digitChar).map charValue? = f.digits.map some := by
    rw [List.map_map]
    exact List.map_congr_left fun d hd => charValue?_digitChar (lt_of_mem_digits hd)
  have hblank : ∀ c ∈ f.text.toList, Text.isBlank c = false := by
    rw [text_eq, String.toList_ofList, List.forall_mem_map]
    exact fun d hd => isBlank_of_charValue? (charValue?_digitChar (lt_of_mem_digits hd))
  have hempty : Text.IsBlankLine "" := nofun
  have htrim := Text.trim_surrounded hempty hblank hempty
  rw [String.empty_append, String.append_empty] at htrim
  rw [parse_ok_iff, htrim, text_eq, String.toList_ofList, hvalues]

theorem text_inj {f g : Fingerprint} : f.text = g.text ↔ f = g := by
  refine ⟨fun h => ?_, congrArg text⟩
  have hparse := parse_text f
  rw [h, parse_text] at hparse
  exact (Except.ok.inj hparse).symm

/-- An even number of digits are the halves of some octets. -/
theorem exists_octets : ∀ {ds : List Nat}, ds.length % 2 = 0 → (∀ d ∈ ds, d < 16) →
    ∃ octets : Octets, octets.flatMap halves = ds
  | [], _, _ => ⟨[], rfl⟩
  | [_], heven, _ => nomatch heven
  | h :: l :: ds, heven, hsmall => by
    rw [List.forall_mem_cons, List.forall_mem_cons] at hsmall
    obtain ⟨hh, hl, hds⟩ := hsmall
    have hrest : ds.length % 2 = 0 := by
      simp only [List.length_cons] at heven
      omega
    obtain ⟨octets, rfl⟩ := exists_octets hrest hds
    exact ⟨UInt8.ofNat (h * 16 + l) :: octets, by rw [List.flatMap_cons, halves_ofNat hh hl]; rfl⟩

/-- Forty hexadecimal digits of either case spell a fingerprint, and nothing else does, blanks
around them aside. -/
theorem exists_parse_iff {s : String} :
    (∃ f, parse s = .ok f) ↔
      (Text.trim s).length = 40 ∧ ∀ c ∈ (Text.trim s).toList, IsHexDigit c := by
  simp only [parse_ok_iff, ← isSome_charValue?_iff, ← String.length_toList]
  generalize (Text.trim s).toList = cs
  constructor
  · rintro ⟨f, h⟩
    have hlength := congrArg List.length h
    rw [List.length_map, List.length_map, length_digits] at hlength
    refine ⟨hlength, fun c hc => ?_⟩
    obtain ⟨d, -, hd⟩ := List.mem_map.mp (h ▸ List.mem_map_of_mem hc)
    rw [← hd]
    rfl
  · rintro ⟨hlength, hdigits⟩
    have hvalues : cs.map charValue? = (cs.filterMap charValue?).map some := by
      rw [List.map_filterMap_some_eq_filter_map_isSome, List.filter_eq_self.mpr]
      rwa [List.forall_mem_map]
    have hds : (cs.filterMap charValue?).length = 40 := by
      rw [← List.length_map, ← hvalues, List.length_map, hlength]
    have hsmall : ∀ d ∈ cs.filterMap charValue?, d < 16 := by
      intro d hd
      obtain ⟨c, -, hc⟩ := List.mem_filterMap.mp hd
      exact (lt_of_hexValue? hc).2
    obtain ⟨octets, hoctets⟩ := exists_octets (by omega) hsmall
    have hsize := length_flatMap_halves octets
    rw [hoctets, hds] at hsize
    refine ⟨⟨⟨octets.toArray, ?_⟩⟩, ?_⟩
    · rw [List.size_toArray]
      omega
    · rw [hvalues, ← hoctets]
      rfl

end Fingerprint

end RelayBroker
