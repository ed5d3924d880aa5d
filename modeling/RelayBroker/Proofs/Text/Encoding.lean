/-
  RelayBroker.Proofs.Text.Encoding

  The UTF-8 form of a text, character by character. An ASCII character has a form of one
  octet, and this octet stands in the form of no other character (`mem_utf8EncodeChar`), so
  what is looked for in octets, a line feed or a brace, is found where the text has it.
-/

import RelayBroker.Text.Utf8

namespace RelayBroker.Text

/-- The UTF-8 form of some characters. -/
def encode (cs : List Char) : Octets :=
  cs.flatMap String.utf8EncodeChar

theorem utf8_ofList (cs : List Char) : utf8 (String.ofList cs) = encode cs := by
  rw [utf8, String.toByteArray_ofList, List.utf8Encode, List.toList_data_toByteArray]
  rfl

theorem utf8_eq_encode (s : String) : utf8 s = encode s.toList := by
  rw [← utf8_ofList, String.ofList_toList]

theorem encode_nil : encode [] = [] := rfl

theorem encode_cons (c : Char) (cs : List Char) :
    encode (c :: cs) = String.utf8EncodeChar c ++ encode cs :=
  List.flatMap_cons

theorem encode_concat (cs : List Char) (c : Char) :
    encode (cs ++ [c]) = encode cs ++ String.utf8EncodeChar c := by
  rw [encode, List.flatMap_append, List.flatMap_singleton]
  rfl

theorem utf8_inj {a b : String} : utf8 a = utf8 b ↔ a = b := by
  refine ⟨fun h => ?_, congrArg utf8⟩
  have hread := congrArg ofUtf8? h
  rw [ofUtf8?_utf8, ofUtf8?_utf8] at hread
  exact Option.some.inj hread

/-- Octets that are read strictly are the form of the text that is read. -/
theorem utf8_of_ofUtf8? {o : Octets} {s : String} (h : ofUtf8? o = some s) : utf8 s = o := by
  simp only [ofUtf8?, String.fromUTF8?] at h
  split at h
  · rw [← Option.some.inj h]
    rfl
  · cases h

/-! ## Characters -/

theorem utf8EncodeChar_ascii {c : Char} (h : c.toNat < 128) :
    String.utf8EncodeChar c = [UInt8.ofNat c.toNat] := by
  have hle : c.val.toNat ≤ 127 := Nat.le_of_lt_succ h
  simp only [String.utf8EncodeChar, if_pos hle]
  rfl

/-- An octet of a character is the character itself, or no ASCII octet. -/
theorem octet_of_char {c : Char} {b : UInt8} (h : b ∈ String.utf8EncodeChar c) :
    c.toNat < 128 ∧ b.toNat = c.toNat ∨ 128 ≤ c.toNat ∧ 128 ≤ b.toNat := by
  have hval : c.toNat = c.val.toNat := rfl
  rw [hval]
  simp only [String.utf8EncodeChar] at h
  split at h
  · simp only [List.mem_singleton] at h
    subst h
    simp only [UInt8.toNat_ofNat']
    omega
  · -- Each octet of a longer form has its highest bit set.
    repeat' split at h
    all_goals
      simp only [List.mem_cons, List.not_mem_nil, or_false] at h
      rcases h with rfl | rfl | rfl | rfl <;> simp only [UInt8.toNat_ofNat'] <;> omega

theorem mem_utf8EncodeChar {a c : Char} (ha : a.toNat < 128) :
    UInt8.ofNat a.toNat ∈ String.utf8EncodeChar c ↔ c = a := by
  constructor
  · intro h
    have hoctet : (UInt8.ofNat a.toNat).toNat = a.toNat := by
      rw [UInt8.toNat_ofNat']
      omega
    rcases octet_of_char h with ⟨-, heq⟩ | ⟨-, hle⟩
    · exact Char.ext (UInt32.toNat_inj.mp (heq.symm.trans hoctet))
    · omega
  · rintro rfl
    rw [utf8EncodeChar_ascii ha]
    exact List.mem_singleton_self _

/-- What holds of each of the ASCII characters holds of a character that is one of them. -/
theorem ascii_induction {P : Char → Prop} (h : ∀ n < 128, P (Char.ofNat n)) {c : Char}
    (hc : c.toNat < 128) : P c := by
  have hp := h c.toNat hc
  rwa [Char.ofNat_toNat] at hp

theorem utf8EncodeChar_ne_nil (c : Char) : String.utf8EncodeChar c ≠ [] := by
  simp only [String.utf8EncodeChar]
  repeat' split
  all_goals exact List.cons_ne_nil _ _

theorem encode_eq_nil_iff {cs : List Char} : encode cs = [] ↔ cs = [] := by
  cases cs with
  | nil => exact iff_of_true rfl rfl
  | cons c cs =>
    refine iff_of_false (fun h => ?_) (List.cons_ne_nil _ _)
    rw [encode_cons] at h
    exact utf8EncodeChar_ne_nil c (List.append_eq_nil_iff.mp h).1

/-- An ASCII character stands in front of a text where its octet stands in front of the form. -/
theorem head?_encode {a : Char} (ha : a.toNat < 128) {cs : List Char} :
    (encode cs).head? = some (UInt8.ofNat a.toNat) ↔ cs.head? = some a := by
  cases cs with
  | nil => exact iff_of_false nofun nofun
  | cons c cs =>
    rw [encode_cons, List.head?_cons, Option.some.injEq]
    constructor
    · intro h
      obtain ⟨b, octets, hoctets⟩ := List.exists_cons_of_ne_nil (utf8EncodeChar_ne_nil c)
      rw [hoctets, List.cons_append, List.head?_cons, Option.some.injEq] at h
      rw [← mem_utf8EncodeChar ha, hoctets, ← h]
      exact List.mem_cons_self
    · rintro rfl
      rw [utf8EncodeChar_ascii ha]
      rfl

end RelayBroker.Text
