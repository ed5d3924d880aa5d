/-
  RelayBroker.Proofs.Text.Order

  The order of texts and the order of their UTF-8 forms. Texts are compared character by
  character, and their forms octet by octet; the outcome is the same. The forms of two
  characters differ in some octet, and at the first one at which they do the lesser character
  has the lesser octet, whatever follows (`utf8EncodeChar_lt`).

  Main statement: `utf8_lt_iff`.
-/

import RelayBroker.Proofs.Number.Digits
import RelayBroker.Proofs.Text.Encoding

namespace RelayBroker.Text

/-! ## Characters -/

/-- If a number is less than another, then so it is without its last digit, or in its last
digit alone. -/
theorem div_lt_or_mod_lt {m n : Nat} (base : Nat) (h : m < n) :
    m / base < n / base ∨ m / base = n / base ∧ m % base < n % base := by
  rcases Nat.lt_or_eq_of_le (Nat.div_le_div_right (Nat.le_of_lt h) : m / base ≤ n / base) with
    hlt | heq
  · exact .inl hlt
  · have hm := Nat.div_add_mod m base
    have hn := Nat.div_add_mod n base
    rw [heq] at hm
    exact .inr ⟨heq, by omega⟩

/-- The octets of the character with a number: the digits of the number to the base 64, each
with a mark for its place. -/
def octetsOf (n : Nat) : List Nat :=
  if n < 0x80 then [n]
  else if n < 0x800 then [n / 64 + 0xC0, n % 64 + 0x80]
  else if n < 0x10000 then [n / 64 / 64 + 0xE0, n / 64 % 64 + 0x80, n % 64 + 0x80]
  else [n / 64 / 64 / 64 + 0xF0, n / 64 / 64 % 64 + 0x80, n / 64 % 64 + 0x80, n % 64 + 0x80]

theorem toNat_lt (c : Char) : c.toNat < 0x110000 := by
  rcases c.valid with hlow | ⟨-, hhigh⟩
  · exact Nat.lt_trans hlow (by decide)
  · exact hhigh

theorem map_toNat_utf8EncodeChar (c : Char) :
    (String.utf8EncodeChar c).map UInt8.toNat = octetsOf c.toNat := by
  have hval : c.val.toNat = c.toNat := rfl
  have hlt := toNat_lt c
  simp only [String.utf8EncodeChar, octetsOf, hval, Nat.div_div_eq_div_mul]
  -- Both sides have the four lengths, with the same bounds.
  repeat' split
  all_goals
    first
    | omega
    | simp only [List.map_cons, List.map_nil, UInt8.toNat_ofNat', List.cons.injEq, and_true]
      omega

/-- Of two numbers of one length the first digit that differs decides; and a longer form starts
with a greater octet. -/
theorem octetsOf_lt {m n : Nat} (h : m < n) (hn : n < 0x110000) (os ps : List Nat) :
    octetsOf m ++ os < octetsOf n ++ ps := by
  have hlast := div_lt_or_mod_lt 64 h
  have hthird (h : m / 64 < n / 64) := div_lt_or_mod_lt 64 h
  have hsecond (h : m / 64 / 64 < n / 64 / 64) := div_lt_or_mod_lt 64 h
  simp only [octetsOf]
  repeat' split
  all_goals
    simp only [List.cons_append, List.nil_append, List.cons_lt_cons_iff]
    omega

/-! ## Texts -/

/-- The forms of two characters differ before what follows them is looked at. -/
theorem utf8EncodeChar_lt {c d : Char} (h : c < d) (os ps : Octets) :
    String.utf8EncodeChar c ++ os < String.utf8EncodeChar d ++ ps := by
  rw [← Number.map_lt_map_iff UInt8.lt_iff_toNat_lt.symm UInt8.toNat_inj, List.map_append,
    List.map_append, map_toNat_utf8EncodeChar, map_toNat_utf8EncodeChar]
  exact octetsOf_lt h (toNat_lt d) _ _

/-- A common start decides nothing. -/
theorem append_lt_append_iff {os ps qs : Octets} : os ++ ps < os ++ qs ↔ ps < qs := by
  induction os with
  | nil => rfl
  | cons o os ih =>
    rw [List.cons_append, List.cons_append, List.cons_lt_cons_iff, ih]
    exact ⟨fun h => (h.resolve_left (UInt8.lt_irrefl o)).2, fun h => .inr ⟨rfl, h⟩⟩

theorem encode_lt_iff {cs ds : List Char} : encode cs < encode ds ↔ cs < ds := by
  induction cs generalizing ds with
  | nil =>
    cases ds with
    | nil => exact iff_of_false (List.not_lt_nil _) (List.not_lt_nil _)
    | cons d ds =>
      obtain ⟨o, os, hform⟩ :=
        List.exists_cons_of_ne_nil (mt encode_eq_nil_iff.mp (List.cons_ne_nil d ds))
      rw [hform]
      exact iff_of_true (List.nil_lt_cons ..) (List.nil_lt_cons ..)
  | cons c cs ih =>
    cases ds with
    | nil => exact iff_of_false (List.not_lt_nil _) (List.not_lt_nil _)
    | cons d ds =>
      rw [encode_cons, encode_cons, List.cons_lt_cons_iff]
      rcases Std.lt_trichotomy c d with hlt | rfl | hgt
      · exact iff_of_true (utf8EncodeChar_lt hlt _ _) (.inl hlt)
      · rw [append_lt_append_iff, ih]
        exact ⟨fun h => .inr ⟨rfl, h⟩, fun h => (h.resolve_left (Char.lt_irrefl c)).2⟩
      · -- The other way round the first characters decide as well.
        refine iff_of_false (List.lt_asymm (utf8EncodeChar_lt hgt _ _)) ?_
        rintro (hlt | ⟨rfl, -⟩)
        · exact Char.lt_asymm hgt hlt
        · exact Char.lt_irrefl _ hgt

/-- Texts are ordered as their forms are. -/
theorem utf8_lt_iff {a b : String} : utf8 a < utf8 b ↔ a < b := by
  rw [utf8_eq_encode, utf8_eq_encode, encode_lt_iff, String.lt_iff]

end RelayBroker.Text
