/-
  RelayBroker.Proofs.Number.Digits

  Numbers and their digits. What `Nat.toDigits` writes are digits of the base without a
  leading zero (`exists_writes`); each of them reads as its value, and a reader of digits takes
  them all and leaves what follows (`spanDigits_append`). Numbers with equally many digits are
  ordered as their digits are (`ofDigits_lt_iff`), and lists of machine numbers as the lists of
  their values (`map_lt_map_iff`).
-/

import Mathlib.Data.List.Basic
import Mathlib.Tactic.Ring
import RelayBroker.Number.Natural

namespace RelayBroker.Number

/-! ## The number of some digits -/

theorem ofDigits_concat (base : Nat) (ds : List Nat) (d : Nat) :
    ofDigits base (ds ++ [d]) = ofDigits base ds * base + d := by
  rw [ofDigits, List.foldl_append]
  rfl

theorem foldl_digits (base n : Nat) (ds : List Nat) :
    ds.foldl (fun n d => n * base + d) n = n * base ^ ds.length + ofDigits base ds := by
  induction ds generalizing n with
  | nil => simp [ofDigits]
  | cons d ds ih =>
    rw [ofDigits, List.foldl_cons, List.foldl_cons, ih, ih, List.length_cons, Nat.pow_succ]
    ring

theorem ofDigits_cons (base d : Nat) (ds : List Nat) :
    ofDigits base (d :: ds) = d * base ^ ds.length + ofDigits base ds := by
  rw [ofDigits, List.foldl_cons, foldl_digits]
  ring

theorem ofDigits_lt {base : Nat} {ds : List Nat} (h : ∀ d ∈ ds, d < base) :
    ofDigits base ds < base ^ ds.length := by
  induction ds with
  | nil => simp [ofDigits]
  | cons d ds ih =>
    have hd : d < base := h d List.mem_cons_self
    have hrest := ih fun x hx => h x (List.mem_cons_of_mem _ hx)
    rw [ofDigits_cons, List.length_cons, Nat.pow_succ]
    calc d * base ^ ds.length + ofDigits base ds
        < d * base ^ ds.length + base ^ ds.length := by omega
      _ = (d + 1) * base ^ ds.length := by ring
      _ ≤ base * base ^ ds.length := Nat.mul_le_mul_right _ hd
      _ = base ^ ds.length * base := Nat.mul_comm _ _

/-- Equally many digits are ordered as the numbers that they stand for. -/
theorem ofDigits_lt_iff {base : Nat} {ds es : List Nat} (hlength : ds.length = es.length)
    (hds : ∀ d ∈ ds, d < base) (hes : ∀ e ∈ es, e < base) :
    ofDigits base ds < ofDigits base es ↔ ds < es := by
  induction ds generalizing es with
  | nil =>
    obtain rfl := List.length_eq_zero_iff.mp hlength.symm
    simp
  | cons d ds ih =>
    cases es with
    | nil => cases hlength
    | cons e es =>
      rw [List.length_cons, List.length_cons, Nat.add_right_cancel_iff] at hlength
      rw [List.forall_mem_cons] at hds hes
      have hdlt := ofDigits_lt hds.2
      have helt := ofDigits_lt hes.2
      rw [List.cons_lt_cons_iff, ← ih hlength hds.2 hes.2, ofDigits_cons, ofDigits_cons, hlength]
      rw [hlength] at hdlt
      generalize base ^ es.length = place at hdlt helt
      -- The first digit decides, since the others together are worth less than one of it.
      constructor
      · intro h
        rcases Nat.lt_trichotomy d e with hlt | rfl | hgt
        · exact .inl hlt
        · exact .inr ⟨rfl, by omega⟩
        · have hplace : (e + 1) * place ≤ d * place := Nat.mul_le_mul_right _ hgt
          rw [Nat.succ_mul] at hplace
          omega
      · rintro (hlt | ⟨rfl, hrest⟩)
        · have hplace : (d + 1) * place ≤ e * place := Nat.mul_le_mul_right _ hlt
          rw [Nat.succ_mul] at hplace
          omega
        · omega

/-- Equally many digits that stand for one number are the same. -/
theorem ofDigits_inj {base : Nat} {ds es : List Nat} (hlength : ds.length = es.length)
    (hds : ∀ d ∈ ds, d < base) (hes : ∀ e ∈ es, e < base) :
    ofDigits base ds = ofDigits base es ↔ ds = es := by
  refine ⟨fun heq => List.le_antisymm ?_ ?_, congrArg _⟩
  · exact List.not_lt.mp fun h => by
      have hlt := (ofDigits_lt_iff hlength.symm hes hds).mpr h
      omega
  · exact List.not_lt.mp fun h => by
      have hlt := (ofDigits_lt_iff hlength hds hes).mpr h
      omega

/-- Numbers of a machine type are compared by their values, place by place. -/
theorem map_lt_map_iff {α : Type} [LT α] {value : α → Nat}
    (hlt : ∀ {a b}, value a < value b ↔ a < b) (hinj : ∀ {a b}, value a = value b ↔ a = b)
    {as bs : List α} : as.map value < bs.map value ↔ as < bs := by
  induction as generalizing bs with
  | nil => cases bs <;> simp
  | cons a as ih =>
    cases bs with
    | nil => simp
    | cons b bs =>
      rw [List.map_cons, List.map_cons, List.cons_lt_cons_iff, List.cons_lt_cons_iff, hlt, hinj, ih]

/-! ## Digits as characters -/

theorem hexValue?_digitChar {d : Nat} (h : d < 16) : hexValue? d.digitChar.toNat = some d := by
  have hall : ∀ d : Fin 16, hexValue? d.val.digitChar.toNat = some d.val := by decide
  exact hall ⟨d, h⟩

theorem decimalValue?_digitChar {d : Nat} (h : d < 10) :
    decimalValue? d.digitChar.toNat = some d := by
  have hall : ∀ d : Fin 10, decimalValue? d.val.digitChar.toNat = some d.val := by decide
  exact hall ⟨d, h⟩

/-- The digits that a number is written with. -/
structure Writes (base n : Nat) (ds : List Nat) : Prop where
  text : Nat.toDigits base n = ds.map Nat.digitChar
  small : ∀ d ∈ ds, d < base
  value : ofDigits base ds = n
  leading : ds.head? = some 0 → ds.length = 1

theorem Writes.ne_nil {base n : Nat} {ds : List Nat} (h : Writes base n ds) : ds ≠ [] := by
  rintro rfl
  exact Nat.toDigits_ne_nil h.text

theorem Writes.length_le {base n k : Nat} {ds : List Nat} (h : Writes base n ds) (hb : 1 < base)
    (hk : 0 < k) (hn : n < base ^ k) : ds.length ≤ k := by
  have hlength := (Nat.length_toDigits_le_iff hb hk).mpr hn
  rwa [h.text, List.length_map] at hlength

theorem exists_writes {base : Nat} (hb : 1 < base) (n : Nat) : ∃ ds, Writes base n ds := by
  induction n using Nat.strongRecOn with
  | ind n ih =>
    by_cases hn : n < base
    · refine ⟨[n], Nat.toDigits_of_lt_base hn, by simpa using hn, by simp [ofDigits], fun _ => rfl⟩
    · -- The last digit comes off, and what is left is a smaller number above zero.
      obtain ⟨ds, h⟩ := ih (n / base) (Nat.div_lt_self (by omega) hb)
      have hmod : n % base < base := Nat.mod_lt _ (by omega)
      have hpos : 0 < n / base := Nat.div_pos (by omega) (by omega)
      refine ⟨ds ++ [n % base], ?_, ?_, ?_, fun hzero => ?_⟩
      · rw [Nat.toDigits_of_base_le hb (by omega), h.text, List.map_append]
        rfl
      · simpa [or_imp, forall_and] using ⟨h.small, hmod⟩
      · rw [ofDigits_concat, h.value, Nat.mul_comm]
        exact Nat.div_add_mod n base
      · rw [List.head?_append, Option.or_of_isSome (List.isSome_head?.mpr h.ne_nil)] at hzero
        obtain ⟨d, hd⟩ := List.length_eq_one_iff.mp (h.leading hzero)
        obtain rfl : d = 0 := by simpa [hd] using hzero
        have hvalue := h.value
        rw [hd, ofDigits, List.foldl_cons, List.foldl_nil] at hvalue
        omega

/-! ## Reading digits -/

/-- A text that does not go on with a digit. -/
def Stops {α : Type} (value? : α → Option Nat) (rest : List α) : Prop :=
  ∀ c, rest.head? = some c → value? c = none

section
variable {α : Type} {value? : α → Option Nat} {rest : List α}

theorem Stops.takeWhile (h : Stops value? rest) :
    rest.takeWhile (fun c => (value? c).isSome) = [] := by
  cases rest with
  | nil => rfl
  | cons c rest => exact List.takeWhile_cons_of_neg (by simp [h c rfl])

theorem Stops.dropWhile (h : Stops value? rest) :
    rest.dropWhile (fun c => (value? c).isSome) = rest := by
  cases rest with
  | nil => rfl
  | cons c rest => exact List.dropWhile_cons_of_neg (by simp [h c rfl])

/-- All digits in front are read, and what follows them is left. -/
theorem spanDigits_append {write : Nat → α} {ds : List Nat}
    (hds : ∀ d ∈ ds, value? (write d) = some d) (hrest : Stops value? rest) :
    spanDigits value? (ds.map write ++ rest) = (ds, rest) := by
  have hdigits : ∀ c ∈ ds.map write, (value? c).isSome := by
    intro c hc
    obtain ⟨d, hd, rfl⟩ := List.mem_map.mp hc
    rw [hds d hd]
    rfl
  have hvalues : (ds.map write).filterMap value? = ds := by
    rw [List.filterMap_map]
    exact (List.filterMap_congr hds).trans List.filterMap_some
  simp only [spanDigits]
  rw [List.takeWhile_append_of_pos hdigits, List.dropWhile_append_of_pos hdigits, hrest.takeWhile,
    hrest.dropWhile, List.append_nil, hvalues]

theorem Stops.spanDigits (h : Stops value? rest) :
    Number.spanDigits value? rest = ([], rest) := by
  simp only [Number.spanDigits]
  rw [h.takeWhile, h.dropWhile]
  rfl

end

end RelayBroker.Number
