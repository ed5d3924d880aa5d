/-
  RelayBroker.Table

  Finite tables: an association list in which no key occurs twice. Every index of
  the broker is such a table.

  Main statements: what is found after an insertion (`get?_insert`) and after a
  removal (`get?_erase`), that removing an absent key changes nothing
  (`erase_of_get?_eq_none`), and that the entries are exactly what is found
  (`mem_entries`).
-/

namespace RelayBroker

/-- A finite table from keys in `κ` to values in `α`. -/
structure Table (κ α : Type) where
  entries : List (κ × α)
  nodup : (entries.map Prod.fst).Nodup
deriving DecidableEq

namespace Table

variable {κ α : Type} [DecidableEq κ]

/-! ## Operations -/

/-- The table without entries. -/
def empty : Table κ α := ⟨[], by simp⟩

instance : Inhabited (Table κ α) := ⟨empty⟩

/-- The value stored under a key. -/
def get? (t : Table κ α) (k : κ) : Option α :=
  (t.entries.find? fun e => e.1 = k).map Prod.snd

/-- Whether a key has an entry. -/
def contains (t : Table κ α) (k : κ) : Bool :=
  (t.get? k).isSome

/-- The table without the entry of a key. -/
def erase (t : Table κ α) (k : κ) : Table κ α where
  entries := t.entries.filter fun e => e.1 ≠ k
  nodup := (List.Sublist.map Prod.fst List.filter_sublist).nodup t.nodup

/-- The table with `v` under the key `k`, whatever was there before. -/
def insert (t : Table κ α) (k : κ) (v : α) : Table κ α where
  entries := (k, v) :: (t.erase k).entries
  nodup := by
    refine List.nodup_cons.mpr ⟨fun h => ?_, (t.erase k).nodup⟩
    obtain ⟨e, he, hk⟩ := List.mem_map.mp h
    simp [erase, hk] at he

/-- The values, the latest insertion first. -/
def values (t : Table κ α) : List α :=
  t.entries.map Prod.snd

/-- How many entries there are. -/
def size (t : Table κ α) : Nat :=
  t.entries.length

/-- Whether there are no entries. -/
def isEmpty (t : Table κ α) : Bool :=
  t.entries.isEmpty

/-! ## What is found -/

@[simp] theorem get?_empty (k : κ) : (empty : Table κ α).get? k = none := rfl

theorem get?_eq_some_iff {t : Table κ α} {k : κ} {v : α} :
    t.get? k = some v ↔ (k, v) ∈ t.entries := by
  obtain ⟨es, h⟩ := t
  simp only [get?]
  induction es with
  | nil => simp
  | cons e es ih =>
    obtain ⟨a, b⟩ := e
    simp only [List.map_cons, List.nodup_cons] at h
    by_cases ha : a = k
    · subst ha
      have hne : ∀ w, (a, w) ∉ es := fun w hw => h.1 (List.mem_map.mpr ⟨_, hw, rfl⟩)
      simp [hne, eq_comm]
    · have hk : ¬ k = a := fun hk => ha hk.symm
      simp only [List.find?_cons, ha, decide_false, List.mem_cons, Prod.mk.injEq, hk,
        false_and, false_or]
      exact ih h.2

theorem mem_entries {t : Table κ α} {e : κ × α} : e ∈ t.entries ↔ t.get? e.1 = some e.2 :=
  get?_eq_some_iff.symm

theorem get?_erase (t : Table κ α) (k j : κ) :
    (t.erase k).get? j = if j = k then none else t.get? j := by
  refine Option.ext fun v => ?_
  by_cases h : j = k
  · simp [get?_eq_some_iff, erase, h]
  · rw [if_neg h, get?_eq_some_iff, get?_eq_some_iff]
    simp [erase, h]

theorem get?_insert (t : Table κ α) (k j : κ) (v : α) :
    (t.insert k v).get? j = if j = k then some v else t.get? j := by
  by_cases h : j = k
  · subst h
    simp [get?, insert]
  · have hk : ¬ k = j := fun hk => h hk.symm
    have he := get?_erase t k j
    rw [if_neg h] at he ⊢
    rw [← he]
    simp [get?, insert, hk]

theorem erase_of_get?_eq_none {t : Table κ α} {k : κ} (h : t.get? k = none) : t.erase k = t := by
  obtain ⟨es, hes⟩ := t
  simp only [erase, mk.injEq]
  refine List.filter_eq_self.mpr fun e he => ?_
  simp only [ne_eq, decide_not, Bool.not_eq_true', decide_eq_false_iff_not]
  intro hk
  have hget : get? ⟨es, hes⟩ e.1 = some e.2 := get?_eq_some_iff.mpr he
  rw [hk, h] at hget
  simp at hget

theorem contains_iff {t : Table κ α} {k : κ} : t.contains k = true ↔ ∃ v, t.get? k = some v := by
  simp [contains, Option.isSome_iff_exists]

end Table

end RelayBroker
