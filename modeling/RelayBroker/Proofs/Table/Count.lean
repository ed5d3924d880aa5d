/-
  RelayBroker.Proofs.Table.Count

  What the values of a table weigh together, and how many of them are of some kind. A removal
  takes off what was stored under the key, and an insertion puts on the new value in its
  place. There are as many entries as keys. A table may count itself: it is a tally of some keys
  if it holds how often each of them occurs (`Tallies`).
-/

import Mathlib.Algebra.GroupWithZero.Nat
import Mathlib.Data.Finset.Card
import Mathlib.Data.List.Dedup
import RelayBroker.Table

namespace RelayBroker.Table

variable {κ α : Type}

/-- What all values weigh together. -/
def weight (t : Table κ α) (w : α → Nat) : Nat :=
  (t.entries.map fun e => w e.2).sum

/-- How many values are of a kind. -/
def count (t : Table κ α) (kind : α → Bool) : Nat :=
  t.entries.countP fun e => kind e.2

/-- Those of a kind weigh one each. -/
theorem count_eq_weight (t : Table κ α) (kind : α → Bool) :
    t.count kind = t.weight fun v => (kind v).toNat := by
  rw [count, weight]
  induction t.entries with
  | nil => rfl
  | cons e es ih =>
    rw [List.countP_cons, List.map_cons, List.sum_cons, ih, Nat.add_comm]
    cases kind e.2 <;> rfl

theorem toNat_any (v : Option α) (kind : α → Bool) :
    (v.any kind).toNat = v.elim 0 fun v => (kind v).toNat := by
  cases v <;> rfl

/-! ## Weights -/

variable [DecidableEq κ]

/-- A key that occurs once is taken off once. -/
theorem sum_filter_key (es : List (κ × α)) (hnd : (es.map Prod.fst).Nodup) (k : κ) (w : α → Nat) :
    ((es.filter fun e => e.1 ≠ k).map fun e => w e.2).sum +
        ((es.find? fun e => e.1 = k).map Prod.snd).elim 0 w =
      (es.map fun e => w e.2).sum := by
  -- The search stops at the first entry of the key, which is the only one.
  induction es with
  | nil => rfl
  | cons e es ih =>
    obtain ⟨a, v⟩ := e
    rw [List.map_cons, List.nodup_cons] at hnd
    have hrest := ih hnd.2
    by_cases ha : a = k
    · -- The key does not occur again.
      have hfilter : es.filter (fun e => e.1 ≠ k) = es := by
        apply List.filter_eq_self.mpr
        intro e he
        rw [decide_eq_true_eq]
        rintro rfl
        exact hnd.1 (List.mem_map.mpr ⟨e, he, ha.symm⟩)
      rw [List.filter_cons_of_neg (by simp [ha]), hfilter, List.find?_cons_of_pos (by simp [ha])]
      exact Nat.add_comm _ _
    · rw [List.filter_cons_of_pos (by simp [ha]), List.find?_cons_of_neg (by simp [ha])]
      simp only [List.map_cons, List.sum_cons]
      omega

theorem weight_erase (t : Table κ α) (k : κ) (w : α → Nat) :
    (t.erase k).weight w + (t.get? k).elim 0 w = t.weight w :=
  sum_filter_key t.entries t.nodup k w

theorem weight_insert (t : Table κ α) (k : κ) (v : α) (w : α → Nat) :
    (t.insert k v).weight w + (t.get? k).elim 0 w = t.weight w + w v := by
  -- An insertion is a removal and one entry more.
  have herase := weight_erase t k w
  have hcons : (t.insert k v).weight w = w v + (t.erase k).weight w := rfl
  omega

theorem weight_eq_zero {t : Table κ α} {w : α → Nat} (hnone : ∀ k v, t.get? k = some v → w v = 0) :
    t.weight w = 0 := by
  apply List.sum_eq_zero_iff_forall_eq_nat.mpr
  intro n hn
  obtain ⟨e, he, rfl⟩ := List.mem_map.mp hn
  exact hnone e.1 e.2 (mem_entries.mp he)

/-! ## Kinds -/

theorem count_erase (t : Table κ α) (k : κ) (kind : α → Bool) :
    (t.erase k).count kind + ((t.get? k).any kind).toNat = t.count kind := by
  rw [count_eq_weight, count_eq_weight, toNat_any]
  exact weight_erase ..

theorem count_insert (t : Table κ α) (k : κ) (v : α) (kind : α → Bool) :
    (t.insert k v).count kind + ((t.get? k).any kind).toNat = t.count kind + (kind v).toNat := by
  rw [count_eq_weight, count_eq_weight, toNat_any]
  exact weight_insert ..

theorem count_eq_zero {t : Table κ α} {kind : α → Bool}
    (hnone : ∀ k v, t.get? k = some v → kind v = false) : t.count kind = 0 := by
  rw [count_eq_weight]
  exact weight_eq_zero fun k v hget => by rw [hnone k v hget]; rfl

/-! ## Keys -/

/-- The keys that have an entry. -/
def keys (t : Table κ α) : Finset κ :=
  (t.entries.map Prod.fst).toFinset

theorem mem_keys {t : Table κ α} {k : κ} : k ∈ t.keys ↔ ∃ v, t.get? k = some v := by
  simp [keys, get?_eq_some_iff]

theorem card_keys (t : Table κ α) : t.keys.card = t.size := by
  rw [keys, List.toFinset_card_of_nodup t.nodup, List.length_map, size]

/-! ## Tallies -/

/-- The entries are how often each of some keys occurs. -/
def Tallies (t : Table κ Nat) (keys : List κ) : Prop :=
  ∀ key, t.get? key = if key ∈ keys then some (keys.count key) else none

theorem tallies_empty : (empty : Table κ Nat).Tallies [] :=
  fun _ => rfl

section
variable {t : Table κ Nat} {keys : List κ}

/-- A key that occurs once more counts one more. -/
theorem Tallies.insert (h : t.Tallies keys) (key : κ) :
    (t.insert key ((t.get? key).getD 0 + 1)).Tallies (keys ++ [key]) := by
  intro other
  rw [get?_insert]
  by_cases hother : other = key
  · subst hother
    have hbefore : (t.get? other).getD 0 = keys.count other := by
      rw [h other]
      split
      · rfl
      · next hnew => exact (List.count_eq_zero.mpr hnew).symm
    rw [if_pos rfl, if_pos (by simp), hbefore, List.count_append, List.count_singleton_self]
  · rw [if_neg hother, h other]
    simp [hother, Ne.symm hother, List.count_append]

/-- The entries of a tally are its keys, each once and with its number. -/
theorem Tallies.perm (h : t.Tallies keys) :
    t.entries.Perm (keys.dedup.map fun key => (key, keys.count key)) := by
  -- Neither list has an entry twice, so it is enough that they have the same ones.
  have hinj : Function.Injective fun key => (key, keys.count key) := fun _ _ heq =>
    congrArg Prod.fst heq
  have hentries : t.entries.Nodup := List.Nodup.of_map Prod.fst t.nodup
  have hlisted := (List.nodup_dedup keys).map hinj
  refine (List.perm_ext_iff_of_nodup hentries hlisted).mpr fun ⟨key, n⟩ => ?_
  rw [mem_entries, h key]
  simp only [List.mem_map, List.mem_dedup, Prod.mk.injEq]
  constructor
  · intro hget
    split at hget
    · next hmem => exact ⟨key, hmem, rfl, Option.some.inj hget⟩
    · cases hget
  · rintro ⟨_, hmem, rfl, rfl⟩
    exact if_pos hmem

end

end RelayBroker.Table
