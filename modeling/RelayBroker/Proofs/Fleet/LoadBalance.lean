/-
  RelayBroker.Proofs.Fleet.LoadBalance

  Borrowing fills the least loaded places first. Whichever of the least loaded entries is
  lent (`SlotMap.Lends`), after any number of loans the loads have the same shape
  (`SlotMap.Filled`): an entry that has taken clients is at most one client above every
  other. Which entry is taken where several have the least load is up to the layout of the
  heap, and no step of the argument looks at it.

  Main statement: `borrows_fill_least`.
-/

import Mathlib.Algebra.BigOperators.Group.Finset.Piecewise
import Mathlib.Algebra.GroupWithZero.Nat
import Mathlib.Algebra.Order.BigOperators.Group.Finset
import RelayBroker.Proofs.Fleet.HeapMap

namespace RelayBroker

namespace SlotMap

/-! ## Loads of a map -/

/-- The load of a host; a host without an entry has none. -/
def load (m : SlotMap) (addr : Address) : Nat :=
  (m.lookup addr).elim 0 (·.load)

/-- The load of all hosts together. -/
def total (m : SlotMap) : Nat :=
  ∑ addr ∈ m.keys, m.load addr

/-- Some entry with the least load takes one client more. -/
def Lends (m m' : SlotMap) : Prop :=
  ∃ slot, m.Least slot ∧ m' = m.insert slot.proxy.addr { slot with load := slot.load + 1 }

/-- What `k` loans have made of a map: the records are the same, no load has gone down, all
together have gone up by `k`, and an entry that has taken clients is at most one client above
every other. -/
structure Filled (k : Nat) (m m' : SlotMap) : Prop where
  records : ∀ addr, (m'.lookup addr).map (·.proxy) = (m.lookup addr).map (·.proxy)
  grown : ∀ addr, m.load addr ≤ m'.load addr
  total : m'.total = m.total + k
  level : ∀ addr other, other ∈ m' → m.load addr < m'.load addr → m'.load addr ≤ m'.load other + 1

theorem Filled.refl (m : SlotMap) : Filled 0 m m where
  records _ := rfl
  grown _ := Nat.le_refl _
  total := rfl
  level _ _ _ hlt := absurd hlt (Nat.lt_irrefl _)

section
variable {k : Nat} {m m' m'' : SlotMap} {slot : Slot}

theorem load_of_lookup {addr : Address} (h : m.lookup addr = some slot) :
    m.load addr = slot.load := by
  rw [load, h, Option.elim_some]

theorem Least.load_le (h : m.Least slot) {other : Address} (hother : other ∈ m) :
    slot.load ≤ m.load other := by
  obtain ⟨s, hs⟩ := Finmap.mem_iff.mp hother
  rw [load_of_lookup hs]
  exact h.le other s hs

/-! ## One loan -/

theorem lookup_lent (m : SlotMap) (slot : Slot) (addr : Address) :
    (m.insert slot.proxy.addr { slot with load := slot.load + 1 }).lookup addr =
      if addr = slot.proxy.addr then some { slot with load := slot.load + 1 }
      else m.lookup addr := by
  split
  · next ha => rw [ha, Finmap.lookup_insert]
  · next ha => rw [Finmap.lookup_insert_of_ne _ ha]

theorem Least.load_lent (h : m.Least slot) (addr : Address) :
    load (m.insert slot.proxy.addr { slot with load := slot.load + 1 }) addr =
      m.load addr + if addr = slot.proxy.addr then 1 else 0 := by
  rw [load, lookup_lent]
  split
  · next ha => rw [ha, load_of_lookup h.entry, Option.elim_some]
  · rfl

theorem Least.records_lent (h : m.Least slot) (addr : Address) :
    ((m.insert slot.proxy.addr { slot with load := slot.load + 1 }).lookup addr).map (·.proxy) =
      (m.lookup addr).map (·.proxy) := by
  rw [lookup_lent]
  split
  · next ha => rw [ha, h.entry]; rfl
  · rfl

/-- Maps with the same records have the same hosts. -/
theorem mem_of_records {addr : Address}
    (h : (m'.lookup addr).map (·.proxy) = (m.lookup addr).map (·.proxy)) :
    addr ∈ m' ↔ addr ∈ m := by
  rw [← Finmap.lookup_isSome, ← Finmap.lookup_isSome, ← Option.isSome_map (f := (·.proxy)), h,
    Option.isSome_map]

theorem Least.total_lent (h : m.Least slot) :
    total (m.insert slot.proxy.addr { slot with load := slot.load + 1 }) = m.total + 1 := by
  have hkeys : (m.insert slot.proxy.addr { slot with load := slot.load + 1 }).keys = m.keys := by
    ext addr
    rw [Finmap.mem_keys, Finmap.mem_keys, mem_of_records (h.records_lent addr)]
  have hin : slot.proxy.addr ∈ m.keys :=
    Finmap.mem_keys.mpr (Finmap.mem_of_lookup_eq_some h.entry)
  rw [total, hkeys, Finset.sum_congr rfl fun addr _ => h.load_lent addr, Finset.sum_add_distrib,
    Finset.sum_ite_eq' m.keys slot.proxy.addr fun _ => 1, if_pos hin, total]

/-- One loan more. The entry that takes the client was least, so it is at most one client above
every other afterwards; any other entry stays where it was, and the others have not sunk. -/
theorem Filled.lend (h : Filled k m m') (hl : m'.Lends m'') : Filled (k + 1) m m'' := by
  obtain ⟨slot, hleast, rfl⟩ := hl
  constructor
  · intro addr
    rw [hleast.records_lent, h.records]
  · intro addr
    rw [hleast.load_lent]
    exact Nat.le_add_right_of_le (h.grown addr)
  · rw [hleast.total_lent, h.total, Nat.add_assoc]
  · intro addr other hother hrisen
    rw [mem_of_records (hleast.records_lent other)] at hother
    rw [hleast.load_lent] at hrisen
    rw [hleast.load_lent, hleast.load_lent]
    by_cases ha : addr = slot.proxy.addr
    · have hle := hleast.load_le hother
      rw [if_pos ha, ha, load_of_lookup hleast.entry]
      omega
    · rw [if_neg ha, Nat.add_zero] at hrisen
      have hlevel := h.level addr other hother hrisen
      rw [if_neg ha]
      omega

/-! ## What the shape says -/

/-- Loads that differ by at most one still do. -/
theorem Filled.narrow (h : Filled k m m')
    (hnarrow : ∀ addr other, addr ∈ m → other ∈ m → m.load addr ≤ m.load other + 1)
    {addr other : Address} (haddr : addr ∈ m') (hother : other ∈ m') :
    m'.load addr ≤ m'.load other + 1 := by
  have hgrown := h.grown addr
  by_cases hrisen : m.load addr < m'.load addr
  · exact h.level addr other hother hrisen
  · have hbefore := hnarrow addr other ((mem_of_records (h.records addr)).mp haddr)
      ((mem_of_records (h.records other)).mp hother)
    have hother := h.grown other
    omega

/-- Where all loads were equal, as many loans as there are hosts give each host one client. -/
theorem Filled.all_risen (h : Filled m.keys.card m m') {n : Nat}
    (hequal : ∀ addr ∈ m, m.load addr = n) {addr : Address} (haddr : addr ∈ m') :
    m'.load addr = n + 1 := by
  have hmem (a : Address) : a ∈ m' ↔ a ∈ m := mem_of_records (h.records a)
  have hkeys : m'.keys = m.keys := by
    ext a
    rw [Finmap.mem_keys, Finmap.mem_keys, hmem]
  have hbefore : m.total = m.keys.card * n :=
    Finset.sum_const_nat fun a ha => hequal a (Finmap.mem_keys.mp ha)
  have hsum : ∑ a ∈ m.keys, m'.load a = ∑ a ∈ m.keys, (n + 1) := by
    have htotal := h.total
    rw [SlotMap.total, hkeys, hbefore] at htotal
    rw [htotal, Finset.sum_const_nat fun _ _ => rfl, Nat.mul_add, Nat.mul_one]
  -- A host that had taken two clients would be two above some other, or all would have risen
  -- and the sum would be too great.
  have hle : ∀ a ∈ m.keys, m'.load a ≤ n + 1 := by
    by_contra hover
    push Not at hover
    obtain ⟨a, ha, hover⟩ := hover
    have hrisen : m.load a < m'.load a := by
      rw [hequal a (Finmap.mem_keys.mp ha)]
      omega
    have hothers : ∀ b ∈ m.keys, n + 1 ≤ m'.load b := by
      intro b hb
      have hlevel := h.level a b ((hmem b).mpr (Finmap.mem_keys.mp hb)) hrisen
      omega
    exact absurd hsum.symm (Finset.sum_lt_sum hothers ⟨a, ha, hover⟩).ne
  exact (Finset.sum_eq_sum_iff_of_le hle).mp hsum addr (hkeys ▸ Finmap.mem_keys.mpr haddr)

end

end SlotMap

namespace LoadHeap

/-! ## Loans of a heap -/

/-- The load of all slots together. -/
def totalLoad (h : LoadHeap) : Nat :=
  (h.slots.toList.map (·.load)).sum

/-- No two loads differ by more than one. -/
def Even (h : LoadHeap) : Prop :=
  ∀ slot ∈ h.slots, ∀ other ∈ h.slots, slot.load ≤ other.load + 1

section
variable {h : LoadHeap}

theorem mem_toMap_iff (hi : h.Indexed) {addr : Address} :
    addr ∈ h.toMap ↔ ∃ slot ∈ h.slots, slot.proxy.addr = addr := by
  rw [Finmap.mem_iff]
  simp only [lookup_toMap hi, slot?_eq_some_iff hi]

theorem load_toMap (hi : h.Indexed) {slot : Slot} (hmem : slot ∈ h.slots) :
    h.toMap.load slot.proxy.addr = slot.load := by
  apply SlotMap.load_of_lookup
  rw [lookup_toMap hi]
  exact (slot?_eq_some_iff hi).mpr ⟨hmem, rfl⟩

theorem load_of_load? (hi : h.Indexed) {addr : Address} {load : Nat}
    (hload : h.load? addr = some load) :
    addr ∈ h.toMap ∧ h.toMap.load addr = load := by
  rw [load?_toMap hi, Option.map_eq_some_iff] at hload
  obtain ⟨slot, hlookup, rfl⟩ := hload
  exact ⟨Finmap.mem_of_lookup_eq_some hlookup, SlotMap.load_of_lookup hlookup⟩

theorem totalLoad_eq (hi : h.Indexed) : h.totalLoad = h.toMap.total := by
  rw [SlotMap.total, keys_toMap, List.sum_toFinset _ (nodup_addrs hi), totalLoad, List.map_map]
  congr 1
  apply List.map_congr_left
  intro slot hmem
  exact (load_toMap hi (Array.mem_toList_iff.mp hmem)).symm

theorem holds_iff (hi : h.Indexed) {proxy : Proxy} :
    h.Holds proxy ↔ (h.toMap.lookup proxy.addr).map (·.proxy) = some proxy := by
  rw [lookup_toMap hi, Option.map_eq_some_iff]
  simp only [slot?_eq_some_iff hi]
  constructor
  · rintro ⟨slot, hmem, rfl⟩
    exact ⟨slot, ⟨hmem, rfl⟩, rfl⟩
  · rintro ⟨slot, ⟨hmem, -⟩, rfl⟩
    exact ⟨slot, hmem, rfl⟩

theorem size_ne_zero_of_mem_toMap {addr : Address} (hmem : addr ∈ h.toMap) :
    h.slots.size ≠ 0 := by
  intro h0
  rw [toMap_of_size_eq_zero h0] at hmem
  exact Finmap.notMem_empty hmem

/-- A proxy that is handed out takes one client more, as long as 32 bits count it. -/
theorem lends_borrow (hi : h.Indexed) (ho : h.Ordered) (hne : h.slots.size ≠ 0)
    (hroom : ∀ slot ∈ h.slots, slot.load < Number.max32) : h.toMap.Lends h.borrow.2.toMap := by
  rcases borrow_cases hi with ⟨h0, -⟩ | ⟨slot, heq, hr⟩
  · exact absurd h0 hne
  · have hload := hroom slot ((slot?_eq_some_iff hi).mp hr.before).1
    refine ⟨slot, ho.least_of_borrow hi heq hr.before, ?_⟩
    rw [hr.toMap hi, bump, Nat.min_eq_left hload]

end

/-- Loans one after the other. -/
theorem run_filled (ops : List Op) (k : Nat) (hne : (run ops).slots.size ≠ 0)
    (hroom : ∀ i < k, ∀ slot ∈ (run (ops ++ List.replicate i .borrow)).slots,
      slot.load < Number.max32) :
    SlotMap.Filled k (run ops).toMap (run (ops ++ List.replicate k .borrow)).toMap := by
  induction k with
  | zero =>
    rw [List.replicate_zero, List.append_nil]
    exact .refl _
  | succ k ih =>
    have hfilled := ih fun i hlt => hroom i (by omega)
    obtain ⟨hi, ho⟩ := run_sound (ops ++ List.replicate k .borrow)
    -- The heap has not become empty on the way.
    have hroot : 0 < (run ops).slots.size := by omega
    have hmem : (run ops).slots[0].proxy.addr ∈ (run (ops ++ List.replicate k .borrow)).toMap :=
      (SlotMap.mem_of_records (hfilled.records _)).mpr
        ((mem_toMap_iff (run_sound ops).1).mpr ⟨_, Array.getElem_mem hroot, rfl⟩)
    have hlends := lends_borrow hi ho (size_ne_zero_of_mem_toMap hmem) (hroom k (by omega))
    rw [List.replicate_succ', ← List.append_assoc, run_append]
    exact hfilled.lend hlends

/-- **Borrowing fills the least loaded places first.** After any operations that leave a heap
with proxies in it, `k` loans leave its records as they are, no load goes down, and all loads
together go up by `k`, as long as no load has reached its limit; a proxy whose load has gone up
is at most one client above every other. So loads that differ by at most one still do, and among
proxies with equal loads, as many loans as there are proxies give one client to each. -/
theorem borrows_fill_least (ops : List Op) (k : Nat) :
    let before := run ops
    let lent (i : Nat) := run (ops ++ List.replicate i .borrow)
    let after := lent k
    before.isEmpty = false →
    (∀ i < k, ∀ slot ∈ (lent i).slots, slot.load < Number.max32) →
    (∀ proxy, after.Holds proxy ↔ before.Holds proxy) ∧ after.size = before.size ∧
    (∀ addr m n, before.load? addr = some m → after.load? addr = some n → m ≤ n) ∧
    after.totalLoad = before.totalLoad + k ∧
    (∀ addr m n, before.load? addr = some m → after.load? addr = some n → m < n →
      ∀ other least, after.load? other = some least → n - 1 ≤ least) ∧
    (before.Even → after.Even) ∧
    ∀ load, (∀ slot ∈ before.slots, slot.load = load) → k = before.size →
      ∀ slot ∈ after.slots, slot.load = load + 1 := by
  intro before lent after hne hroom
  have hib : before.Indexed := (run_sound ops).1
  have hia : after.Indexed := (run_sound _).1
  have hsome : before.slots.size ≠ 0 := by
    rw [isEmpty, Array.isEmpty_eq_false_iff] at hne
    exact fun h0 => hne (Array.eq_empty_of_size_eq_zero h0)
  have hfilled : SlotMap.Filled k before.toMap after.toMap := run_filled ops k hsome hroom
  have hmem (addr : Address) : addr ∈ after.toMap ↔ addr ∈ before.toMap :=
    SlotMap.mem_of_records (hfilled.records addr)
  have hsize : after.size = before.size := by
    have hkeys : after.toMap.keys = before.toMap.keys := by
      ext addr
      rw [Finmap.mem_keys, Finmap.mem_keys, hmem]
    rw [← card_keys_toMap hia, ← card_keys_toMap hib, hkeys]
  refine ⟨?_, hsize, ?_, ?_, ?_, ?_, ?_⟩
  · intro proxy
    rw [holds_iff hia, holds_iff hib, hfilled.records]
  · intro addr m n hm hn
    obtain ⟨-, rfl⟩ := load_of_load? hib hm
    obtain ⟨-, rfl⟩ := load_of_load? hia hn
    exact hfilled.grown addr
  · rw [totalLoad_eq hia, totalLoad_eq hib, hfilled.total]
  · intro addr m n hm hn hrisen other least hleast
    obtain ⟨-, rfl⟩ := load_of_load? hib hm
    obtain ⟨-, rfl⟩ := load_of_load? hia hn
    obtain ⟨hother, rfl⟩ := load_of_load? hia hleast
    exact Nat.sub_le_of_le_add (hfilled.level addr other hother hrisen)
  · intro heven slot hslot other hother
    rw [← load_toMap hia hslot, ← load_toMap hia hother]
    refine hfilled.narrow ?_ ((mem_toMap_iff hia).mpr ⟨slot, hslot, rfl⟩)
      ((mem_toMap_iff hia).mpr ⟨other, hother, rfl⟩)
    intro a b ha hb
    obtain ⟨s, hs, rfl⟩ := (mem_toMap_iff hib).mp ha
    obtain ⟨t, ht, rfl⟩ := (mem_toMap_iff hib).mp hb
    rw [load_toMap hib hs, load_toMap hib ht]
    exact heven s hs t ht
  · intro load hequal hk slot hslot
    rw [← card_keys_toMap hib] at hk
    rw [← load_toMap hia hslot]
    refine (hk ▸ hfilled).all_risen ?_ ((mem_toMap_iff hia).mpr ⟨slot, hslot, rfl⟩)
    intro a ha
    obtain ⟨s, hs, rfl⟩ := (mem_toMap_iff hib).mp ha
    rw [load_toMap hib hs]
    exact hequal s hs

/-- Three proxies that serve two clients each. -/
def threeAlike : List Op :=
  [1, 2, 3].map fun last => .insert ⟨last.toNat, "", "", .unrestricted, .v4 10 0 0 last, 2⟩ 2

/-- Three loans give each of them one client more. -/
theorem three_loans_one_each :
    let before := run threeAlike
    let lent (i : Nat) := run (threeAlike ++ List.replicate i .borrow)
    before.isEmpty = false ∧ (∀ i < 3, ∀ slot ∈ (lent i).slots, slot.load < Number.max32) ∧
      before.load? (.v4 10 0 0 2) = some 2 ∧ (lent 3).load? (.v4 10 0 0 2) = some 3 ∧
      (lent 3).totalLoad = before.totalLoad + 3 ∧ (lent 3).Even ∧
      ∀ slot ∈ (lent 3).slots, slot.load = 3 := by
  intro before lent
  have hne : before.isEmpty = false := by decide +kernel
  have hroom : ∀ i < 3, ∀ slot ∈ (lent i).slots, slot.load < Number.max32 := by decide +kernel
  have hequal : ∀ slot ∈ before.slots, slot.load = 2 := by decide +kernel
  have heven : before.Even := fun slot hslot other hother => by
    rw [hequal slot hslot, hequal other hother]
    decide
  have hbefore : before.load? (.v4 10 0 0 2) = some 2 := by decide +kernel
  have hafter : (lent 3).load? (.v4 10 0 0 2) = some 3 := by decide +kernel
  have hsize : 3 = before.size := by decide +kernel
  obtain ⟨-, -, -, htotal, -, hnarrow, hall⟩ := borrows_fill_least threeAlike 3 hne hroom
  exact ⟨hne, hroom, hbefore, hafter, htotal, hnarrow heven, hall 2 hequal hsize⟩

end LoadHeap

end RelayBroker
