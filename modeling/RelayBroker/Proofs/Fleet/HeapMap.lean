/-
  RelayBroker.Proofs.Fleet.HeapMap

  A load heap does what its callers take it for: a finite map from hosts to records with
  loads, of which the least loaded can be taken.

  `Effect` says for each operation what it answers and what it makes of the map, with no
  heap in it; where several entries have the least load, it leaves open which one is
  taken. `refines_map` says that in every state that the operations lead to, each
  operation has that effect on the map read off the slots (`toMap`). The run keeps two
  facts: the index is exact (`Indexed`), so that the map is what is found through it, and
  the slots are in heap order (`Ordered`), so that the root is least.
-/

import Mathlib.Data.Finmap
import RelayBroker.Proofs.Fleet.HeapOrder

namespace RelayBroker

/-- A pool as a finite map: the slot of each host. -/
abbrev SlotMap := Finmap fun _ : Address => Slot

/-- The slot is an entry, and no entry has a lesser load. -/
structure SlotMap.Least (m : SlotMap) (slot : Slot) : Prop where
  entry : m.lookup slot.proxy.addr = some slot
  le : ∀ addr other, m.lookup addr = some other → slot.load ≤ other.load

namespace LoadHeap

/-! ## The map -/

/-- The map that the slots make up. -/
def toMap (h : LoadHeap) : SlotMap :=
  (h.slots.toList.map fun slot => (⟨slot.proxy.addr, slot⟩ : (_ : Address) × Slot)).toFinmap

section
variable {h : LoadHeap}

/-- No two slots are of one host. -/
theorem nodup_addrs (hi : h.Indexed) : (h.slots.toList.map (·.proxy.addr)).Nodup := by
  rw [List.Nodup, List.pairwise_map, List.pairwise_iff_getElem]
  intro i j hlt hjt hij heq
  simp only [Array.length_toList] at hlt hjt
  simp only [Array.getElem_toList] at heq
  have hplace := place_unique hi hlt hjt heq
  omega

/-- What is found through the index is the entry of the map. -/
theorem lookup_toMap (hi : h.Indexed) (addr : Address) : h.toMap.lookup addr = h.slot? addr := by
  have hkeys : (h.slots.toList.map
      fun slot => (⟨slot.proxy.addr, slot⟩ : (_ : Address) × Slot)).NodupKeys := by
    rw [List.NodupKeys, List.keys, List.map_map]
    exact nodup_addrs hi
  apply Option.ext
  intro slot
  rw [toMap, Finmap.dlookup_list_toFinmap, ← Option.mem_def, List.mem_dlookup_iff hkeys,
    List.mem_map, slot?_eq_some_iff hi]
  simp only [Array.mem_toList_iff, Sigma.mk.injEq]
  constructor
  · rintro ⟨slot, hmem, rfl, heq⟩
    obtain rfl := eq_of_heq heq
    exact ⟨hmem, rfl⟩
  · rintro ⟨hmem, rfl⟩
    exact ⟨slot, hmem, rfl, HEq.rfl⟩

theorem keys_toMap (h : LoadHeap) :
    h.toMap.keys = (h.slots.toList.map (·.proxy.addr)).toFinset := by
  ext addr
  rw [Finmap.mem_keys, toMap, Finmap.mem_list_toFinmap, List.mem_toFinset, List.mem_map]
  simp only [List.mem_map, Sigma.mk.injEq]
  constructor
  · rintro ⟨_, slot, hmem, haddr, -⟩
    exact ⟨slot, hmem, haddr⟩
  · rintro ⟨slot, hmem, rfl⟩
    exact ⟨slot, slot, hmem, rfl, HEq.rfl⟩

/-- There are as many slots as entries. -/
theorem card_keys_toMap (hi : h.Indexed) : h.toMap.keys.card = h.size := by
  rw [keys_toMap, List.toFinset_card_of_nodup (nodup_addrs hi), List.length_map,
    Array.length_toList, size]

theorem contains_iff_mem_toMap (hi : h.Indexed) (addr : Address) :
    h.contains addr = true ↔ addr ∈ h.toMap := by
  rw [← Finmap.lookup_isSome, lookup_toMap hi, contains, Table.contains, Option.isSome_iff_ne_none,
    Option.isSome_iff_ne_none, ne_eq, ne_eq, slot?_eq_none_iff hi]

theorem load?_toMap (hi : h.Indexed) (addr : Address) :
    h.load? addr = (h.toMap.lookup addr).map (·.load) := by
  rw [lookup_toMap hi, load?_eq]

theorem toMap_of_size_eq_zero (h0 : h.slots.size = 0) : h.toMap = ∅ := by
  rw [toMap, Array.eq_empty_of_size_eq_zero h0]
  rfl

variable {h' : LoadHeap} {addr : Address}

theorem toMap_eq_insert (hi : h.Indexed) (hi' : h'.Indexed) {slot : Slot}
    (hafter : ∀ a, h'.slot? a = if a = addr then some slot else h.slot? a) :
    h'.toMap = h.toMap.insert addr slot := by
  apply Finmap.ext_lookup
  intro a
  rw [lookup_toMap hi', hafter]
  split
  · next ha => rw [ha, Finmap.lookup_insert]
  · next ha => rw [Finmap.lookup_insert_of_ne _ ha, lookup_toMap hi]

theorem toMap_eq_erase (hi : h.Indexed) (hi' : h'.Indexed)
    (hafter : ∀ a, h'.slot? a = if a = addr then none else h.slot? a) :
    h'.toMap = h.toMap.erase addr := by
  apply Finmap.ext_lookup
  intro a
  rw [lookup_toMap hi', hafter]
  split
  · next ha => rw [ha, Finmap.lookup_erase]
  · next ha => rw [Finmap.lookup_erase_ne ha, lookup_toMap hi]

theorem Reloads.toMap {slot : Slot} {load : Nat} (hr : Reloads h slot load h')
    (hi : h.Indexed) : h'.toMap = h.toMap.insert slot.proxy.addr { slot with load } :=
  toMap_eq_insert hi hr.indexed hr.after

/-- What is taken out is a least entry. -/
theorem Ordered.least_of_popLeast (ho : h.Ordered) (hi : h.Indexed) {slot : Slot}
    (hpop : h.popLeast.1 = some slot) : h.toMap.Least slot := by
  have hmem : slot ∈ h.slots := by
    rw [popLeast_fst] at hpop
    exact Array.mem_of_getElem? hpop
  constructor
  · rw [lookup_toMap hi]
    exact (slot?_eq_some_iff hi).mpr ⟨hmem, rfl⟩
  · intro a other hother
    rw [lookup_toMap hi, slot?_eq_some_iff hi] at hother
    exact ho.popLeast_le hpop hother.1

/-- What is handed out is the record of a least entry. -/
theorem Ordered.least_of_borrow (ho : h.Ordered) (hi : h.Indexed) {slot : Slot}
    (hb : h.borrow.1 = some slot.proxy) (hslot : h.slot? slot.proxy.addr = some slot) :
    h.toMap.Least slot := by
  rw [borrow_fst, Option.map_eq_some_iff] at hb
  obtain ⟨least, hpop, hproxy⟩ := hb
  have hleast := ho.least_of_popLeast hi hpop
  -- A host has one slot, so the two are the same.
  have hentry := hleast.entry
  rw [lookup_toMap hi, hproxy, hslot, Option.some.injEq] at hentry
  rwa [hentry]

end

/-! ## Operations on the map -/

/-- What can be asked of a pool. -/
inductive Op where
  | insert (proxy : Proxy) (load : Nat)
  | reinsert (proxy : Proxy) (load : Nat)
  | popLeast
  | borrow
  | remove (addr : Address)
  | release (addr : Address)
deriving DecidableEq, Repr

/-- What a pool answers. -/
inductive Answer where
  | proxy (proxy : Option Proxy)
  | slot (slot : Option Slot)
  | released (released : Bool)
  | none
deriving DecidableEq, Repr

/-- What an operation answers, and what it makes of the map. -/
inductive Effect (m : SlotMap) : Op → Answer → SlotMap → Prop where
  /-- The record that the host had before is given back. -/
  | insert (proxy : Proxy) (load : Nat) :
    Effect m (.insert proxy load) (.proxy ((m.lookup proxy.addr).map (·.proxy)))
      (m.insert proxy.addr ⟨proxy, load⟩)
  | reinsert (proxy : Proxy) (load : Nat) :
    Effect m (.reinsert proxy load) .none
      (m.insert proxy.addr ⟨proxy, min (load + 1) Number.max32⟩)
  | popEmpty : m = ∅ → Effect m .popLeast (.slot none) m
  | popLeast {slot : Slot} : m.Least slot →
    Effect m .popLeast (.slot (some slot)) (m.erase slot.proxy.addr)
  | borrowEmpty : m = ∅ → Effect m .borrow (.proxy none) m
  /-- Only the load changes. -/
  | borrow {slot : Slot} : m.Least slot →
    Effect m .borrow (.proxy (some slot.proxy))
      (m.insert slot.proxy.addr { slot with load := min (slot.load + 1) Number.max32 })
  | remove (addr : Address) : Effect m (.remove addr) (.slot (m.lookup addr)) (m.erase addr)
  | release {addr : Address} {slot : Slot} : m.lookup addr = some slot → slot.load ≠ 0 →
    Effect m (.release addr) (.released true)
      (m.insert addr { slot with load := slot.load - 1 })
  /-- There is no such host, or it has no client. -/
  | refuse {addr : Address} : (∀ slot, m.lookup addr = some slot → slot.load = 0) →
    Effect m (.release addr) (.released false) m

/-- Does what is asked of the pool. -/
def step (h : LoadHeap) : Op → Answer × LoadHeap
  | .insert proxy load => (.proxy (h.insert proxy load).1, (h.insert proxy load).2)
  | .reinsert proxy load => (.none, h.reinsert proxy load)
  | .popLeast => (.slot h.popLeast.1, h.popLeast.2)
  | .borrow => (.proxy h.borrow.1, h.borrow.2)
  | .remove addr => (.slot (h.remove addr).1, (h.remove addr).2)
  | .release addr => (.released (h.release addr).1, (h.release addr).2)

/-- The pool after some operations, from an empty one on. -/
def run (ops : List Op) : LoadHeap :=
  ops.foldl (fun h op => (h.step op).2) empty

section
variable {h : LoadHeap}

theorem insert_fst (hi : h.Indexed) (proxy : Proxy) (load : Nat) :
    (h.insert proxy load).1 = (h.slot? proxy.addr).map (·.proxy) := by
  rw [← remove_fst hi]
  rfl

theorem indexed_step (hi : h.Indexed) (op : Op) : (h.step op).2.Indexed := by
  cases op with
  | insert proxy load => exact indexed_insert hi proxy load
  | reinsert proxy load => exact indexed_insert hi proxy (bump load)
  | popLeast =>
    rcases popLeast_cases hi with ⟨-, heq⟩ | ⟨_, -, -, hpi, -⟩
    · rwa [step, heq]
    · exact hpi
  | borrow =>
    rcases borrow_cases hi with ⟨-, heq⟩ | ⟨_, -, hr⟩
    · rwa [step, heq]
    · exact hr.indexed
  | remove addr => exact indexed_remove hi addr
  | release addr =>
    rcases release_cases hi addr with ⟨heq, -⟩ | ⟨_, -, -, -, hr⟩
    · rwa [step, heq]
    · exact hr.indexed

theorem Ordered.step (ho : h.Ordered) (op : Op) : (h.step op).2.Ordered := by
  cases op with
  | insert proxy load => exact ho.insert proxy load
  | reinsert proxy load => exact ho.insert proxy (bump load)
  | popLeast => exact ho.popLeast
  | borrow => exact ho.borrow
  | remove addr => exact ho.remove addr
  | release addr => exact ho.release addr

theorem effect_popLeast (hi : h.Indexed) (ho : h.Ordered) :
    Effect h.toMap .popLeast (.slot h.popLeast.1) h.popLeast.2.toMap := by
  rcases popLeast_cases hi with ⟨h0, heq⟩ | ⟨slot, -, heq, hpi, hafter⟩
  · rw [heq]
    exact .popEmpty (toMap_of_size_eq_zero h0)
  · have hleast := ho.least_of_popLeast hi heq
    rw [heq, toMap_eq_erase hi hpi hafter]
    exact .popLeast hleast

theorem effect_borrow (hi : h.Indexed) (ho : h.Ordered) :
    Effect h.toMap .borrow (.proxy h.borrow.1) h.borrow.2.toMap := by
  rcases borrow_cases hi with ⟨h0, heq⟩ | ⟨slot, heq, hr⟩
  · rw [heq]
    exact .borrowEmpty (toMap_of_size_eq_zero h0)
  · have hleast := ho.least_of_borrow hi heq hr.before
    rw [heq, hr.toMap hi]
    exact .borrow hleast

theorem effect_release (hi : h.Indexed) (addr : Address) :
    Effect h.toMap (.release addr) (.released (h.release addr).1) (h.release addr).2.toMap := by
  rcases release_cases hi addr with ⟨heq, hzero⟩ | ⟨slot, rfl, hne, heq, hr⟩
  · rw [heq]
    apply Effect.refuse
    intro slot hslot
    rw [lookup_toMap hi] at hslot
    exact hzero slot hslot
  · have hentry : h.toMap.lookup slot.proxy.addr = some slot := by
      rw [lookup_toMap hi]
      exact hr.before
    rw [heq, hr.toMap hi]
    exact .release hentry hne

/-- One operation. -/
theorem step_effect (hi : h.Indexed) (ho : h.Ordered) (op : Op) :
    Effect h.toMap op (h.step op).1 (h.step op).2.toMap := by
  cases op with
  | insert proxy load =>
    rw [step, insert_fst hi, ← lookup_toMap hi,
      toMap_eq_insert hi (indexed_insert hi proxy load) (slot?_insert hi proxy load)]
    exact .insert proxy load
  | reinsert proxy load =>
    rw [step, reinsert,
      toMap_eq_insert hi (indexed_insert hi proxy (bump load)) (slot?_insert hi proxy (bump load))]
    exact .reinsert proxy load
  | popLeast => exact effect_popLeast hi ho
  | borrow => exact effect_borrow hi ho
  | remove addr =>
    rw [step, remove_fst hi, ← lookup_toMap hi,
      toMap_eq_erase hi (indexed_remove hi addr) (slot?_remove hi addr)]
    exact .remove addr
  | release addr => exact effect_release hi addr

end

/-! ## Runs -/

theorem run_append (ops : List Op) (op : Op) : run (ops ++ [op]) = ((run ops).step op).2 := by
  rw [run, List.foldl_append]
  rfl

theorem run_sound (ops : List Op) : (run ops).Indexed ∧ (run ops).Ordered := by
  -- The induction follows the operations from the last one back.
  induction ops using List.reverseRecOn with
  | nil => exact ⟨indexed_empty, ordered_empty⟩
  | append_singleton ops op ih =>
    rw [run_append]
    exact ⟨indexed_step ih.1 op, ih.2.step op⟩

/-- **A pool is a finite map from hosts to records with loads.** After any operations,
each operation has its effect on the map that the slots make up, and the views show the
map. -/
theorem refines_map (ops : List Op) (op : Op) :
    Effect (run ops).toMap op ((run ops).step op).1 ((run ops).step op).2.toMap ∧
      (run ops).size = (run ops).toMap.keys.card ∧
      ∀ addr, ((run ops).contains addr = true ↔ addr ∈ (run ops).toMap) ∧
        (run ops).load? addr = ((run ops).toMap.lookup addr).map (·.load) := by
  obtain ⟨hi, ho⟩ := run_sound ops
  exact ⟨step_effect hi ho op, (card_keys_toMap hi).symm,
    fun addr => ⟨contains_iff_mem_toMap hi addr, load?_toMap hi addr⟩⟩

/-- The check of order and index succeeds after any operations. -/
theorem isOrdered_run (ops : List Op) : (run ops).isOrdered = true := by
  obtain ⟨hi, ho⟩ := run_sound ops
  rw [isOrdered, List.all_eq_true]
  intro i hmem
  have hlt : i < (run ops).slots.size := List.mem_range.mp hmem
  have hp : (i - 1) / 2 < (run ops).slots.size := by omega
  have hle : (run ops).slots[(i - 1) / 2].load ≤ (run ops).slots[i].load := by
    rw [← loadAt_getElem hp, ← loadAt_getElem hlt]
    by_cases h0 : i = 0
    · rw [h0]
    · exact ho i (by omega) hlt
  rw [Array.getElem?_eq_getElem hlt, Array.getElem?_eq_getElem hp]
  simp only [positions_getElem hi hlt, hle, decide_true, Bool.and_self]

end LoadHeap

end RelayBroker
