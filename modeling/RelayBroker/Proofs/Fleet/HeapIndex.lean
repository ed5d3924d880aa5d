/-
  RelayBroker.Proofs.Fleet.HeapIndex

  A load heap as a finite map from addresses to slots. `Indexed` says that the index
  leads from the address of each slot to its place and nowhere else; `slot?` reads the
  map off the heap. Every operation keeps the index exact, and for each of them a
  lemma `slot?_…` says what it does to the map.

  Moving slots about changes nothing in the map: a swap permutes the slots and mends
  the index (`swap_rearranges`), and the sifts are chains of swaps.
-/

import RelayBroker.Fleet.LoadHeap

namespace RelayBroker.LoadHeap

/-- The index leads from the address of each slot to its place, and nowhere else. -/
def Indexed (h : LoadHeap) : Prop :=
  ∀ addr i, h.positions.get? addr = some i ↔ (h.slots[i]?).map (·.proxy.addr) = some addr

/-- The slot of a host. -/
def slot? (h : LoadHeap) (addr : Address) : Option Slot :=
  (h.positions.get? addr).bind fun i => h.slots[i]?

theorem load?_eq (h : LoadHeap) (addr : Address) : h.load? addr = (h.slot? addr).map (·.load) := by
  simp only [load?, slot?, Option.map_bind]
  rfl

@[simp] theorem slot?_empty (addr : Address) : empty.slot? addr = none := rfl

theorem indexed_empty : empty.Indexed := by
  intro addr i
  simp [empty]

/-! ## The map and the slots -/

section
variable {h : LoadHeap} {addr : Address}

theorem slot?_eq_some_iff (hi : h.Indexed) {slot : Slot} :
    h.slot? addr = some slot ↔ slot ∈ h.slots ∧ slot.proxy.addr = addr := by
  rw [slot?, Option.bind_eq_some_iff]
  constructor
  · rintro ⟨i, hpos, hslot⟩
    have hat := (hi addr i).mp hpos
    rw [hslot, Option.map_some, Option.some.injEq] at hat
    exact ⟨Array.mem_of_getElem? hslot, hat⟩
  · rintro ⟨hmem, rfl⟩
    obtain ⟨i, hslot⟩ := Array.mem_iff_getElem?.mp hmem
    exact ⟨i, (hi _ i).mpr (by rw [hslot, Option.map_some]), hslot⟩

/-- The pool holds a record. -/
def Holds (h : LoadHeap) (proxy : Proxy) : Prop :=
  ∃ slot ∈ h.slots, slot.proxy = proxy

theorem slot?_addr (hi : h.Indexed) {slot : Slot} (hs : h.slot? addr = some slot) :
    slot.proxy.addr = addr :=
  ((slot?_eq_some_iff hi).mp hs).2

theorem slot?_getElem (hi : h.Indexed) {i : Nat} (hlt : i < h.slots.size) :
    h.slot? h.slots[i].proxy.addr = some h.slots[i] :=
  (slot?_eq_some_iff hi).mpr ⟨Array.getElem_mem hlt, rfl⟩

theorem slot?_eq_none_iff (hi : h.Indexed) :
    h.slot? addr = none ↔ h.positions.get? addr = none := by
  constructor
  · intro hs
    cases hpos : h.positions.get? addr with
    | none => rfl
    | some i =>
      -- An entry of the index leads to a slot, so there would be one.
      obtain ⟨slot, hslot, -⟩ := Option.map_eq_some_iff.mp ((hi addr i).mp hpos)
      rw [slot?, hpos, Option.bind_some, hslot] at hs
      exact absurd hs (by simp)
  · intro hpos
    rw [slot?, hpos, Option.bind_none]

theorem slot?_of_size_eq_zero (hi : h.Indexed) (h0 : h.slots.size = 0) (addr : Address) :
    h.slot? addr = none := by
  apply Option.eq_none_iff_forall_ne_some.mpr
  intro slot hslot
  have hmem := ((slot?_eq_some_iff hi).mp hslot).1
  rw [Array.eq_empty_of_size_eq_zero h0] at hmem
  exact absurd hmem (by simp)

theorem positions_eq_iff (hi : h.Indexed) {i : Nat} (hlt : i < h.slots.size) (addr : Address) :
    h.positions.get? addr = some i ↔ h.slots[i].proxy.addr = addr := by
  rw [hi, Array.getElem?_eq_getElem hlt, Option.map_some, Option.some.injEq]

theorem positions_getElem (hi : h.Indexed) {i : Nat} (hlt : i < h.slots.size) :
    h.positions.get? h.slots[i].proxy.addr = some i :=
  (positions_eq_iff hi hlt _).mpr rfl

/-- No address occurs in two slots. -/
theorem place_unique (hi : h.Indexed) {i j : Nat} (hlt : i < h.slots.size) (hjt : j < h.slots.size)
    (heq : h.slots[i].proxy.addr = h.slots[j].proxy.addr) : i = j := by
  have hpi := positions_getElem hi hlt
  rw [heq, positions_getElem hi hjt] at hpi
  exact (Option.some.inj hpi).symm

/-- The map is read off the slots: heaps with the same slots, in whatever order, are the
same map. -/
theorem slot?_of_perm {h' : LoadHeap} (hi : h.Indexed) (hi' : h'.Indexed)
    (hp : h'.slots.Perm h.slots) (addr : Address) : h'.slot? addr = h.slot? addr := by
  apply Option.ext
  intro slot
  rw [slot?_eq_some_iff hi', slot?_eq_some_iff hi, hp.mem_iff]

end

/-! ## Rearrangement -/

/-- `h'` has the slots of `h`, perhaps in another order, and its index is exact if that
of `h` is. -/
structure Rearranges (h h' : LoadHeap) : Prop where
  perm : h'.slots.Perm h.slots
  indexed : h.Indexed → h'.Indexed

namespace Rearranges

theorem refl (h : LoadHeap) : Rearranges h h := ⟨Array.Perm.refl _, id⟩

theorem trans {h h' h'' : LoadHeap} (h₁ : Rearranges h h') (h₂ : Rearranges h' h'') :
    Rearranges h h'' :=
  ⟨h₂.perm.trans h₁.perm, fun hi => h₂.indexed (h₁.indexed hi)⟩

theorem slot? {h h' : LoadHeap} (hr : Rearranges h h') (hi : h.Indexed) (addr : Address) :
    h'.slot? addr = h.slot? addr :=
  slot?_of_perm hi (hr.indexed hi) hr.perm addr

end Rearranges

theorem indexed_swap {h : LoadHeap} (hi : h.Indexed) (i j : Nat) (hlt : i < h.slots.size)
    (hjt : j < h.slots.size) : (h.swap i j hlt hjt).Indexed := by
  intro addr k
  simp only [swap, Array.getElem_swap_left, Array.getElem_swap_right, Table.get?_insert,
    Array.getElem?_swap]
  -- The two entries that were written are told apart from the others by where the index
  -- led before.
  have hpi := positions_eq_iff hi hlt addr
  have hpj := positions_eq_iff hi hjt addr
  have hk := hi addr k
  by_cases hjk : j = k
  · subst hjk
    rw [if_pos rfl, Option.map_some, Option.some.injEq]
    generalize h.slots[i].proxy.addr = ai, h.slots[j].proxy.addr = aj at hpi hpj ⊢
    clear hk
    grind
  · rw [if_neg hjk]
    by_cases hik : i = k
    · subst hik
      rw [if_pos rfl, Option.map_some, Option.some.injEq]
      generalize h.slots[i].proxy.addr = ai, h.slots[j].proxy.addr = aj at hpi hpj ⊢
      clear hk
      grind
    · rw [if_neg hik, ← hk]
      generalize h.slots[i].proxy.addr = ai, h.slots[j].proxy.addr = aj at hpi hpj ⊢
      clear hk
      grind

theorem swap_rearranges (h : LoadHeap) (i j : Nat) (hlt : i < h.slots.size)
    (hjt : j < h.slots.size) : Rearranges h (h.swap i j hlt hjt) :=
  ⟨Array.swap_perm hlt hjt, fun hi => indexed_swap hi i j hlt hjt⟩

theorem siftUp_rearranges (n : Nat) (h : LoadHeap) (i : Nat) (hlt : i < h.slots.size) :
    Rearranges h (siftUp n h i hlt) := by
  -- The induction is on the bound of the rounds; each round that goes on is one swap.
  induction n generalizing h i with
  | zero => exact Rearranges.refl h
  | succ n ih =>
    simp only [siftUp]
    split
    · exact Rearranges.refl h
    · split
      · exact Rearranges.refl h
      · exact (swap_rearranges ..).trans (ih ..)

theorem siftDown_rearranges (n : Nat) (h : LoadHeap) (i : Nat) (hlt : i < h.slots.size) :
    Rearranges h (siftDown n h i hlt) := by
  induction n generalizing h i with
  | zero => exact Rearranges.refl h
  | succ n ih =>
    simp only [siftDown]
    split
    · exact Rearranges.refl h
    · exact (swap_rearranges ..).trans (ih ..)

/-! ## Putting a slot in -/

section
variable {h : LoadHeap} {slot : Slot}

/-- A slot at the end of the array, before it is moved to its place. -/
theorem indexed_append (hi : h.Indexed) (hfree : h.slot? slot.proxy.addr = none) :
    Indexed ⟨h.slots.push slot, h.positions.insert slot.proxy.addr h.slots.size⟩ := by
  intro addr k
  have hnone := (slot?_eq_none_iff hi).mp hfree
  have hk := hi addr k
  -- The place after the last slot is the only one that the index gains.
  have hlast : ¬ h.positions.get? addr = some h.slots.size := by simp [hi addr]
  simp only [Table.get?_insert, Array.getElem?_push]
  by_cases hks : k = h.slots.size
  · subst hks
    rw [if_pos rfl, Option.map_some, Option.some.injEq]
    clear hk
    grind
  · rw [if_neg hks, ← hk]
    clear hk
    grind

theorem indexed_push (hi : h.Indexed) (hfree : h.slot? slot.proxy.addr = none) :
    (h.push slot).Indexed :=
  (siftUp_rearranges ..).indexed (indexed_append hi hfree)

theorem slot?_push (hi : h.Indexed) (hfree : h.slot? slot.proxy.addr = none) (addr : Address) :
    (h.push slot).slot? addr = if addr = slot.proxy.addr then some slot else h.slot? addr := by
  have happ := indexed_append hi hfree
  rw [push, (siftUp_rearranges ..).slot? happ]
  apply Option.ext
  intro s
  rw [slot?_eq_some_iff happ, Array.mem_push]
  split
  · next heq =>
    subst heq
    rw [Option.some.injEq]
    constructor
    · rintro ⟨hmem | rfl, haddr⟩
      -- A slot of the heap at this address is what `hfree` excludes.
      · have := (slot?_eq_some_iff hi).mpr ⟨hmem, haddr⟩
        rw [hfree] at this
        exact absurd this (by simp)
      · rfl
    · rintro rfl
      exact ⟨.inr rfl, rfl⟩
  · next hne =>
    rw [slot?_eq_some_iff hi]
    constructor
    · rintro ⟨hmem | rfl, haddr⟩
      · exact ⟨hmem, haddr⟩
      · exact absurd haddr.symm hne
    · exact fun hs => ⟨.inl hs.1, hs.2⟩

end

/-! ## Taking a slot out -/

section
variable {h : LoadHeap}

/-- Without its last slot, a heap is the same map but for the address of that slot. -/
theorem indexed_pop (hi : h.Indexed) (hlast : h.slots.size - 1 < h.slots.size) :
    Indexed ⟨h.slots.pop, h.positions.erase h.slots[h.slots.size - 1].proxy.addr⟩ := by
  intro addr k
  have hk := hi addr k
  have hpl := positions_eq_iff hi hlast addr
  simp only [Table.get?_erase, Array.getElem?_pop]
  generalize h.slots[h.slots.size - 1].proxy.addr = al at hpl ⊢
  -- Only the last place is cut off, and only its address leaves the index.
  by_cases hkl : k < h.slots.size - 1
  · rw [if_pos hkl, ← hk]
    clear hk
    grind
  · rw [if_neg hkl]
    have hend : h.positions.get? addr = some k → k = h.slots.size - 1 := by
      intro hpos
      obtain ⟨slot, hslot, -⟩ := Option.map_eq_some_iff.mp (hk.mp hpos)
      have hlt := (Array.getElem?_eq_some_iff.mp hslot).1
      omega
    clear hk
    grind

theorem slot?_pop (hi : h.Indexed) (hlast : h.slots.size - 1 < h.slots.size) (addr : Address) :
    slot? ⟨h.slots.pop, h.positions.erase h.slots[h.slots.size - 1].proxy.addr⟩ addr =
      if addr = h.slots[h.slots.size - 1].proxy.addr then none else h.slot? addr := by
  simp only [slot?, Table.get?_erase]
  split
  · rfl
  · next hne =>
    cases hpos : h.positions.get? addr with
    | none => rfl
    | some i =>
      obtain ⟨slot, hslot, haddr⟩ := Option.map_eq_some_iff.mp ((hi addr i).mp hpos)
      -- The place of another address is not the last one.
      have hil : i ≠ h.slots.size - 1 := by
        rintro rfl
        rw [Array.getElem?_eq_getElem hlast, Option.some.injEq] at hslot
        exact hne (haddr.symm.trans (by rw [hslot]))
      have hlt : i < h.slots.size := (Array.getElem?_eq_some_iff.mp hslot).1
      rw [Option.bind_some, Option.bind_some, Array.getElem?_pop, if_pos (by omega)]

variable {i : Nat}

theorem extract_fst (hlt : i < h.slots.size) : (h.extract i hlt).1 = h.slots[i] := by
  simp [extract, swap]

theorem indexed_extract (hi : h.Indexed) (hlt : i < h.slots.size) :
    (h.extract i hlt).2.Indexed := by
  -- The slot is swapped to the end, and the end is cut off.
  have hs := indexed_swap hi i (h.slots.size - 1) hlt (by omega)
  have hl : (h.swap i (h.slots.size - 1) hlt (by omega)).slots.size - 1 <
      (h.swap i (h.slots.size - 1) hlt (by omega)).slots.size := by
    rw [size_swap]
    omega
  simpa only [extract, size_swap] using indexed_pop hs hl

theorem slot?_extract (hi : h.Indexed) (hlt : i < h.slots.size) (addr : Address) :
    (h.extract i hlt).2.slot? addr =
      if addr = h.slots[i].proxy.addr then none else h.slot? addr := by
  have hr := swap_rearranges h i (h.slots.size - 1) hlt (by omega)
  have hl : (h.swap i (h.slots.size - 1) hlt (by omega)).slots.size - 1 <
      (h.swap i (h.slots.size - 1) hlt (by omega)).slots.size := by
    rw [size_swap]
    omega
  have hpop := slot?_pop (hr.indexed hi) hl addr
  simp only [size_swap, hr.slot? hi] at hpop
  rw [← extract_fst hlt]
  exact hpop

end

/-! ## The operations on the map -/

section
variable {h : LoadHeap}

/-- A removal finds nothing, or takes out the slot at a place and rearranges the rest. -/
theorem remove_cases (hi : h.Indexed) (addr : Address) :
    h.slot? addr = none ∧ h.remove addr = (none, h) ∨
    ∃ i, ∃ hlt : i < h.slots.size, h.slots[i].proxy.addr = addr ∧
      (h.remove addr).1 = some h.slots[i] ∧
      Rearranges (h.extract i hlt).2 (h.remove addr).2 := by
  cases hpos : h.positions.get? addr with
  | none => exact .inl ⟨(slot?_eq_none_iff hi).mpr hpos, by simp only [remove, hpos]⟩
  | some i =>
    obtain ⟨slot, hslot, haddr⟩ := Option.map_eq_some_iff.mp ((hi addr i).mp hpos)
    obtain ⟨hlt, rfl⟩ := Array.getElem?_eq_some_iff.mp hslot
    refine .inr ⟨i, hlt, haddr, ?_, ?_⟩
    · simp only [remove, hpos, dif_pos hlt]
      split <;> exact congrArg some (extract_fst hlt)
    -- The slot that came from the end may be too heavy or too light for its new place.
    · simp only [remove, hpos, dif_pos hlt]
      split
      · exact (siftDown_rearranges ..).trans (siftUp_rearranges ..)
      · exact Rearranges.refl _

theorem remove_fst (hi : h.Indexed) (addr : Address) : (h.remove addr).1 = h.slot? addr := by
  rcases remove_cases hi addr with ⟨hnone, heq⟩ | ⟨i, hlt, rfl, heq, -⟩
  · rw [heq, hnone]
  · rw [heq, slot?_getElem hi hlt]

theorem indexed_remove (hi : h.Indexed) (addr : Address) : (h.remove addr).2.Indexed := by
  rcases remove_cases hi addr with ⟨-, heq⟩ | ⟨i, hlt, -, -, hr⟩
  · rwa [heq]
  · exact hr.indexed (indexed_extract hi hlt)

theorem slot?_remove (hi : h.Indexed) (addr a : Address) :
    (h.remove addr).2.slot? a = if a = addr then none else h.slot? a := by
  rcases remove_cases hi addr with ⟨hnone, heq⟩ | ⟨i, hlt, rfl, -, hr⟩
  · rw [heq]
    split
    · next ha => rw [ha, hnone]
    · rfl
  · rw [hr.slot? (indexed_extract hi hlt), slot?_extract hi hlt]

theorem insert_snd (h : LoadHeap) (proxy : Proxy) (load : Nat) :
    (h.insert proxy load).2 = (h.remove proxy.addr).2.push ⟨proxy, load⟩ := rfl

theorem indexed_insert (hi : h.Indexed) (proxy : Proxy) (load : Nat) :
    (h.insert proxy load).2.Indexed := by
  rw [insert_snd]
  exact indexed_push (indexed_remove hi proxy.addr) (by rw [slot?_remove hi, if_pos rfl])

theorem slot?_insert (hi : h.Indexed) (proxy : Proxy) (load : Nat) (a : Address) :
    (h.insert proxy load).2.slot? a = if a = proxy.addr then some ⟨proxy, load⟩ else h.slot? a := by
  -- What was at the address is taken out first.
  have hfree : (h.remove proxy.addr).2.slot? proxy.addr = none := by
    rw [slot?_remove hi, if_pos rfl]
  rw [insert_snd, slot?_push (indexed_remove hi proxy.addr) hfree]
  split
  · rfl
  · next hne => rw [slot?_remove hi, if_neg hne]

/-- The least loaded proxy is missing only from an empty heap; else it is some slot of
the heap, and the rest is rearranged. -/
theorem popLeast_cases (hi : h.Indexed) :
    h.slots.size = 0 ∧ h.popLeast = (none, h) ∨
    ∃ slot, h.slot? slot.proxy.addr = some slot ∧ (h.popLeast).1 = some slot ∧
      (h.popLeast).2.Indexed ∧
      ∀ a, (h.popLeast).2.slot? a = if a = slot.proxy.addr then none else h.slot? a := by
  -- The least loaded proxy is at the root.
  by_cases h0 : 0 < h.slots.size
  · refine .inr ⟨h.slots[0], slot?_getElem hi h0, ?_, ?_⟩
    · simp only [popLeast, dif_pos h0]
      split <;> exact congrArg some (extract_fst h0)
    · have hr : Rearranges (h.extract 0 h0).2 h.popLeast.2 := by
        simp only [popLeast, dif_pos h0]
        split
        · exact siftDown_rearranges ..
        · exact Rearranges.refl _
      have hx := indexed_extract hi h0
      exact ⟨hr.indexed hx, fun a => by rw [hr.slot? hx, slot?_extract hi h0]⟩
  · exact .inl ⟨by omega, by simp only [popLeast, dif_neg h0]⟩

/-- `h'` is `h` but for the load of one slot. -/
structure Reloads (h : LoadHeap) (slot : Slot) (load : Nat) (h' : LoadHeap) : Prop where
  before : h.slot? slot.proxy.addr = some slot
  indexed : h'.Indexed
  after : ∀ a, h'.slot? a = if a = slot.proxy.addr then some { slot with load } else h.slot? a

/-- A borrowed proxy stays where it was, with one more client. -/
theorem borrow_cases (hi : h.Indexed) :
    h.slots.size = 0 ∧ h.borrow = (none, h) ∨
    ∃ slot, h.borrow.1 = some slot.proxy ∧ Reloads h slot (bump slot.load) h.borrow.2 := by
  rcases popLeast_cases hi with ⟨h0, heq⟩ | ⟨slot, hslot, heq, hpi, hps⟩
  · exact .inl ⟨h0, by simp only [borrow, heq]⟩
  -- It is taken out and put back with one client more.
  · have hpop : h.popLeast = (some slot, h.popLeast.2) := Prod.ext heq rfl
    have hb : h.borrow = (some slot.proxy, h.popLeast.2.reinsert slot.proxy slot.load) := by
      rw [borrow, hpop]
    rw [hb]
    refine .inr ⟨slot, rfl, hslot, indexed_insert hpi _ _, ?_⟩
    intro a
    rw [reinsert, slot?_insert hpi]
    split
    · rfl
    · next hne => rw [hps, if_neg hne]

/-- A slot with another load stays the slot of its host. -/
theorem indexed_setLoad (hi : h.Indexed) {i : Nat} (hlt : i < h.slots.size) (load : Nat) :
    Indexed ⟨h.slots.set i { h.slots[i] with load } hlt, h.positions⟩ := by
  intro a k
  rw [hi a k, Array.getElem?_set]
  split
  · next hik => rw [← hik, Array.getElem?_eq_getElem hlt, Option.map_some, Option.map_some]
  · rfl

theorem slot?_setLoad (hi : h.Indexed) {i : Nat} (hlt : i < h.slots.size) (load : Nat)
    (a : Address) :
    slot? ⟨h.slots.set i { h.slots[i] with load } hlt, h.positions⟩ a =
      if a = h.slots[i].proxy.addr then some { h.slots[i] with load } else h.slot? a := by
  split
  · next ha =>
    rw [slot?, ha, positions_getElem hi hlt, Option.bind_some, Array.getElem?_set, if_pos rfl]
  · next ha =>
    apply Option.bind_congr
    intro k hk
    -- Another address leads to another place.
    have hik : i ≠ k := by
      rintro rfl
      have hat := (hi a i).mp hk
      rw [Array.getElem?_eq_getElem hlt, Option.map_some, Option.some.injEq] at hat
      exact ha hat.symm
    rw [Array.getElem?_set, if_neg hik]

/-- Taking a client off a host fails if the host has no slot or no client; else its
slot has one client less. -/
theorem release_cases (hi : h.Indexed) (addr : Address) :
    (h.release addr = (false, h) ∧ ∀ slot, h.slot? addr = some slot → slot.load = 0) ∨
    ∃ slot, slot.proxy.addr = addr ∧ slot.load ≠ 0 ∧ (h.release addr).1 = true ∧
      Reloads h slot (slot.load - 1) (h.release addr).2 := by
  cases hpos : h.positions.get? addr with
  | none =>
    have hnone := (slot?_eq_none_iff hi).mpr hpos
    exact .inl ⟨by simp only [release, hpos], by simp [hnone]⟩
  | some i =>
    obtain ⟨slot, hslot, rfl⟩ := Option.map_eq_some_iff.mp ((hi addr i).mp hpos)
    obtain ⟨hlt, rfl⟩ := Array.getElem?_eq_some_iff.mp hslot
    have hat := slot?_getElem hi hlt
    -- A load of zero is not lowered.
    by_cases hz : h.slots[i].load = 0
    · exact .inl ⟨by simp only [release, hpos, dif_pos hlt, if_pos hz], by simp [hat, hz]⟩
    · have hset := indexed_setLoad hi hlt (h.slots[i].load - 1)
      simp only [release, hpos, dif_pos hlt, if_neg hz]
      refine .inr ⟨_, rfl, hz, trivial, hat, (siftUp_rearranges ..).indexed hset, ?_⟩
      intro a
      rw [(siftUp_rearranges ..).slot? hset, slot?_setLoad hi hlt]

end

end RelayBroker.LoadHeap
