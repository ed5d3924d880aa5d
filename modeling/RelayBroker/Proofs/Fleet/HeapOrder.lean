/-
  RelayBroker.Proofs.Fleet.HeapOrder

  The order of a load heap: every slot has at least the load of its parent, and so the
  root has the least load of all (`Ordered.root_le`). Every operation keeps the order.

  Both sifts start from a heap that is out of order around one place only. A slot that
  was put in at the end, or that lost a client, may be too light for its place
  (`Rising`); each step towards the root takes that one place further up. A slot that
  came from the end into the place of another one may be out of order with its parent
  and with its children (`Displaced`). If it moves away from the root, the child that
  takes its place is no lighter than the parent, and the heap is ordered; if it does not
  move, it may still be too light. That is why a removal sifts down first and up after
  that (`siftDown_rising`).
-/

import RelayBroker.Proofs.Fleet.HeapIndex

namespace RelayBroker.LoadHeap

/-! ## Loads by place -/

/-- The load at a place; past the last slot there is none. -/
def loadAt (h : LoadHeap) (i : Nat) : Nat :=
  (h.slots[i]?).elim 0 (·.load)

theorem loadAt_getElem {h : LoadHeap} {i : Nat} (hlt : i < h.slots.size) :
    h.loadAt i = h.slots[i].load := by
  rw [loadAt, Array.getElem?_eq_getElem hlt, Option.elim_some]

theorem loadAt_swap (h : LoadHeap) (i j : Nat) (hlt : i < h.slots.size) (hjt : j < h.slots.size)
    (k : Nat) :
    (h.swap i j hlt hjt).loadAt k =
      if k = i then h.loadAt j else if k = j then h.loadAt i else h.loadAt k := by
  -- A swap of a place with itself falls under both cases.
  simp only [loadAt, swap, Array.getElem?_swap]
  by_cases hkj : j = k
  · subst hkj
    rw [if_pos rfl, if_pos rfl, Array.getElem?_eq_getElem hlt]
    split
    · next hki => simp only [hki, Array.getElem?_eq_getElem hlt]
    · rfl
  · rw [if_neg hkj]
    by_cases hki : i = k
    · rw [if_pos hki, if_pos hki.symm, Array.getElem?_eq_getElem hjt]
    · rw [if_neg hki, if_neg fun heq => hki heq.symm, if_neg fun heq => hkj heq.symm]

/-- Every slot has at least the load of its parent. -/
def Ordered (h : LoadHeap) : Prop :=
  ∀ j, 0 < j → j < h.slots.size → h.loadAt ((j - 1) / 2) ≤ h.loadAt j

theorem ordered_empty : empty.Ordered := by
  intro j _ hj
  simp [empty] at hj

section
variable {h : LoadHeap} {i : Nat}

/-- No slot has a lesser load than the root. -/
theorem Ordered.root_le (ho : h.Ordered) (hlt : i < h.slots.size) : h.loadAt 0 ≤ h.loadAt i := by
  -- The induction follows the way from the slot to the root.
  induction i using Nat.strongRecOn with
  | ind i ih =>
    by_cases h0 : i = 0
    · subst h0
      exact Nat.le_refl _
    · have hparent : h.loadAt 0 ≤ h.loadAt ((i - 1) / 2) := ih ((i - 1) / 2) (by omega) (by omega)
      have hslot := ho i (by omega) hlt
      omega

/-! ## Towards the root -/

/-- The heap is in order but for the slot at `i`, which may be lighter than its parent. Its
children are no lighter than that parent, so the two may change places. -/
structure Rising (h : LoadHeap) (i : Nat) : Prop where
  others : ∀ j, 0 < j → j < h.slots.size → j ≠ i → h.loadAt ((j - 1) / 2) ≤ h.loadAt j
  children : 0 < i → ∀ j, 0 < j → j < h.slots.size → (j - 1) / 2 = i →
    h.loadAt ((i - 1) / 2) ≤ h.loadAt j

theorem Ordered.rising (ho : h.Ordered) (hlt : i < h.slots.size) : h.Rising i where
  others j hj hjt _ := ho j hj hjt
  children h0 j hj hjt hparent := by
    have hchild := ho j hj hjt
    have hslot := ho i h0 hlt
    rw [hparent] at hchild
    omega

theorem Rising.ordered (hr : h.Rising i) (hle : 0 < i → h.loadAt ((i - 1) / 2) ≤ h.loadAt i) :
    h.Ordered := by
  intro j hj hjt
  by_cases hji : j = i
  · subst hji
    exact hle hj
  · exact hr.others j hj hjt hji

/-- The slot changes places with its parent, and may be too light there. -/
theorem Rising.swap (hr : h.Rising i) (h0 : 0 < i) (hp : (i - 1) / 2 < h.slots.size)
    (hlt : i < h.slots.size) (hlight : h.loadAt i < h.loadAt ((i - 1) / 2)) :
    (h.swap ((i - 1) / 2) i hp hlt).Rising ((i - 1) / 2) where
  others j hj hjt hne := by
    rw [size_swap] at hjt
    -- The children of the old place now have the old parent above them; those of the new
    -- place have a lighter parent than before.
    have hbefore := hr.others j hj hjt
    have hbelow := hr.children h0 j hj hjt
    rw [loadAt_swap, loadAt_swap]
    grind
  children hp0 j hj hjt hparent := by
    rw [size_swap] at hjt
    have hbefore := hr.others j hj hjt
    have habove := hr.others ((i - 1) / 2) hp0 hp (by omega)
    rw [loadAt_swap, loadAt_swap]
    grind

theorem siftUp_ordered (n : Nat) (h : LoadHeap) (i : Nat) (hlt : i < h.slots.size) (hn : i ≤ n)
    (hr : h.Rising i) : (siftUp n h i hlt).Ordered := by
  induction n generalizing h i with
  | zero =>
    obtain rfl : i = 0 := by omega
    exact hr.ordered fun hpos => absurd hpos (by omega)
  | succ n ih =>
    simp only [siftUp]
    split
    · next h0 => exact hr.ordered fun hpos => absurd h0 (by omega)
    · next h0 =>
      have hp : (i - 1) / 2 < h.slots.size := by omega
      rw [← loadAt_getElem hp, ← loadAt_getElem hlt]
      split
      · next hle => exact hr.ordered fun _ => hle
      · next hlight =>
        have hswap := hr.swap (by omega) hp hlt (by omega)
        exact ih _ _ _ (by omega) hswap

/-! ## Away from the root -/

/-- `k` is the place `i` itself or that of a lighter child, and no child is lighter than the
slot there. -/
structure LeastAround (h : LoadHeap) (i k : Nat) : Prop where
  place : k = i ∨ 0 < k ∧ (k - 1) / 2 = i ∧ h.loadAt k < h.loadAt i
  least : ∀ j, 0 < j → j < h.slots.size → (j - 1) / 2 = i → h.loadAt k ≤ h.loadAt j

theorem LeastAround.lt {k : Nat} (hleast : h.LeastAround i k) (hne : k ≠ i) : i < k := by
  have hchild := hleast.place.resolve_left hne
  omega

theorem leastChild_leastAround (hlt : i < h.slots.size) :
    h.LeastAround i (h.leastChild i hlt).1 := by
  have hchild : ∀ j, 0 < j → (j - 1) / 2 = i → j = 2 * i + 1 ∨ j = 2 * i + 2 := by omega
  have hload : ∀ j (hj : j < h.slots.size), h.slots[j].load = h.loadAt j :=
    fun j hj => (loadAt_getElem hj).symm
  -- The left child is compared first, and the right one with the lesser of the two.
  simp only [leastChild, hload]
  split <;> split <;> constructor <;> grind

/-- The heap is in order but for the slot at `i`, which may be out of order with its parent
and with its children. The children are no lighter than that parent. -/
structure Displaced (h : LoadHeap) (i : Nat) : Prop where
  others : ∀ j, 0 < j → j < h.slots.size → j ≠ i → (j - 1) / 2 ≠ i →
    h.loadAt ((j - 1) / 2) ≤ h.loadAt j
  children : 0 < i → ∀ j, 0 < j → j < h.slots.size → (j - 1) / 2 = i →
    h.loadAt ((i - 1) / 2) ≤ h.loadAt j

/-- A slot with no lighter child can only be too light. -/
theorem Displaced.rising (hd : h.Displaced i) (hleast : h.LeastAround i i) : h.Rising i where
  others j hj hjt hne := by
    by_cases hparent : (j - 1) / 2 = i
    · rw [hparent]
      exact hleast.least j hj hjt hparent
    · exact hd.others j hj hjt hne hparent
  children := hd.children

/-- The slot changes places with its lightest child, and may be out of order there. -/
theorem Displaced.swap (hd : h.Displaced i) (hlt : i < h.slots.size) {k : Nat}
    (hk : k < h.slots.size) (hleast : h.LeastAround i k) (hne : k ≠ i) :
    (h.swap i k hlt hk).Displaced k where
  others j hj hjt hjk hnot := by
    rw [size_swap] at hjt
    obtain ⟨hk0, hparent, hlight⟩ := hleast.place.resolve_left hne
    -- The child that moved up is no heavier than its sibling, and no lighter than the parent.
    have hbefore := hd.others j hj hjt
    have hbelow := hd.children
    have hsibling := hleast.least j hj hjt
    rw [loadAt_swap, loadAt_swap]
    grind
  children _ j hj hjt hgrand := by
    rw [size_swap] at hjt
    obtain ⟨hk0, hparent, hlight⟩ := hleast.place.resolve_left hne
    have hbefore := hd.others j hj hjt
    rw [loadAt_swap, loadAt_swap]
    grind

/-- After the change of places, the lighter one is above the other. -/
theorem LeastAround.swap_le (hlt : i < h.slots.size) {k : Nat} (hk : k < h.slots.size)
    (hleast : h.LeastAround i k) (hne : k ≠ i) :
    (h.swap i k hlt hk).loadAt ((k - 1) / 2) ≤ (h.swap i k hlt hk).loadAt k := by
  obtain ⟨-, hparent, hlight⟩ := hleast.place.resolve_left hne
  rw [hparent, loadAt_swap, loadAt_swap, if_pos rfl, if_neg hne, if_pos rfl]
  omega

/-- A slot that is not lighter than its parent ends in order. -/
theorem siftDown_ordered (n : Nat) (h : LoadHeap) (i : Nat) (hlt : i < h.slots.size)
    (hn : h.slots.size ≤ n + i) (hd : h.Displaced i)
    (hle : 0 < i → h.loadAt ((i - 1) / 2) ≤ h.loadAt i) : (siftDown n h i hlt).Ordered := by
  induction n generalizing h i with
  | zero => omega
  | succ n ih =>
    have hleast := leastChild_leastAround hlt
    simp only [siftDown]
    split
    · next heq =>
      rw [heq] at hleast
      exact (hd.rising hleast).ordered hle
    · next hne =>
      have hik := hleast.lt hne
      have hswap := hd.swap hlt (h.leastChild i hlt).2 hleast hne
      have hbelow := hleast.swap_le hlt (h.leastChild i hlt).2 hne
      exact ih _ _ _ (by rw [size_swap]; omega) hswap fun _ => hbelow

/-- Any slot ends where at most the slot at its old place is too light. -/
theorem siftDown_rising (n : Nat) (h : LoadHeap) (i : Nat) (hlt : i < h.slots.size)
    (hn : h.slots.size ≤ n + i) (hd : h.Displaced i) : (siftDown n h i hlt).Rising i := by
  cases n with
  | zero => omega
  | succ n =>
    have hleast := leastChild_leastAround hlt
    simp only [siftDown]
    split
    · next heq =>
      rw [heq] at hleast
      exact hd.rising hleast
    · next hne =>
      have hik := hleast.lt hne
      have hswap := hd.swap hlt (h.leastChild i hlt).2 hleast hne
      have hbelow := hleast.swap_le hlt (h.leastChild i hlt).2 hne
      have hordered := siftDown_ordered n _ _ (by simpa using (h.leastChild i hlt).2)
        (by rw [size_swap]; omega) hswap fun _ => hbelow
      exact hordered.rising (by rw [size_siftDown, size_swap]; exact hlt)

/-! ## The operations -/

theorem Ordered.push (ho : h.Ordered) (slot : Slot) : (h.push slot).Ordered := by
  have hload : ∀ j, j < h.slots.size →
      loadAt ⟨h.slots.push slot, h.positions.insert slot.proxy.addr h.slots.size⟩ j =
        h.loadAt j := by
    intro j hj
    rw [loadAt, loadAt, Array.getElem?_push_lt hj, Array.getElem?_eq_getElem hj]
  -- The new slot has no children, so it can only be too light.
  have hrising : Rising ⟨h.slots.push slot, h.positions.insert slot.proxy.addr h.slots.size⟩
      h.slots.size := by
    constructor
    · intro j hj hjt hne
      rw [Array.size_push] at hjt
      rw [hload j (by omega), hload _ (by omega)]
      exact ho j hj (by omega)
    · intro _ j hj hjt hparent
      rw [Array.size_push] at hjt
      omega
  exact siftUp_ordered _ _ _ _ (Nat.le_refl _) hrising

theorem size_extract (hlt : i < h.slots.size) :
    (h.extract i hlt).2.slots.size = h.slots.size - 1 := by
  simp [extract]

theorem loadAt_extract (hlt : i < h.slots.size) {j : Nat} (hj : j < h.slots.size - 1) :
    (h.extract i hlt).2.loadAt j =
      if j = i then h.loadAt (h.slots.size - 1) else h.loadAt j := by
  have hswap := loadAt_swap h i (h.slots.size - 1) hlt (by omega) j
  rw [if_neg (show j ≠ h.slots.size - 1 by omega)] at hswap
  rw [← hswap]
  simp only [extract, loadAt, Array.getElem?_pop, size_swap, if_pos hj]

/-- Only the slot that came from the end can be out of order. -/
theorem Ordered.extract (ho : h.Ordered) (hlt : i < h.slots.size) :
    (h.extract i hlt).2.Displaced i where
  others j hj hjt hne hnot := by
    rw [size_extract] at hjt
    rw [loadAt_extract hlt hjt, loadAt_extract hlt (by omega), if_neg hne, if_neg hnot]
    exact ho j hj (by omega)
  children h0 j hj hjt hparent := by
    rw [size_extract] at hjt
    have hslot := ho i h0 hlt
    have hchild := ho j hj (by omega)
    rw [hparent] at hchild
    rw [loadAt_extract hlt hjt, loadAt_extract hlt (by omega), if_neg (by omega),
      if_neg (by omega)]
    omega

/-- Without its last slot, a heap is in order. -/
theorem Ordered.extract_last (ho : h.Ordered) (hlt : i < h.slots.size)
    (hlast : ¬ i < (h.extract i hlt).2.slots.size) : (h.extract i hlt).2.Ordered := by
  intro j hj hjt
  rw [size_extract] at hlast hjt
  rw [loadAt_extract hlt hjt, loadAt_extract hlt (by omega), if_neg (by omega), if_neg (by omega)]
  exact ho j hj (by omega)

theorem Ordered.remove (ho : h.Ordered) (addr : Address) : (h.remove addr).2.Ordered := by
  rw [LoadHeap.remove]
  split
  · exact ho
  · next i hpos =>
    split
    · next hlt =>
      simp only
      split
      · next hr =>
        have hrising := siftDown_rising (h.extract i hlt).2.slots.size _ _ hr
          (Nat.le_add_right _ _) (ho.extract hlt)
        exact siftUp_ordered _ _ _ _ (Nat.le_refl _) hrising
      · next hlast => exact ho.extract_last hlt hlast
    · exact ho

theorem Ordered.insert (ho : h.Ordered) (proxy : Proxy) (load : Nat) :
    (h.insert proxy load).2.Ordered := by
  rw [insert_snd]
  exact (ho.remove proxy.addr).push _

theorem Ordered.popLeast (ho : h.Ordered) : h.popLeast.2.Ordered := by
  rw [LoadHeap.popLeast]
  split
  · next h0 =>
    simp only
    split
    · next hr =>
      -- The root has no parent to be in order with.
      exact siftDown_ordered _ _ _ hr (Nat.le_refl _) (ho.extract h0)
        fun hpos => absurd hpos (by omega)
    · next hlast => exact ho.extract_last h0 hlast
  · exact ho

theorem Ordered.borrow (ho : h.Ordered) : h.borrow.2.Ordered := by
  have hpop := ho.popLeast
  rw [LoadHeap.borrow]
  split
  · next rest heq =>
    rw [heq] at hpop
    exact hpop
  · next slot rest heq =>
    rw [heq] at hpop
    exact hpop.insert slot.proxy (bump slot.load)

theorem Ordered.release (ho : h.Ordered) (addr : Address) : (h.release addr).2.Ordered := by
  rw [LoadHeap.release]
  split
  · exact ho
  · next i hpos =>
    split
    · next hlt =>
      simp only
      split
      · exact ho
      · have hload : ∀ j, loadAt ⟨h.slots.set i { h.slots[i] with load := h.slots[i].load - 1 } hlt,
            h.positions⟩ j = if j = i then h.loadAt i - 1 else h.loadAt j := by
          intro j
          rw [loadAt_getElem hlt, loadAt, Array.getElem?_set]
          split
          · next hij => rw [if_pos hij.symm, Option.elim_some]
          · next hij => rw [if_neg fun hji => hij hji.symm, loadAt]
        -- A slot that was lightened is in order with its children, but perhaps too light.
        refine siftUp_ordered _ _ _ _ (Nat.le_refl _)
          ⟨fun j hj hjt hne => ?_, fun h0 j hj hjt hparent => ?_⟩
        · rw [Array.size_set] at hjt
          have hbefore := ho j hj hjt
          rw [hload, hload, if_neg hne]
          split
          · next hparent =>
            rw [hparent] at hbefore
            omega
          · exact hbefore
        · rw [Array.size_set] at hjt
          have hslot := ho i h0 hlt
          have hchild := ho j hj hjt
          rw [hparent] at hchild
          rw [hload, hload, if_neg (by omega), if_neg (by omega)]
          omega
    · exact ho

/-! ## The least load -/

theorem popLeast_fst (h : LoadHeap) : h.popLeast.1 = h.slots[0]? := by
  rw [LoadHeap.popLeast]
  split
  · next h0 =>
    rw [Array.getElem?_eq_getElem h0, ← extract_fst h0]
    simp only
    split <;> rfl
  · next h0 => rw [Array.getElem?_eq_none (by omega)]

theorem borrow_fst (h : LoadHeap) : h.borrow.1 = h.popLeast.1.map (·.proxy) := by
  rw [LoadHeap.borrow]
  split
  · next heq => rw [heq, Option.map_none]
  · next heq => rw [heq, Option.map_some]

/-- What is taken out has the least load of all. -/
theorem Ordered.popLeast_le (ho : h.Ordered) {slot other : Slot}
    (hpop : h.popLeast.1 = some slot) (hmem : other ∈ h.slots) : slot.load ≤ other.load := by
  rw [popLeast_fst] at hpop
  obtain ⟨h0, rfl⟩ := Array.getElem?_eq_some_iff.mp hpop
  obtain ⟨j, hj, rfl⟩ := Array.mem_iff_getElem.mp hmem
  rw [← loadAt_getElem h0, ← loadAt_getElem hj]
  exact ho.root_le hj

end

end RelayBroker.LoadHeap
