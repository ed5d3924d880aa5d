/-
  RelayBroker.Proofs.Fleet.HeapPlaces

  Every place that a load heap looks at has a slot, and every loop of it ends.

  The operations of a heap are given once more, so that both can go wrong: a place is
  looked up, which fails where there is no slot, and a loop is given a number of rounds,
  after which it fails unless it has ended (`step?`). On a heap whose index is exact they
  never fail and do what the operations do (`step?_eq`): what is found in the index is a
  place with a slot, a slot that rises takes a lower place in each round, and one that
  sinks a higher place.

  Main statement: `run_represented`.
-/

import RelayBroker.Proofs.Fleet.HeapMap
import RelayBroker.Proofs.Table.Count

namespace RelayBroker.LoadHeap

/-! ## Looking places up -/

/-- Exchanges two slots, if both places have one. -/
def swap? (h : LoadHeap) (i j : Nat) : Option LoadHeap :=
  if hs : i < h.slots.size ∧ j < h.slots.size then some (h.swap i j hs.1 hs.2) else none

/-- Moves the slot at `i` towards the root; fails if it has not come to rest after
`rounds` looks at its parent. -/
def siftUp? : (rounds : Nat) → LoadHeap → Nat → Option LoadHeap
  | 0, _, _ => none
  | n + 1, h, i =>
    if i = 0 then some h
    else do
      let parent ← h.slots[(i - 1) / 2]?
      let slot ← h.slots[i]?
      if parent.load ≤ slot.load then some h
      else
        let h ← h.swap? ((i - 1) / 2) i
        siftUp? n h ((i - 1) / 2)

/-- The place `k`, if it is in the heap and its slot is lighter than the one at `best`;
else the place `best`. -/
def lighter? (h : LoadHeap) (k best : Nat) : Option Nat :=
  if k < h.slots.size then do
    let slot ← h.slots[k]?
    let other ← h.slots[best]?
    some (if slot.load < other.load then k else best)
  else some best

/-- Moves the slot at `i` away from the root; fails if it has not come to rest after
`rounds` looks at its children. -/
def siftDown? : (rounds : Nat) → LoadHeap → Nat → Option LoadHeap
  | 0, _, _ => none
  | n + 1, h, i => do
    let left ← h.lighter? (2 * i + 1) i
    let least ← h.lighter? (2 * i + 2) left
    if least = i then some h
    else
      let h ← h.swap? i least
      siftDown? n h least

/-- Exchanges the slot at `i` with the last one and takes it off the end. -/
def extract? (h : LoadHeap) (i : Nat) : Option (Slot × LoadHeap) :=
  if h.slots.size = 0 then none
  else do
    let swapped ← h.swap? i (h.slots.size - 1)
    let slot ← swapped.slots.back?
    some (slot, ⟨swapped.slots.pop, swapped.positions.erase slot.proxy.addr⟩)

/-- Takes out the proxy at a host, with its load. -/
def remove? (rounds : Nat) (h : LoadHeap) (addr : Address) : Option (Option Slot × LoadHeap) :=
  match h.positions.get? addr with
  | none => some (none, h)
  | some i => do
    let (slot, rest) ← h.extract? i
    if i < rest.slots.size then
      let lowered ← siftDown? rounds rest i
      let raised ← siftUp? rounds lowered i
      some (some slot, raised)
    else some (some slot, rest)

/-- Puts in a proxy with a load. -/
def insert? (rounds : Nat) (h : LoadHeap) (proxy : Proxy) (load : Nat) :
    Option (Option Proxy × LoadHeap) := do
  let (replaced, rest) ← h.remove? rounds proxy.addr
  let i := rest.slots.size
  let raised ← siftUp? rounds
    ⟨rest.slots.push ⟨proxy, load⟩, rest.positions.insert proxy.addr i⟩ i
  some (replaced.map (·.proxy), raised)

/-- Takes out the proxy with the least load. -/
def popLeast? (rounds : Nat) (h : LoadHeap) : Option (Option Slot × LoadHeap) :=
  if h.slots.size = 0 then some (none, h)
  else do
    let (slot, rest) ← h.extract? 0
    if rest.slots.size = 0 then some (some slot, rest)
    else
      let lowered ← siftDown? rounds rest 0
      some (some slot, lowered)

/-- Hands out the proxy with the least load. -/
def borrow? (rounds : Nat) (h : LoadHeap) : Option (Option Proxy × LoadHeap) := do
  let (least, rest) ← h.popLeast? rounds
  match least with
  | none => some (none, rest)
  | some slot =>
    let (_, lent) ← rest.insert? rounds slot.proxy (bump slot.load)
    some (some slot.proxy, lent)

/-- Takes one client off a host. -/
def release? (rounds : Nat) (h : LoadHeap) (addr : Address) : Option (Bool × LoadHeap) :=
  match h.positions.get? addr with
  | none => some (false, h)
  | some i => do
    let slot ← h.slots[i]?
    if slot.load = 0 then some (false, h)
    else
      let lightened : LoadHeap :=
        ⟨h.slots.setIfInBounds i { slot with load := slot.load - 1 }, h.positions⟩
      let raised ← siftUp? rounds lightened i
      some (true, raised)

/-- Does what is asked of the pool; fails where a place without a slot is looked up, or
where a loop has not ended after `rounds` rounds. -/
def step? (rounds : Nat) (h : LoadHeap) : Op → Option (Answer × LoadHeap)
  | .insert proxy load =>
    (h.insert? rounds proxy load).map fun (replaced, h) => (.proxy replaced, h)
  | .reinsert proxy load => (h.insert? rounds proxy (bump load)).map fun (_, h) => (.none, h)
  | .popLeast => (h.popLeast? rounds).map fun (least, h) => (.slot least, h)
  | .borrow => (h.borrow? rounds).map fun (proxy, h) => (.proxy proxy, h)
  | .remove addr => (h.remove? rounds addr).map fun (removed, h) => (.slot removed, h)
  | .release addr => (h.release? rounds addr).map fun (released, h) => (.released released, h)

/-! ## The loops -/

section
variable {h : LoadHeap} {i : Nat}

theorem swap?_eq {j : Nat} (hi : i < h.slots.size) (hj : j < h.slots.size) :
    h.swap? i j = some (h.swap i j hi hj) :=
  dif_pos ⟨hi, hj⟩

/-- A slot that rises comes to rest after as many rounds as the number of its place. -/
theorem siftUp?_eq {n m : Nat} (hi : i < h.slots.size) (hn : i < n) (hm : i ≤ m) :
    siftUp? n h i = some (siftUp m h i hi) := by
  -- The induction is on the rounds; in each of them the place gets lower.
  induction n generalizing h i m with
  | zero => omega
  | succ n ih =>
    have hp : (i - 1) / 2 < h.slots.size := by omega
    rw [siftUp?]
    by_cases h0 : i = 0
    · rw [if_pos h0]
      cases m with
      | zero => rfl
      | succ m => rw [siftUp, if_pos h0]
    · obtain ⟨m, rfl⟩ : ∃ k, m = k + 1 := ⟨m - 1, by omega⟩
      rw [if_neg h0, siftUp, if_neg h0]
      simp only [Array.getElem?_eq_getElem hp, Array.getElem?_eq_getElem hi, Option.bind_eq_bind,
        Option.bind_some]
      split
      · rfl
      · rw [swap?_eq hp hi, Option.bind_some]
        apply ih
        · omega
        · omega

theorem lighter?_eq {k best : Nat} (hb : best < h.slots.size) :
    h.lighter? k best = some
      (if hk : k < h.slots.size then if h.slots[k].load < h.slots[best].load then k else best
        else best) := by
  rw [lighter?]
  by_cases hk : k < h.slots.size
  · rw [if_pos hk, dif_pos hk]
    simp only [Array.getElem?_eq_getElem hk, Array.getElem?_eq_getElem hb, Option.bind_eq_bind,
      Option.bind_some]
  · rw [if_neg hk, dif_neg hk]

/-- Looking up the two children gives the least of the three places. -/
theorem lighter?_leastChild (hi : i < h.slots.size) :
    (h.lighter? (2 * i + 1) i >>= fun left => h.lighter? (2 * i + 2) left) =
      some (h.leastChild i hi).1 := by
  rw [lighter?_eq hi, Option.bind_eq_bind, Option.bind_some]
  simp only [leastChild]
  -- The left child is looked up first, and the right one beside the lesser of the two.
  split
  · split
    · next hl _ =>
      rw [lighter?_eq hl]
      split
      · split <;> rfl
      · rfl
    · rw [lighter?_eq hi]
      split
      · split <;> rfl
      · rfl
  · rw [lighter?_eq hi]
    split
    · split <;> rfl
    · rfl

/-- A slot that sinks comes to rest before there are no places left. -/
theorem siftDown?_eq {n m : Nat} (hi : i < h.slots.size) (hn : h.slots.size ≤ n + i)
    (hm : h.slots.size ≤ m + i) : siftDown? n h i = some (siftDown m h i hi) := by
  induction n generalizing h i m with
  | zero => omega
  | succ n ih =>
    obtain ⟨m, rfl⟩ : ∃ k, m = k + 1 := ⟨m - 1, by omega⟩
    have hlook := lighter?_leastChild hi
    have hleast := leastChild_leastAround hi
    have hk := (h.leastChild i hi).2
    rw [siftDown?, ← bind_assoc, hlook, Option.bind_eq_bind, Option.bind_some, siftDown]
    split
    · rfl
    · next hne =>
      have hlt := hleast.lt hne
      rw [swap?_eq hi hk, Option.bind_eq_bind, Option.bind_some]
      apply ih
      · rw [size_swap]
        omega
      · rw [size_swap]
        omega

/-! ## The operations -/

theorem lt_of_positions {addr : Address} (hi : h.Indexed) (hpos : h.positions.get? addr = some i) :
    i < h.slots.size := by
  obtain ⟨slot, hslot, -⟩ := Option.map_eq_some_iff.mp ((hi addr i).mp hpos)
  exact (Array.getElem?_eq_some_iff.mp hslot).1

theorem extract?_eq (hi : i < h.slots.size) : h.extract? i = some (h.extract i hi) := by
  have hlast : h.slots.size - 1 < h.slots.size := by omega
  have hswap : h.slots.size - 1 < (h.swap i (h.slots.size - 1) hi hlast).slots.size := by
    rw [size_swap]
    exact hlast
  have hback : (h.swap i (h.slots.size - 1) hi hlast).slots.back? =
      some (h.swap i (h.slots.size - 1) hi hlast).slots[h.slots.size - 1] := by
    rw [Array.back?_eq_getElem?, size_swap, Array.getElem?_eq_getElem hswap]
  rw [extract?, if_neg (by omega), swap?_eq hi hlast, Option.bind_eq_bind, Option.bind_some, hback]
  rfl

variable {rounds : Nat}

theorem remove?_eq (hi : h.Indexed) (hn : h.slots.size < rounds) (addr : Address) :
    h.remove? rounds addr = some (h.remove addr) := by
  cases hpos : h.positions.get? addr with
  | none => simp only [remove?, remove, hpos]
  | some i =>
    have hlt := lt_of_positions hi hpos
    have hsize := size_extract hlt
    simp only [remove?, remove, hpos, dif_pos hlt, extract?_eq hlt, Option.bind_eq_bind,
      Option.bind_some]
    split
    · next hr =>
      have hr' : i <
          (siftDown (h.extract i hlt).2.slots.size (h.extract i hlt).2 i hr).slots.size := by
        rw [size_siftDown]
        exact hr
      rw [siftDown?_eq hr (by omega) (Nat.le_add_right _ _), Option.bind_some,
        siftUp?_eq hr' (by omega) (Nat.le_refl i), Option.bind_some]
    · rfl

theorem size_remove_le (h : LoadHeap) (addr : Address) :
    (h.remove addr).2.slots.size ≤ h.slots.size := by
  rw [remove]
  split
  · exact Nat.le_refl _
  · next i _ =>
    split
    · next hlt =>
      have hsize : (h.extract i hlt).2.slots.size ≤ h.slots.size := by
        rw [size_extract hlt]
        exact Nat.sub_le ..
      simp only
      split
      · rwa [size_siftUp, size_siftDown]
      · exact hsize
    · exact Nat.le_refl _

theorem insert?_eq (hi : h.Indexed) (hn : h.slots.size < rounds) (proxy : Proxy) (load : Nat) :
    h.insert? rounds proxy load = some (h.insert proxy load) := by
  have hsize := size_remove_le h proxy.addr
  have hplace : (h.remove proxy.addr).2.slots.size <
      ((h.remove proxy.addr).2.slots.push ⟨proxy, load⟩).size := by
    rw [Array.size_push]
    omega
  simp only [insert?, remove?_eq hi hn, Option.bind_eq_bind, Option.bind_some]
  rw [siftUp?_eq hplace (by omega) (Nat.le_refl _), Option.bind_some]
  rfl

theorem popLeast?_eq (hn : h.slots.size < rounds) : h.popLeast? rounds = some h.popLeast := by
  rw [popLeast?, popLeast]
  by_cases h0 : h.slots.size = 0
  · rw [if_pos h0, dif_neg (by omega)]
  · have hlt : 0 < h.slots.size := by omega
    have hsize := size_extract hlt
    simp only [if_neg h0, dif_pos hlt, extract?_eq hlt, Option.bind_eq_bind, Option.bind_some]
    by_cases hr : (h.extract 0 hlt).2.slots.size = 0
    · rw [if_pos hr, dif_neg (by omega)]
    · have hr' : 0 < (h.extract 0 hlt).2.slots.size := by omega
      rw [if_neg hr, dif_pos hr', siftDown?_eq hr' (by omega) (Nat.le_refl _), Option.bind_some]
      rfl

theorem size_popLeast_le (h : LoadHeap) : h.popLeast.2.slots.size ≤ h.slots.size := by
  rw [popLeast]
  split
  · next h0 =>
    have hsize : (h.extract 0 h0).2.slots.size ≤ h.slots.size := by
      rw [size_extract h0]
      exact Nat.sub_le ..
    simp only
    split
    · rwa [size_siftDown]
    · exact hsize
  · exact Nat.le_refl _

theorem borrow?_eq (hi : h.Indexed) (hn : h.slots.size < rounds) :
    h.borrow? rounds = some h.borrow := by
  have hpopped : h.popLeast.2.Indexed := indexed_step hi .popLeast
  have hsize := size_popLeast_le h
  rw [borrow?, popLeast?_eq hn, Option.bind_eq_bind, Option.bind_some, borrow]
  generalize h.popLeast = popped at hpopped hsize ⊢
  obtain ⟨least, rest⟩ := popped
  cases least with
  | none => rfl
  | some slot =>
    show (rest.insert? rounds slot.proxy (bump slot.load) >>= fun (_, lent) =>
      some (some slot.proxy, lent)) = _
    rw [insert?_eq hpopped (Nat.lt_of_le_of_lt hsize hn)]
    rfl

theorem release?_eq (hi : h.Indexed) (hn : h.slots.size < rounds) (addr : Address) :
    h.release? rounds addr = some (h.release addr) := by
  cases hpos : h.positions.get? addr with
  | none => simp only [release?, release, hpos]
  | some i =>
    have hlt := lt_of_positions hi hpos
    simp only [release?, release, hpos, dif_pos hlt, Array.getElem?_eq_getElem hlt,
      Option.bind_eq_bind, Option.bind_some]
    split
    · rfl
    · have hset : h.slots.setIfInBounds i { h.slots[i] with load := h.slots[i].load - 1 } =
          h.slots.set i { h.slots[i] with load := h.slots[i].load - 1 } hlt := by
        rw [Array.setIfInBounds, dif_pos hlt]
      have hplace :
          i < (h.slots.set i { h.slots[i] with load := h.slots[i].load - 1 } hlt).size := by
        rw [Array.size_set]
        exact hlt
      rw [hset, siftUp?_eq hplace (by omega) (Nat.le_refl i), Option.bind_some]

/-- On a heap whose index is exact, no operation looks at a place without a slot, and every
loop ends after fewer rounds than there are places for one slot more. -/
theorem step?_eq (hi : h.Indexed) (hn : h.slots.size < rounds) (op : Op) :
    h.step? rounds op = some (h.step op) := by
  cases op with
  | insert proxy load => rw [step?, insert?_eq hi hn]; rfl
  | reinsert proxy load => rw [step?, insert?_eq hi hn]; rfl
  | popLeast => rw [step?, popLeast?_eq hn]; rfl
  | borrow => rw [step?, borrow?_eq hi hn]; rfl
  | remove addr => rw [step?, remove?_eq hi hn]; rfl
  | release addr => rw [step?, release?_eq hi hn]; rfl

/-! ## The keys of the index -/

/-- The index has as many keys as there are slots. -/
theorem size_positions (hi : h.Indexed) : h.positions.size = h.slots.size := by
  have hkeys : h.positions.keys = h.toMap.keys := by
    ext addr
    rw [Table.mem_keys, Finmap.mem_keys, ← contains_iff_mem_toMap hi, contains, Table.contains_iff]
  rw [← Table.card_keys, hkeys, card_keys_toMap hi, size]

end

/-! ## Runs -/

/-- **After any operations the heap is what it stands for.** Every slot has at least the load of
its parent, and no address occurs in two slots; the index leads from the address of each slot to
its place, has no other keys, and so as many as there are slots. And whatever is asked of the
heap next, no place is looked at that has no slot, and every loop ends: after at most one round
more than there are slots. -/
theorem run_represented (ops : List Op) :
    let h := run ops
    (∀ j, 0 < j → j < h.slots.size → h.loadAt ((j - 1) / 2) ≤ h.loadAt j) ∧
      (h.slots.toList.map (·.proxy.addr)).Nodup ∧
      (∀ addr i, h.positions.get? addr = some i ↔
        (h.slots[i]?).map (·.proxy.addr) = some addr) ∧
      h.positions.size = h.slots.size ∧
      ∀ op more, h.step? (h.slots.size + 1 + more) op = some (h.step op) := by
  intro h
  obtain ⟨hi, ho⟩ := run_sound ops
  refine ⟨ho, nodup_addrs hi, hi, size_positions hi, ?_⟩
  intro op more
  apply step?_eq hi
  show h.slots.size < h.slots.size + 1 + more
  omega

/-- The last slot, with load 3, comes to the place of the removed one, below a slot with load 10,
and so it has to rise. -/
example :
    let proxy (load : UInt8) : Proxy := ⟨0, "", "", .unrestricted, .v4 10 0 0 load, 0⟩
    let h := run ([0, 10, 1, 11, 12, 2, 3].map fun load => .insert (proxy load) load.toNat)
    (h.step? 8 (.remove (.v4 10 0 0 11))).map (fun (_, rest) => rest.slots.toList.map (·.load)) =
      some [0, 3, 1, 10, 12, 2] := by
  decide +kernel

end RelayBroker.LoadHeap
