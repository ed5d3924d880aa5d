/-
  RelayBroker.Proofs.Fleet.PoolChoice

  Which proxy is handed out. A client is served from one of the two pools
  (`servingClass`): an unrestricted client from the restricted pool as long as there is a
  proxy in it, every other client from the unrestricted pool alone. What is handed out
  has the least load in that pool and one client more afterwards; nothing else changes
  (`borrow_choice`).

  The pools are asked one after the other under an address that only one of them can
  have. That they are sorted (`Sorted`) makes this right, and that both are in heap order
  (`Ordered`) makes the choice least; every operation keeps both.
-/

import RelayBroker.Proofs.Fleet.HeapMap
import RelayBroker.Proofs.Fleet.PoolView

namespace RelayBroker

theorem LoadHeap.isEmpty_iff (h : LoadHeap) : h.isEmpty = true ↔ h.slots.size = 0 := by
  rw [isEmpty, Array.isEmpty_iff_size_eq_zero]

theorem LoadHeap.borrow_eq_none_iff (h : LoadHeap) : h.borrow.1 = none ↔ h.isEmpty = true := by
  rw [borrow_fst, popLeast_fst, Option.map_eq_none_iff, Array.getElem?_eq_none_iff, isEmpty_iff]
  omega

namespace Pools

/-! ## Heap order -/

/-- Both pools are in heap order. -/
structure Ordered (p : Pools) : Prop where
  unrestricted : p.unrestricted.Ordered
  restricted : p.restricted.Ordered

theorem ordered_empty : empty.Ordered :=
  ⟨LoadHeap.ordered_empty, LoadHeap.ordered_empty⟩

section
variable {p : Pools}

theorem Ordered.ofClass (ho : p.Ordered) (nat : NatClass) : (p.ofClass nat).Ordered := by
  cases nat with
  | unrestricted => exact ho.unrestricted
  | restricted => exact ho.restricted
  | unknown => exact ho.restricted

theorem Ordered.remove (ho : p.Ordered) (addr : Address) : (p.remove addr).2.Ordered := by
  have hu := ho.unrestricted.remove addr
  have hr := ho.restricted.remove addr
  rw [Pools.remove]
  split
  · next heq =>
    rw [heq] at hu
    exact ⟨hu, ho.restricted⟩
  · exact ⟨ho.unrestricted, hr⟩

theorem Ordered.insert (ho : p.Ordered) (proxy : Proxy) (load : Nat) :
    (p.insert proxy load).2.Ordered := by
  have hrest := ho.remove proxy.addr
  rw [insert_snd]
  split
  · exact ⟨hrest.unrestricted.insert proxy load, hrest.restricted⟩
  · exact ⟨hrest.unrestricted, hrest.restricted.insert proxy load⟩

theorem Ordered.borrowUnrestricted (ho : p.Ordered) : p.borrowUnrestricted.2.Ordered :=
  ⟨ho.unrestricted.borrow, ho.restricted⟩

theorem Ordered.borrow (ho : p.Ordered) (client : NatClass) : (p.borrow client).2.Ordered := by
  have hr := ho.restricted.borrow
  cases client with
  | unrestricted =>
    rw [Pools.borrow]
    split
    · next heq =>
      rw [heq] at hr
      exact ⟨ho.unrestricted, hr⟩
    · exact ho.borrowUnrestricted
  | restricted => exact ho.borrowUnrestricted
  | unknown => exact ho.borrowUnrestricted

theorem Ordered.release (ho : p.Ordered) (addr : Address) : (p.release addr).2.Ordered := by
  have hu := ho.unrestricted.release addr
  have hr := ho.restricted.release addr
  rw [Pools.release]
  split
  · next heq =>
    rw [heq] at hu
    exact ⟨hu, ho.restricted⟩
  · exact ⟨ho.unrestricted, hr⟩

/-! ## The choice -/

/-- The class of the proxies from which a client is served: an unrestricted client leaves
the unrestricted ones to those that need them, as long as it can. -/
def servingClass (p : Pools) : NatClass → NatClass
  | .unrestricted => if p.restricted.isEmpty then .unrestricted else .restricted
  | .restricted | .unknown => .unrestricted

/-- The pool from which a client is served. -/
def serving (p : Pools) (client : NatClass) : LoadHeap :=
  p.ofClass (p.servingClass client)

/-- Only the pool that serves the client is asked for a proxy. -/
theorem borrow_eq (p : Pools) (client : NatClass) :
    (p.borrow client).1 = (p.serving client).borrow.1 ∧
      ∀ nat, (p.borrow client).2.ofClass nat =
        if nat = .unrestricted ↔ p.servingClass client = .unrestricted then
          (p.ofClass nat).borrow.2
        else p.ofClass nat := by
  have hopen : p.borrowUnrestricted.1 = (p.ofClass .unrestricted).borrow.1 ∧
      ∀ nat, p.borrowUnrestricted.2.ofClass nat =
        if nat = .unrestricted then (p.ofClass nat).borrow.2 else p.ofClass nat :=
    ⟨rfl, fun nat => by cases nat <;> rfl⟩
  cases client with
  | unrestricted =>
    have hnone := p.restricted.borrow_eq_none_iff
    rw [borrow, serving, servingClass]
    split
    · next proxy rest heq =>
      -- The restricted pool has handed something out, so it was not empty.
      rw [heq] at hnone
      have hne : ¬ p.restricted.isEmpty = true := fun h => absurd (hnone.mpr h) (by simp)
      rw [if_neg hne, ofClass, heq]
      refine ⟨rfl, fun nat => ?_⟩
      cases nat <;> simp [ofClass, heq]
    · next rest heq =>
      rw [heq] at hnone
      rw [if_pos (hnone.mp rfl)]
      simpa only [iff_true] using hopen
  | restricted => simpa only [borrow, serving, servingClass, iff_true] using hopen
  | unknown => simpa only [borrow, serving, servingClass, iff_true] using hopen

/-- What handing out a proxy for a client answers, and what it makes of the pools. -/
inductive Choice (p : Pools) (client : NatClass) : Option Proxy → Pools → Prop where
  | none : (p.serving client).isEmpty = true → Choice p client none p
  /-- In both pools, only the load of the host that is handed out changes. -/
  | some {slot : Slot} {p' : Pools} : (p.serving client).toMap.Least slot →
    (∀ nat addr, (p'.ofClass nat).toMap.lookup addr =
      ((p.ofClass nat).toMap.lookup addr).map fun s =>
        if addr = slot.proxy.addr then { s with load := min (s.load + 1) Number.max32 } else s) →
    Choice p client (some slot.proxy) p'

/-- There are two pools: classes that agree on being unrestricted share one. -/
theorem ofClass_congr (p : Pools) {nat other : NatClass}
    (hclass : nat = .unrestricted ↔ other = .unrestricted) : p.ofClass nat = p.ofClass other := by
  cases nat <;> cases other <;> simp [ofClass] at hclass ⊢

/-- A host that is in one pool is not in the other. -/
theorem Sorted.slot?_other (hs : p.Sorted) {nat other : NatClass} {addr : Address} {slot : Slot}
    (hslot : (p.ofClass nat).slot? addr = some slot)
    (hclass : ¬ (other = .unrestricted ↔ nat = .unrestricted)) :
    (p.ofClass other).slot? addr = none := by
  rw [ofClass_slot?_eq_some_iff hs] at hslot
  apply Option.eq_none_iff_forall_ne_some.mpr
  intro s hother
  rw [ofClass_slot?_eq_some_iff hs, hslot.1, Option.some.injEq] at hother
  obtain ⟨rfl, hnat⟩ := hother
  exact hclass (hnat.trans hslot.2.symm)

/-- The least loaded proxy of the pool that serves the client is handed out. -/
theorem borrow_choice (hs : p.Sorted) (ho : p.Ordered) (client : NatClass) :
    Choice p client (p.borrow client).1 (p.borrow client).2 := by
  have hi := hs.indexed (p.servingClass client)
  obtain ⟨hfst, hsnd⟩ := borrow_eq p client
  rcases LoadHeap.borrow_cases hi with ⟨h0, heq⟩ | ⟨slot, heq, hr⟩
  · have hnone : (p.borrow client).1 = none := by rw [hfst, serving, heq]
    -- Nothing was handed out, so nothing changed.
    rcases borrow_cases hs client with ⟨hsame, -⟩ | ⟨_, hsome, -⟩
    · rw [hsame]
      exact .none ((LoadHeap.isEmpty_iff _).mpr h0)
    · rw [hnone] at hsome
      exact absurd hsome (by simp)
  · rw [hfst, serving, heq]
    refine .some ((ho.ofClass _).least_of_borrow hi heq hr.before) ?_
    intro nat addr
    rw [hsnd, LoadHeap.lookup_toMap (hs.indexed nat)]
    split
    · next hclass =>
      rw [ofClass_congr p hclass, LoadHeap.lookup_toMap hr.indexed, hr.after]
      split
      · next ha => rw [ha, hr.before, Option.map_some, LoadHeap.bump]
      · rw [Option.map_id']
    · next hclass =>
      rw [LoadHeap.lookup_toMap (hs.indexed nat)]
      by_cases ha : addr = slot.proxy.addr
      · rw [ha, hs.slot?_other hr.before hclass, Option.map_none]
      · simp only [if_neg ha, Option.map_id']

/-- Nothing is handed out exactly if no pool that the client can use has a proxy. -/
theorem borrow_eq_none_iff (p : Pools) (client : NatClass) :
    (p.borrow client).1 = none ↔
      p.unrestricted.isEmpty = true ∧ (client = .unrestricted → p.restricted.isEmpty = true) := by
  rw [(borrow_eq p client).1, LoadHeap.borrow_eq_none_iff, serving]
  cases client with
  | unrestricted =>
    rw [servingClass]
    split
    · next hempty => simp [ofClass, hempty]
    · next hne => simp [ofClass, hne]
  | restricted => simp [servingClass, ofClass]
  | unknown => simp [servingClass, ofClass]

end

/-! ## Runs -/

/-- What can be asked of the pools. -/
inductive Op where
  | insert (proxy : Proxy) (load : Nat)
  | borrow (client : NatClass)
  | remove (addr : Address)
  | release (addr : Address)
deriving DecidableEq, Repr

/-- The pools after an operation. -/
def step (p : Pools) : Op → Pools
  | .insert proxy load => (p.insert proxy load).2
  | .borrow client => (p.borrow client).2
  | .remove addr => (p.remove addr).2
  | .release addr => (p.release addr).2

/-- The pools after some operations, from empty ones on. -/
def run (ops : List Op) : Pools :=
  ops.foldl step empty

section
variable {p : Pools}

theorem sorted_step (hs : p.Sorted) (op : Op) : (p.step op).Sorted := by
  cases op with
  | insert proxy load => exact sorted_insert hs proxy load
  | borrow client =>
    rcases borrow_cases hs client with ⟨heq, -⟩ | ⟨_, -, -, hr⟩
    · rwa [step, heq]
    · exact hr.sorted
  | remove addr => exact sorted_remove hs addr
  | release addr =>
    rcases release_cases hs addr with ⟨heq, -⟩ | ⟨_, -, -, -, hr⟩
    · rwa [step, heq]
    · exact hr.sorted

theorem Ordered.step (ho : p.Ordered) (op : Op) : (p.step op).Ordered := by
  cases op with
  | insert proxy load => exact ho.insert proxy load
  | borrow client => exact ho.borrow client
  | remove addr => exact ho.remove addr
  | release addr => exact ho.release addr

/-- No host has two slots, be it in one pool or in both. -/
theorem Sorted.nodup_addrs (hs : p.Sorted) : (p.slots.map (·.proxy.addr)).Nodup := by
  rw [slots, List.map_append, List.nodup_append]
  refine ⟨LoadHeap.nodup_addrs hs.indexedU, LoadHeap.nodup_addrs hs.indexedR, ?_⟩
  intro addr hu other hr heq
  subst heq
  obtain ⟨slot, hmem, rfl⟩ := List.mem_map.mp hu
  obtain ⟨other, hother, haddr⟩ := List.mem_map.mp hr
  have hin := (LoadHeap.slot?_eq_some_iff hs.indexedU).mpr ⟨Array.mem_toList_iff.mp hmem, rfl⟩
  have hout := (LoadHeap.slot?_eq_some_iff hs.indexedR).mpr ⟨Array.mem_toList_iff.mp hother, haddr⟩
  rw [restricted_none hs hin] at hout
  exact absurd hout (by simp)

end

theorem run_sound (ops : List Op) : (run ops).Sorted ∧ (run ops).Ordered := by
  -- The induction follows the operations from the last one back.
  induction ops using List.reverseRecOn with
  | nil => exact ⟨sorted_empty, ordered_empty⟩
  | append_singleton ops op ih =>
    rw [run, List.foldl_append]
    exact ⟨sorted_step ih.1 op, ih.2.step op⟩

/-- **The least loaded eligible proxy is handed out.** After any operations each pool has
the proxies of its own class only and no host is in two places; a client is handed the
least loaded proxy of the pool that serves it, or nothing if there is none that it can
use. -/
theorem least_loaded_handed_out (ops : List Op) :
    (∀ slot ∈ (run ops).unrestricted.slots, slot.proxy.nat = .unrestricted) ∧
      (∀ slot ∈ (run ops).restricted.slots, slot.proxy.nat ≠ .unrestricted) ∧
      ((run ops).slots.map (·.proxy.addr)).Nodup ∧
      ∀ client,
        Choice (run ops) client ((run ops).borrow client).1 ((run ops).borrow client).2 ∧
          (((run ops).borrow client).1 = none ↔
            (run ops).unrestricted.isEmpty = true ∧
              (client = .unrestricted → (run ops).restricted.isEmpty = true)) := by
  obtain ⟨hs, ho⟩ := run_sound ops
  refine ⟨?_, ?_, hs.nodup_addrs, fun client =>
    ⟨borrow_choice hs ho client, borrow_eq_none_iff _ client⟩⟩
  · intro slot hmem
    exact hs.natU ((LoadHeap.slot?_eq_some_iff hs.indexedU).mpr ⟨hmem, rfl⟩)
  · intro slot hmem
    exact hs.natR ((LoadHeap.slot?_eq_some_iff hs.indexedR).mpr ⟨hmem, rfl⟩)

end Pools

end RelayBroker
