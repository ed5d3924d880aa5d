/-
  RelayBroker.Proofs.Fleet.PoolView

  The two pools as one finite map from addresses to slots. `Sorted` says that both heaps
  have exact indexes, that each holds the proxies of its own class only, and that no
  address is in both. Every operation keeps the pools sorted, and for each a lemma says
  what it does to the map.
-/

import RelayBroker.Fleet.Pools
import RelayBroker.Proofs.Fleet.HeapIndex

namespace RelayBroker

/-- Whether a proxy of the class `proxy` can carry a client of the class `client`. -/
def NatClass.CanServe (proxy client : NatClass) : Prop :=
  client = .unrestricted ∨ proxy = .unrestricted

namespace Pools

/-- Both heaps have exact indexes, each holds the proxies of its class, and no address
is in both. -/
structure Sorted (p : Pools) : Prop where
  indexedU : p.unrestricted.Indexed
  indexedR : p.restricted.Indexed
  natU : ∀ {a slot}, p.unrestricted.slot? a = some slot → slot.proxy.nat = .unrestricted
  natR : ∀ {a slot}, p.restricted.slot? a = some slot → slot.proxy.nat ≠ .unrestricted
  apart : ∀ a, p.unrestricted.slot? a = none ∨ p.restricted.slot? a = none

/-- The slot of a host, in whichever pool it is. -/
def slot? (p : Pools) (addr : Address) : Option Slot :=
  (p.unrestricted.slot? addr).or (p.restricted.slot? addr)

/-- The proxy that is pooled at a host. -/
def proxy? (p : Pools) (addr : Address) : Option Proxy :=
  (p.slot? addr).map (·.proxy)

@[simp] theorem slot?_empty (addr : Address) : empty.slot? addr = none := rfl

theorem sorted_empty : empty.Sorted where
  indexedU := LoadHeap.indexed_empty
  indexedR := LoadHeap.indexed_empty
  natU h := by simp [empty] at h
  natR h := by simp [empty] at h
  apart _ := .inl rfl

theorem load?_eq (p : Pools) (addr : Address) : p.load? addr = (p.slot? addr).map (·.load) := by
  rw [load?, LoadHeap.load?_eq, LoadHeap.load?_eq, slot?]
  cases p.unrestricted.slot? addr <;> rfl

theorem proxy?_eq_some_iff {p : Pools} {addr : Address} {proxy : Proxy} :
    p.proxy? addr = some proxy ↔ ∃ load, p.slot? addr = some ⟨proxy, load⟩ := by
  rw [proxy?, Option.map_eq_some_iff]
  constructor
  · rintro ⟨⟨_, load⟩, hslot, rfl⟩
    exact ⟨load, hslot⟩
  · rintro ⟨load, hslot⟩
    exact ⟨_, hslot, rfl⟩

theorem proxy?_eq_none_iff {p : Pools} {addr : Address} :
    p.proxy? addr = none ↔ p.slot? addr = none := by
  rw [proxy?, Option.map_eq_none_iff]

/-! ## The map and the pools -/

section
variable {p : Pools} {addr : Address} {slot : Slot}

theorem slot?_eq_some_iff (hs : p.Sorted) :
    p.slot? addr = some slot ↔
      p.unrestricted.slot? addr = some slot ∨ p.restricted.slot? addr = some slot := by
  rw [slot?, Option.or_eq_some_iff]
  rcases hs.apart addr with hu | hr
  · simp [hu]
  · simp [hr]

theorem slot?_addr (hs : p.Sorted) (h : p.slot? addr = some slot) : slot.proxy.addr = addr := by
  rcases (slot?_eq_some_iff hs).mp h with hu | hr
  · exact LoadHeap.slot?_addr hs.indexedU hu
  · exact LoadHeap.slot?_addr hs.indexedR hr

/-- A pooled record is the one at its host. -/
theorem addr_eq_iff_of_pooled (hs : p.Sorted) {proxy : Proxy}
    (hp : p.proxy? proxy.addr = some proxy) (hslot : p.slot? addr = some slot) :
    proxy.addr = addr ↔ proxy = slot.proxy := by
  constructor
  · rintro rfl
    rw [proxy?, hslot, Option.map_some, Option.some.injEq] at hp
    exact hp.symm
  · rintro rfl
    exact slot?_addr hs hslot

theorem mem_slots_iff (hs : p.Sorted) :
    slot ∈ p.slots ↔ p.slot? slot.proxy.addr = some slot := by
  rw [slot?_eq_some_iff hs, LoadHeap.slot?_eq_some_iff hs.indexedU,
    LoadHeap.slot?_eq_some_iff hs.indexedR]
  simp [slots]

theorem Sorted.indexed (hs : p.Sorted) (nat : NatClass) : (p.ofClass nat).Indexed := by
  cases nat with
  | unrestricted => exact hs.indexedU
  | restricted => exact hs.indexedR
  | unknown => exact hs.indexedR

/-- The pool of a class has those slots whose proxies belong there. -/
theorem ofClass_slot?_eq_some_iff (hs : p.Sorted) {nat : NatClass} :
    (p.ofClass nat).slot? addr = some slot ↔
      p.slot? addr = some slot ∧ (nat = .unrestricted ↔ slot.proxy.nat = .unrestricted) := by
  rw [slot?_eq_some_iff hs]
  -- What each pool holds tells the class, and so in which pool a slot can be.
  have hu : p.unrestricted.slot? addr = some slot → slot.proxy.nat = .unrestricted := hs.natU
  have hr : p.restricted.slot? addr = some slot → slot.proxy.nat ≠ .unrestricted := hs.natR
  cases nat <;> simp only [ofClass, reduceCtorEq, false_iff, true_iff] <;> grind

/-- The pool of a class holds the pooled records that belong there. -/
theorem holds_ofClass_iff (hs : p.Sorted) (nat : NatClass) (proxy : Proxy) :
    (p.ofClass nat).Holds proxy ↔
      p.proxy? proxy.addr = some proxy ∧ (nat = .unrestricted ↔ proxy.nat = .unrestricted) := by
  have hi := hs.indexed nat
  have hslot : (p.ofClass nat).Holds proxy ↔
      ∃ load, (p.ofClass nat).slot? proxy.addr = some ⟨proxy, load⟩ := by
    simp only [LoadHeap.slot?_eq_some_iff hi, and_true]
    constructor
    · rintro ⟨⟨_, load⟩, hmem, rfl⟩
      exact ⟨load, hmem⟩
    · rintro ⟨load, hmem⟩
      exact ⟨_, hmem, rfl⟩
  rw [hslot, proxy?_eq_some_iff]
  simp only [ofClass_slot?_eq_some_iff hs, exists_and_right]

/-- A record is pooled exactly if one of the two pools holds it. -/
theorem holds_iff (hs : p.Sorted) (proxy : Proxy) :
    p.unrestricted.Holds proxy ∨ p.restricted.Holds proxy ↔
      p.proxy? proxy.addr = some proxy := by
  have hu := holds_ofClass_iff hs .unrestricted proxy
  have hr := holds_ofClass_iff hs .restricted proxy
  simp only [ofClass, true_iff, reduceCtorEq, false_iff] at hu hr
  rw [hu, hr, ← and_or_left, and_iff_left (Decidable.em _)]

/-- Another heap in place of the unrestricted one, with nothing that does not belong
there. -/
theorem Sorted.setUnrestricted (hs : p.Sorted) {h : LoadHeap} (hi : h.Indexed)
    (hsub : ∀ a slot, h.slot? a = some slot →
      slot.proxy.nat = .unrestricted ∧ p.restricted.slot? a = none) :
    Sorted { p with unrestricted := h } where
  indexedU := hi
  indexedR := hs.indexedR
  natU hslot := (hsub _ _ hslot).1
  natR := hs.natR
  apart a := by
    cases hslot : h.slot? a with
    | none => exact .inl rfl
    | some slot => exact .inr (hsub a slot hslot).2

/-- Another heap in place of the restricted one, with nothing that does not belong
there. -/
theorem Sorted.setRestricted (hs : p.Sorted) {h : LoadHeap} (hi : h.Indexed)
    (hsub : ∀ a slot, h.slot? a = some slot →
      slot.proxy.nat ≠ .unrestricted ∧ p.unrestricted.slot? a = none) :
    Sorted { p with restricted := h } where
  indexedU := hs.indexedU
  indexedR := hi
  natU := hs.natU
  natR hslot := (hsub _ _ hslot).1
  apart a := by
    cases hslot : h.slot? a with
    | none => exact .inr rfl
    | some slot => exact .inl (hsub a slot hslot).2

theorem restricted_none (hs : p.Sorted) (h : p.unrestricted.slot? addr = some slot) :
    p.restricted.slot? addr = none :=
  (hs.apart addr).resolve_left (by simp [h])

theorem unrestricted_none (hs : p.Sorted) (h : p.restricted.slot? addr = some slot) :
    p.unrestricted.slot? addr = none :=
  (hs.apart addr).resolve_right (by simp [h])

end

/-! ## Removal -/

section
variable {p : Pools}

/-- A removal takes the host out of the heap that holds it; the other one does not. -/
theorem remove_snd (hs : p.Sorted) (addr : Address) :
    (p.remove addr).2 =
      if p.unrestricted.slot? addr = none then
        { p with restricted := (p.restricted.remove addr).2 }
      else { p with unrestricted := (p.unrestricted.remove addr).2 } := by
  -- The unrestricted pool is asked first, and the other one only if it has no such host.
  have h1 := LoadHeap.remove_fst hs.indexedU addr
  rw [remove]
  split
  · next slot rest heq =>
    rw [heq] at h1
    rw [if_neg (by simp [← h1]), heq]
  · next rest heq =>
    rw [heq] at h1
    rw [if_pos h1.symm]

theorem sorted_remove (hs : p.Sorted) (addr : Address) : (p.remove addr).2.Sorted := by
  rw [remove_snd hs]
  split
  · apply hs.setRestricted (LoadHeap.indexed_remove hs.indexedR addr)
    intro a slot hslot
    rw [LoadHeap.slot?_remove hs.indexedR, Option.ite_none_left_eq_some] at hslot
    exact ⟨hs.natR hslot.2, unrestricted_none hs hslot.2⟩
  · apply hs.setUnrestricted (LoadHeap.indexed_remove hs.indexedU addr)
    intro a slot hslot
    rw [LoadHeap.slot?_remove hs.indexedU, Option.ite_none_left_eq_some] at hslot
    exact ⟨hs.natU hslot.2, restricted_none hs hslot.2⟩

theorem slot?_remove (hs : p.Sorted) (addr a : Address) :
    (p.remove addr).2.slot? a = if a = addr then none else p.slot? a := by
  rw [remove_snd hs]
  split
  · next hu =>
    simp only [slot?, LoadHeap.slot?_remove hs.indexedR]
    split
    · next ha => rw [ha, hu, Option.none_or]
    · rfl
  · next hu =>
    simp only [slot?, LoadHeap.slot?_remove hs.indexedU]
    split
    · next ha => rw [ha, Option.none_or, (hs.apart addr).resolve_left hu]
    · rfl

theorem remove_free (hs : p.Sorted) (addr : Address) :
    (p.remove addr).2.unrestricted.slot? addr = none ∧
      (p.remove addr).2.restricted.slot? addr = none := by
  have hfree : (p.remove addr).2.slot? addr = none := by rw [slot?_remove hs, if_pos rfl]
  rwa [slot?, Option.or_eq_none_iff] at hfree

/-- The pools without some hosts. -/
def removeAll (p : Pools) (hosts : List Address) : Pools :=
  hosts.foldl (fun p host => (p.remove host).2) p

theorem sorted_removeAll (hs : p.Sorted) (hosts : List Address) : (p.removeAll hosts).Sorted := by
  induction hosts generalizing p with
  | nil => exact hs
  | cons host hosts ih => exact ih (sorted_remove hs host)

theorem slot?_removeAll (hs : p.Sorted) (hosts : List Address) (a : Address) :
    (p.removeAll hosts).slot? a = if a ∈ hosts then none else p.slot? a := by
  induction hosts generalizing p with
  | nil => simp [removeAll]
  | cons host hosts ih =>
    show ((p.remove host).2.removeAll hosts).slot? a = _
    rw [ih (sorted_remove hs host), slot?_remove hs]
    by_cases ha : a = host <;> simp [ha]

/-! ## Insertion -/

theorem insert_snd (p : Pools) (proxy : Proxy) (load : Nat) :
    (p.insert proxy load).2 =
      if proxy.nat = .unrestricted then
        { (p.remove proxy.addr).2 with
          unrestricted := ((p.remove proxy.addr).2.unrestricted.insert proxy load).2 }
      else
        { (p.remove proxy.addr).2 with
          restricted := ((p.remove proxy.addr).2.restricted.insert proxy load).2 } := by
  rw [insert]
  cases proxy.nat <;> rfl

theorem sorted_insert (hs : p.Sorted) (proxy : Proxy) (load : Nat) :
    (p.insert proxy load).2.Sorted := by
  -- The host has left both pools before the proxy is put into its own.
  have hr := sorted_remove hs proxy.addr
  have hfree := remove_free hs proxy.addr
  rw [insert_snd]
  split
  · next hnat =>
    apply hr.setUnrestricted (LoadHeap.indexed_insert hr.indexedU _ _)
    intro a slot hslot
    rw [LoadHeap.slot?_insert hr.indexedU] at hslot
    split at hslot
    · next ha =>
      obtain rfl := Option.some.inj hslot
      exact ⟨hnat, by rw [ha, hfree.2]⟩
    · exact ⟨hr.natU hslot, restricted_none hr hslot⟩
  · next hnat =>
    apply hr.setRestricted (LoadHeap.indexed_insert hr.indexedR _ _)
    intro a slot hslot
    rw [LoadHeap.slot?_insert hr.indexedR] at hslot
    split at hslot
    · next ha =>
      obtain rfl := Option.some.inj hslot
      exact ⟨hnat, by rw [ha, hfree.1]⟩
    · exact ⟨hr.natR hslot, unrestricted_none hr hslot⟩

theorem slot?_insert (hs : p.Sorted) (proxy : Proxy) (load : Nat) (a : Address) :
    (p.insert proxy load).2.slot? a =
      if a = proxy.addr then some ⟨proxy, load⟩ else p.slot? a := by
  have hr := sorted_remove hs proxy.addr
  have hrest := slot?_remove hs proxy.addr a
  have hfree := remove_free hs proxy.addr
  rw [insert_snd]
  split
  · simp only [slot?, LoadHeap.slot?_insert hr.indexedU] at hrest ⊢
    split
    · rw [Option.some_or]
    · next ha => rw [hrest, if_neg ha]
  · simp only [slot?, LoadHeap.slot?_insert hr.indexedR] at hrest ⊢
    split
    · next ha => rw [ha, hfree.1, Option.none_or]
    · next ha => rw [hrest, if_neg ha]

/-! ## Changed loads -/

/-- `p'` is `p` but for the load of one slot. -/
structure Reloads (p : Pools) (slot : Slot) (load : Nat) (p' : Pools) : Prop where
  before : p.slot? slot.proxy.addr = some slot
  sorted : p'.Sorted
  after : ∀ a, p'.slot? a = if a = slot.proxy.addr then some { slot with load } else p.slot? a

theorem Reloads.proxy? {slot : Slot} {load : Nat} {p' : Pools} (hr : Reloads p slot load p')
    (a : Address) : p'.proxy? a = p.proxy? a := by
  rw [Pools.proxy?, Pools.proxy?, hr.after]
  split
  · next ha => rw [ha, hr.before, Option.map_some, Option.map_some]
  · rfl

theorem Reloads.proxy?_before {slot : Slot} {load : Nat} {p' : Pools}
    (hr : Reloads p slot load p') : p.proxy? slot.proxy.addr = some slot.proxy := by
  rw [Pools.proxy?, hr.before, Option.map_some]

theorem reloads_unrestricted (hs : p.Sorted) {slot : Slot} {load : Nat} {h : LoadHeap}
    (hr : p.unrestricted.Reloads slot load h) :
    Reloads p slot load { p with unrestricted := h } where
  before := (slot?_eq_some_iff hs).mpr (.inl hr.before)
  sorted := by
    have hnat : slot.proxy.nat = .unrestricted := hs.natU hr.before
    apply hs.setUnrestricted hr.indexed
    intro a s ha
    rw [hr.after] at ha
    split at ha
    · next heq =>
      obtain rfl := Option.some.inj ha
      exact ⟨hnat, heq ▸ restricted_none hs hr.before⟩
    · exact ⟨hs.natU ha, restricted_none hs ha⟩
  after a := by
    simp only [slot?, hr.after]
    split <;> rfl

theorem reloads_restricted (hs : p.Sorted) {slot : Slot} {load : Nat} {h : LoadHeap}
    (hr : p.restricted.Reloads slot load h) :
    Reloads p slot load { p with restricted := h } where
  before := (slot?_eq_some_iff hs).mpr (.inr hr.before)
  sorted := by
    have hnat : slot.proxy.nat ≠ .unrestricted := hs.natR hr.before
    apply hs.setRestricted hr.indexed
    intro a s ha
    rw [hr.after] at ha
    split at ha
    · next heq =>
      obtain rfl := Option.some.inj ha
      exact ⟨hnat, heq ▸ unrestricted_none hs hr.before⟩
    · exact ⟨hs.natR ha, unrestricted_none hs ha⟩
  after a := by
    simp only [slot?, hr.after]
    split
    · next ha => rw [ha, unrestricted_none hs hr.before, Option.none_or]
    · rfl

/-! ## Borrowing -/

theorem borrowUnrestricted_cases (hs : p.Sorted) :
    p.borrowUnrestricted = (none, p) ∧ (∀ a, p.unrestricted.slot? a = none) ∨
    ∃ slot, p.borrowUnrestricted.1 = some slot.proxy ∧ slot.proxy.nat = .unrestricted ∧
      Reloads p slot (LoadHeap.bump slot.load) p.borrowUnrestricted.2 := by
  rcases LoadHeap.borrow_cases hs.indexedU with ⟨h0, heq⟩ | ⟨slot, heq, hr⟩
  · have hnone : p.borrowUnrestricted = (none, p) := by simp only [borrowUnrestricted, heq]
    exact .inl ⟨hnone, LoadHeap.slot?_of_size_eq_zero hs.indexedU h0⟩
  · exact .inr ⟨slot, heq, hs.natU hr.before, reloads_unrestricted hs hr⟩

/-- Nothing is handed out only if no pooled proxy can carry the client, and then nothing
changes. A proxy that is handed out stays pooled, with one more client. -/
theorem borrow_cases (hs : p.Sorted) (nat : NatClass) :
    p.borrow nat = (none, p) ∧ (∀ a slot, p.slot? a = some slot → ¬ slot.proxy.nat.CanServe nat) ∨
    ∃ slot, (p.borrow nat).1 = some slot.proxy ∧ slot.proxy.nat.CanServe nat ∧
      Reloads p slot (LoadHeap.bump slot.load) (p.borrow nat).2 := by
  by_cases hnat : nat = .unrestricted
  · subst hnat
    rcases LoadHeap.borrow_cases hs.indexedR with ⟨h0, heq⟩ | ⟨slot, heq, hr⟩
    · -- The restricted pool is empty, so the client is served from the other one.
      have hb : p.borrow .unrestricted = p.borrowUnrestricted := by rw [borrow, heq]
      rw [hb]
      rcases borrowUnrestricted_cases hs with ⟨heq', hu⟩ | ⟨slot, heq', -, hr⟩
      · refine .inl ⟨heq', ?_⟩
        intro a slot hslot
        rw [slot?, hu, LoadHeap.slot?_of_size_eq_zero hs.indexedR h0] at hslot
        exact absurd hslot (by simp)
      · exact .inr ⟨slot, heq', .inl rfl, hr⟩
    · -- The restricted pool comes first; what it hands out, the pools hand out.
      have hb : p.borrow .unrestricted =
          (some slot.proxy, { p with restricted := p.restricted.borrow.2 }) := by
        rw [borrow, (Prod.ext heq rfl : p.restricted.borrow = (some slot.proxy, _))]
      rw [hb]
      exact .inr ⟨slot, rfl, .inl rfl, reloads_restricted hs hr⟩
  · -- Any other client is served from the unrestricted pool alone.
    have hb : p.borrow nat = p.borrowUnrestricted := by
      cases nat with
      | unrestricted => exact absurd rfl hnat
      | restricted => rfl
      | unknown => rfl
    rw [hb]
    rcases borrowUnrestricted_cases hs with ⟨heq, hu⟩ | ⟨slot, heq, hopen, hr⟩
    · refine .inl ⟨heq, ?_⟩
      intro a slot hslot hserve
      rcases (slot?_eq_some_iff hs).mp hslot with hin | hin
      · rw [hu] at hin
        exact absurd hin (by simp)
      · -- A slot of the restricted pool cannot serve this client.
        exact hs.natR hin (hserve.resolve_left hnat)
    · exact .inr ⟨slot, heq, .inr hopen, hr⟩

/-- What is handed out was pooled. -/
theorem pooled_of_borrow (hs : p.Sorted) {nat : NatClass} {proxy : Proxy}
    (hb : (p.borrow nat).1 = some proxy) : p.proxy? proxy.addr = some proxy := by
  rcases borrow_cases hs nat with ⟨heq, -⟩ | ⟨slot, heq, -, hr⟩
  · simp [heq] at hb
  · obtain rfl : slot.proxy = proxy := by simpa [heq] using hb
    exact hr.proxy?_before

/-! ## Release -/

/-- Taking a client off a host changes nothing if the host is not pooled or has no
client; else its slot has one client less. -/
theorem release_cases (hs : p.Sorted) (addr : Address) :
    (p.release addr = (false, p) ∧ ∀ slot, p.slot? addr = some slot → slot.load = 0) ∨
    ∃ slot, slot.proxy.addr = addr ∧ slot.load ≠ 0 ∧ (p.release addr).1 = true ∧
      Reloads p slot (slot.load - 1) (p.release addr).2 := by
  -- The unrestricted pool is asked first; its refusal leaves the host to the other one.
  rcases LoadHeap.release_cases hs.indexedU addr with ⟨hu, hu0⟩ | ⟨slot, haddr, h0, heq, hr⟩
  · rcases LoadHeap.release_cases hs.indexedR addr with ⟨hr, hr0⟩ | ⟨slot, haddr, h0, heq, hr⟩
    · refine .inl ⟨by simp only [release, hu, hr], ?_⟩
      intro slot hslot
      rcases (slot?_eq_some_iff hs).mp hslot with hin | hin
      · exact hu0 slot hin
      · exact hr0 slot hin
    · simp only [release, hu]
      exact .inr ⟨slot, haddr, h0, heq, reloads_restricted hs hr⟩
  · have hrel : p.release addr =
        (true, { p with unrestricted := (p.unrestricted.release addr).2 }) := by
      rw [release, (Prod.ext heq rfl : p.unrestricted.release addr = (true, _))]
    rw [hrel]
    exact .inr ⟨slot, haddr, h0, rfl, reloads_unrestricted hs hr⟩

end

end Pools

end RelayBroker
