/-
  RelayBroker.Proofs.Traffic.Overview

  What the operator sees against what the broker stores. The loads list each pooled proxy once,
  in the order of the addresses: no host is pooled twice (`Pools.Sorted.nodup_addrs`), and so
  the order is strict (`loads_ordered`). The summary counts the records that wait for a client,
  by type and by class. While no mailbox is closed each of them is pooled, so that no more wait
  than are pooled (`available_le_pooled`).

  Main statement: `overview_exact`.
-/

import RelayBroker.Broker.Overview
import RelayBroker.Proofs.Address.Order
import RelayBroker.Proofs.Fleet.DirectoryRuns
import RelayBroker.Proofs.Fleet.PoolChoice
import RelayBroker.Proofs.Traffic.Succession

namespace RelayBroker

/-! ## Views of a broker -/

namespace Broker

section
variable {b : Broker} {slot : Slot}

theorem perm_loads (b : Broker) : b.loads.Perm b.pools.slots :=
  List.mergeSort_perm ..

theorem length_loads (b : Broker) : b.loads.length = b.pools.size := by
  rw [b.perm_loads.length_eq, Pools.slots, List.length_append, Array.length_toList,
    Array.length_toList]
  rfl

theorem mem_loads_iff (hs : b.pools.Sorted) :
    slot ∈ b.loads ↔ b.pools.slot? slot.proxy.addr = some slot := by
  rw [b.perm_loads.mem_iff, Pools.mem_slots_iff hs]

theorem mem_proxies_loads_iff (hs : b.pools.Sorted) {proxy : Proxy} :
    proxy ∈ b.loads.map (·.proxy) ↔ b.pools.proxy? proxy.addr = some proxy := by
  rw [List.mem_map, Pools.proxy?_eq_some_iff]
  constructor
  · rintro ⟨slot, hmem, rfl⟩
    exact ⟨slot.load, (mem_loads_iff hs).mp hmem⟩
  · rintro ⟨load, hslot⟩
    exact ⟨⟨proxy, load⟩, (mem_loads_iff hs).mpr hslot, rfl⟩

/-- The order is strict, since no two slots have one host. -/
theorem loads_ordered (hs : b.pools.Sorted) :
    (b.loads.map (·.proxy.addr)).Pairwise Address.Precedes := by
  have hsorted : b.loads.Pairwise fun s t => s.proxy.addr.rank ≤ t.proxy.addr.rank := by
    refine (List.pairwise_mergeSort ?_ ?_ b.pools.slots).imp (by simp)
    · intro s t u hst htu
      simp only [decide_eq_true_eq] at hst htu ⊢
      omega
    · intro s t
      simp only [Bool.or_eq_true, decide_eq_true_eq]
      omega
  have hnodup : (b.loads.map (·.proxy.addr)).Nodup :=
    (b.perm_loads.map _).nodup_iff.mpr hs.nodup_addrs
  rw [List.pairwise_map]
  refine hsorted.imp₂ (fun s t hle hne => ?_) (List.pairwise_map.mp hnodup)
  rw [← Address.rank_lt_iff]
  exact Nat.lt_of_le_of_ne hle fun heq => hne (Address.rank_inj.mp heq)

/-! ## Counts -/

theorem weight_tallied (texts : List String) (t : Table String Nat) :
    (texts.foldl (fun t s => t.insert s ((t.get? s).getD 0 + 1)) t).weight id =
      t.weight id + texts.length := by
  induction texts generalizing t with
  | nil => rfl
  | cons s texts ih =>
    -- The count of one text goes up by one.
    have hinsert := t.weight_insert s ((t.get? s).getD 0 + 1) id
    have hbefore : (t.get? s).elim 0 id = (t.get? s).getD 0 := by cases t.get? s <;> rfl
    rw [List.foldl_cons, ih, List.length_cons]
    rw [hbefore, id] at hinsert
    omega

/-- Each text is counted once. -/
theorem sum_tally (texts : List String) : ((tally texts).map (·.2)).sum = texts.length := by
  rw [tally, ((List.mergeSort_perm ..).map _).sum_eq]
  exact (weight_tallied texts Table.empty).trans (Nat.zero_add _)

/-- Each proxy has one of the three classes. -/
theorem countP_classes (proxies : List Proxy) :
    proxies.countP (·.nat = .restricted) + proxies.countP (·.nat = .unrestricted) +
      proxies.countP (·.nat = .unknown) = proxies.length := by
  induction proxies with
  | nil => rfl
  | cons p proxies ih =>
    rw [List.countP_cons, List.countP_cons, List.countP_cons, List.length_cons, ← ih]
    cases p.nat <;> simp <;> omega

theorem length_pending (d : Directory) : d.pending.length = d.pendingSize := by
  rw [Directory.pending, Table.values, List.length_map, Directory.pendingSize, Table.size]

theorem mem_pending_iff (hd : b.directory.Coherent) {p : Proxy} :
    p ∈ b.directory.pending ↔ b.pendingProxy? p.sid = some p := by
  rw [Directory.pending, Table.values, List.mem_map]
  constructor
  · rintro ⟨⟨sid, q⟩, hmem, rfl⟩
    have hwaits : b.directory.session? sid = some q := Table.mem_entries.mp hmem
    rw [hd.named hwaits]
    exact hwaits
  · intro hwaits
    exact ⟨(p.sid, p), Table.mem_entries.mpr hwaits, rfl⟩

/-- Each record that waits stands at its host, and it is pooled there if its mailbox is open. -/
theorem available_le_pooled {records : List Proxy} (h : b.Agrees records)
    (hd : b.directory.Coherent) (hopen : ∀ p ∈ records, (b.mailbox p).closed = false) :
    b.summary.available ≤ b.summary.pooled := by
  have hpooled : b.directory.pending.map (·.addr) ⊆ b.loads.map (·.proxy.addr) := by
    intro addr hmem
    obtain ⟨p, hp, rfl⟩ := List.mem_map.mp hmem
    have hcur := hd.current ((mem_pending_iff hd).mp hp)
    have hnotClosed : b.isOpen p = true := by
      rw [isOpen, hopen p (h.current hcur).2]
      rfl
    have hslot : b.pools.proxy? p.addr = some p := by
      rw [h.pooled, hcur, Option.filter_some_pos hnotClosed]
    have hproxy :=
      List.mem_map_of_mem (f := Proxy.addr) ((mem_proxies_loads_iff h.sorted).mpr hslot)
    rwa [List.map_map] at hproxy
  have hle := (hd.nodup_pending.subperm hpooled).length_le
  rwa [List.length_map, List.length_map, length_pending, length_loads] at hle

end

end Broker

/-! ## The latest poll of a host -/

namespace History

/-- What a proxy announces that polls. -/
def Event.poll? : Event → Option Broker.Announcement
  | .register poll => some poll
  | _ => none

/-- The poll that came last from a host. -/
def lastPoll? (events : List Event) (a : Address) : Option Broker.Announcement :=
  (events.filterMap Event.poll?).reverse.find? (·.addr = a)

theorem lastPoll?_register (events : List Event) (poll : Broker.Announcement) (a : Address) :
    lastPoll? (events ++ [.register poll]) a =
      if a = poll.addr then some poll else lastPoll? events a := by
  have hpoll : (events ++ [Event.register poll]).filterMap Event.poll? =
      events.filterMap Event.poll? ++ [poll] := by
    rw [List.filterMap_append]
    rfl
  rw [lastPoll?, hpoll, List.reverse_concat]
  split
  · next ha => rw [List.find?_cons_of_pos (by simp [ha])]
  · next ha => rw [List.find?_cons_of_neg (by simpa using fun heq => ha heq.symm)]; rfl

theorem lastPoll?_of_poll?_eq_none {e : Event} (he : e.poll? = none) (events : List Event)
    (a : Address) : lastPoll? (events ++ [e]) a = lastPoll? events a := by
  have hpoll : (events ++ [e]).filterMap Event.poll? = events.filterMap Event.poll? := by
    rw [List.filterMap_append, List.filterMap_cons_none he, List.filterMap_nil, List.append_nil]
  rw [lastPoll?, lastPoll?, hpoll]

/-- The current record of a host says what the latest poll from the host has announced. -/
theorem lastPoll?_of_current {setup : Setup} {events : List Event} {a : Address} {p : Proxy}
    (hcur : (run setup events).broker.directory.host? a = some p) :
    ∃ poll, lastPoll? events a = some poll ∧
      p = ⟨p.poll, poll.sid, poll.type, poll.nat, poll.addr, poll.clients⟩ := by
  induction events using List.reverseRecOn with
  | nil => cases hcur
  | append_singleton events e ih =>
    rw [run_append] at hcur
    cases hpoll : e.poll? with
    | none =>
      rw [lastPoll?_of_poll?_eq_none hpoll]
      rcases (step_change setup _ e).host?_of_after hcur with hbefore | ⟨poll, rfl, -⟩
      · exact ih hbefore
      · cases hpoll
    | some poll =>
      obtain rfl : e = .register poll := by
        cases e with
        | register other => exact congrArg Event.register (Option.some.inj hpoll)
        | _ => cases hpoll
      rw [lastPoll?_register]
      replace hcur := (Directory.host?_insert ..).symm.trans hcur
      split
      · next ha =>
        rw [if_pos ha] at hcur
        obtain rfl := Option.some.inj hcur
        exact ⟨poll, rfl, rfl⟩
      · next ha =>
        rw [if_neg ha] at hcur
        exact ih hcur

/-! ## After every run -/

/-- **The operator's views agree with the state.** After every run the loads list exactly the
proxies that the two pools hold, in the strict order of their addresses and so each of them
once, with the class that the latest poll from the host has declared and with the load that is
told for the host. The summary counts as many pooled proxies, and it counts the records that
wait for a client: each of them waits under its own session id, no two have one host, and the
counts by class and by type add up to as many. If no mailbox was closed, no more proxies are
available than are pooled. -/
theorem overview_exact (setup : Setup) (events : List Event) :
    let s := run setup events
    let b := s.broker
    (∀ proxy, proxy ∈ b.loads.map (·.proxy) ↔
      b.pools.unrestricted.Holds proxy ∨ b.pools.restricted.Holds proxy) ∧
    (b.loads.map (·.proxy)).Nodup ∧
    (b.loads.map (·.proxy.addr)).Pairwise Address.Precedes ∧
    (∀ slot ∈ b.loads, b.load? slot.proxy.addr = some slot.load ∧
      (lastPoll? events slot.proxy.addr).map (·.nat) = some slot.proxy.nat) ∧
    b.summary.pooled = b.loads.length ∧
    b.summary.available =
      b.summary.restricted + b.summary.unrestricted + b.summary.unknown ∧
    b.summary.available = (b.summary.byType.map (·.2)).sum ∧
    b.summary.available = b.directory.pending.length ∧
    (∀ p, p ∈ b.directory.pending ↔ b.pendingProxy? p.sid = some p) ∧
    (b.directory.pending.map (·.addr)).Nodup ∧
    ((∀ p ∈ s.records, (b.mailbox p).closed = false) →
      b.summary.available ≤ b.summary.pooled) := by
  intro s b
  have h : b.Agrees s.records := (run_sound setup events).order.agrees
  have hd : b.directory.Coherent := run_coherent setup events
  have hordered := Broker.loads_ordered h.sorted
  have havailable : b.directory.pending.length = b.summary.available := Broker.length_pending _
  refine ⟨fun proxy => ?_, ?_, hordered, fun slot hmem => ?_, (Broker.length_loads b).symm, ?_, ?_,
    havailable.symm, fun p => Broker.mem_pending_iff hd, hd.nodup_pending,
    Broker.available_le_pooled h hd⟩
  · rw [Broker.mem_proxies_loads_iff h.sorted, Pools.holds_iff h.sorted]
  · refine List.Nodup.of_map Proxy.addr ?_
    rw [List.map_map]
    refine hordered.imp fun hlt heq => ?_
    exact absurd (Address.rank_lt_iff.mpr hlt) (by rw [heq]; exact Nat.lt_irrefl _)
  · have hslot := (Broker.mem_loads_iff h.sorted).mp hmem
    have hproxy : b.pools.proxy? slot.proxy.addr = some slot.proxy := by
      rw [Pools.proxy?, hslot, Option.map_some]
    obtain ⟨poll, hlast, hrecord⟩ := lastPoll?_of_current (h.of_pooled hproxy).1
    refine ⟨?_, ?_⟩
    · rw [Broker.load?, Pools.load?_eq, hslot, Option.map_some]
    · rw [hlast, hrecord, Option.map_some]
  · rw [← havailable, ← Broker.countP_classes]
    rfl
  · show _ = ((Broker.tally (b.directory.pending.map (·.type))).map (·.2)).sum
    rw [Broker.sum_tally, List.length_map, havailable]

/-- Three hosts poll, the first two of them anew, and a client takes the last one. -/
def threeHosts : List Event :=
  let poll (sid type : String) (nat : NatClass) (addr : Address) : Event :=
    .register ⟨sid, type, nat, addr, 0, true⟩
  let loopback : Address := .v6 #v[0, 0, 0, 0, 0, 0, 0, 1]
  [poll "s1" "standalone" .unknown loopback, poll "s2" "webext" .unknown (.v4 10 0 0 2),
    poll "s3" "standalone" .restricted loopback, poll "s4" "webext" .restricted (.v4 10 0 0 2),
    poll "s5" "webext" .unrestricted (.v4 10 0 0 1),
    .startMatch ⟨"c1", .restricted, "", "a=candidate:1"⟩]

/-- The IPv4 hosts come first, each host stands once and with its latest class, and all three
proxies are still available. -/
theorem three_hosts_listed :
    let b := (run ⟨Settings.standard, Catalog.builtin⟩ threeHosts).broker
    b.loads.map (fun slot => (slot.proxy.addr, slot.proxy.nat, slot.load)) =
      [(.v4 10 0 0 1, .unrestricted, 1), (.v4 10 0 0 2, .restricted, 0),
        (.v6 #v[0, 0, 0, 0, 0, 0, 0, 1], .restricted, 0)] ∧
      b.summary.available = 3 ∧ b.summary.available ≤ b.summary.pooled := by
  intro b
  have hopen : ∀ p ∈ (run ⟨Settings.standard, Catalog.builtin⟩ threeHosts).records,
      (b.mailbox p).closed = false := by decide +kernel
  have hslots : b.pools.slots =
      [⟨⟨4, "s5", "webext", .unrestricted, .v4 10 0 0 1, 0⟩, 1⟩,
        ⟨⟨2, "s3", "standalone", .restricted, .v6 #v[0, 0, 0, 0, 0, 0, 0, 1], 0⟩, 0⟩,
        ⟨⟨3, "s4", "webext", .restricted, .v4 10 0 0 2, 0⟩, 0⟩] := by decide +kernel
  obtain ⟨-, -, -, -, -, -, -, -, -, -, hle⟩ :=
    overview_exact ⟨Settings.standard, Catalog.builtin⟩ threeHosts
  refine ⟨?_, by decide +kernel, hle hopen⟩
  rw [Broker.loads, hslots]
  simp [List.mergeSort, List.MergeSort.Internal.splitInTwo, Address.rank, Number.ofDigits,
    Number.twoTo]

end History

end RelayBroker
