/-
  RelayBroker.Proofs.Traffic.Charges

  What the load of a record is made of: the clients that the record announced, the matches
  with it that wait, those that ended with an answer, and the sessions that rescales moved
  to it. A record enters the pools when it polls and never comes back once it has left
  them, so its load has a history of its own. What one step can do to it is said by
  `Charge`; a match that fails gives back the unit that it borrowed, and only there can a
  load be lowered that is zero already.

  Main statement: `loads_charged`.
-/

import Mathlib.Algebra.GroupWithZero.Nat
import RelayBroker.Proofs.Traffic.Load
import RelayBroker.Proofs.Traffic.Migration
import RelayBroker.Proofs.Traffic.Succession
import RelayBroker.Proofs.Traffic.Trace

namespace RelayBroker

/-! ## Loads of one record -/

namespace Pools

/-- A record is pooled with a load. -/
def Carries (p : Pools) (proxy : Proxy) (load : Nat) : Prop :=
  p.slot? proxy.addr = some ⟨proxy, load⟩

section
variable {p p' : Pools} {proxy : Proxy} {load : Nat}

theorem carries_iff_mem (hs : p.Sorted) : p.Carries proxy load ↔ ⟨proxy, load⟩ ∈ p.slots := by
  rw [mem_slots_iff hs]
  rfl

theorem Carries.proxy? (h : p.Carries proxy load) : p.proxy? proxy.addr = some proxy := by
  rw [Pools.proxy?, h, Option.map_some]

/-- Another load for one slot changes that of its record, and no other one. -/
theorem Reloads.carries {slot : Slot} {changed : Nat} (hr : Reloads p slot changed p')
    (h : p'.Carries proxy load) :
    (slot.proxy = proxy ∧ load = changed ∧ p.Carries proxy slot.load) ∨
      (slot.proxy.addr ≠ proxy.addr ∧ p.Carries proxy load) := by
  rw [Carries, hr.after] at h
  split at h
  · cases h
    exact .inl ⟨rfl, rfl, hr.before⟩
  · next haddr => exact .inr ⟨fun heq => haddr heq.symm, h⟩

theorem carries_of_release (hs : p.Sorted) {addr : Address}
    (h : (p.release addr).2.Carries proxy load) :
    (∃ before, addr = proxy.addr ∧ load = before - 1 ∧ p.Carries proxy before) ∨
      (addr ≠ proxy.addr ∧ p.Carries proxy load) := by
  rcases release_cases hs addr with ⟨heq, hzero⟩ | ⟨slot, rfl, -, -, hr⟩
  · rw [heq] at h
    by_cases haddr : addr = proxy.addr
    · -- The load was zero, and it stays so.
      have hload : load = 0 := hzero ⟨proxy, load⟩ (by rw [haddr]; exact h)
      exact .inl ⟨load, haddr, by omega, h⟩
    · exact .inr ⟨haddr, h⟩
  · rcases hr.carries h with ⟨rfl, hload, hbefore⟩ | ⟨hne, hbefore⟩
    · exact .inl ⟨slot.load, rfl, hload, hbefore⟩
    · exact .inr ⟨hne, hbefore⟩

end

end Pools

namespace Relocation

/-- How many sessions were moved to a host. -/
def movedTo (migrations : List Migration) (a : Address) : Nat :=
  migrations.countP fun m => m.target = a

/-- The moves of a rescale raise the load of a record once for each session that is moved to
it, as long as the load is below its limit. -/
theorem Moves.load {retiring : List Address} {r₀ r : Relocation} (hm : Moves retiring r₀ r)
    {proxy : Proxy} {load : Nat} (h : r.pools.Carries proxy load) :
    ∃ load₀, r₀.pools.Carries proxy load₀ ∧
      load + movedTo r₀.migrations proxy.addr ≤ load₀ + movedTo r.migrations proxy.addr ∧
      (load < Number.max32 →
        load + movedTo r₀.migrations proxy.addr = load₀ + movedTo r.migrations proxy.addr) := by
  induction hm generalizing load with
  | refl => exact ⟨load, h, le_rfl, fun _ => rfl⟩
  | tail hmoves hstep ih =>
    obtain ⟨session, slot, pools, -, -, -, hr⟩ := hstep
    rcases hr.carries h with ⟨rfl, rfl, hbefore⟩ | ⟨hne, hbefore⟩
    · -- The session of this move came to the record.
      obtain ⟨load₀, h₀, hle, heq⟩ := ih hbefore
      refine ⟨load₀, h₀, ?_⟩
      simp only [movedTo, List.countP_append, List.countP_singleton, decide_true, if_true,
        LoadHeap.bump] at hle heq ⊢
      omega
    · obtain ⟨load₀, h₀, hle, heq⟩ := ih hbefore
      refine ⟨load₀, h₀, ?_⟩
      simp only [movedTo, List.countP_append, List.countP_singleton, hne, decide_false,
        Bool.false_eq_true, if_false, Nat.add_zero] at hle heq ⊢
      exact ⟨hle, heq⟩

/-- What a rescale does to the load of a record that stays pooled. -/
theorem load_of_relocate {b : Broker} (hs : b.pools.Sorted) (he : b.sessions.Exact)
    {retiring : List Address} {proxy : Proxy} {load : Nat}
    (h : (b.relocate retiring).2.2.pools.Carries proxy load) :
    ∃ before, b.pools.Carries proxy before ∧
      load ≤ before + movedTo (b.relocate retiring).1 proxy.addr ∧
      (load < Number.max32 → load = before + movedTo (b.relocate retiring).1 proxy.addr) := by
  rw [Broker.relocate_eq] at h ⊢
  obtain ⟨before, hstart, hle, heq⟩ := (start_moves hs he retiring).load h
  -- What is pooled when the loop starts did not retire.
  have hbefore : b.pools.Carries proxy before := by
    rw [Pools.Carries, start, Pools.slot?_removeAll hs] at hstart
    split at hstart
    · cases hstart
    · exact hstart
  exact ⟨before, hbefore, hle, heq⟩

end Relocation

namespace History

/-! ## What a step charges -/

/-- The record of a match that ends with an answer. -/
def answered? (s : History) (e : Event) (o : Option Outcome) : Option Proxy :=
  match e.call?.bind s.call?, o with
  | some (.matching m), some (.matched (.ok _)) => some m.proxy
  | _, _ => none

/-- How many sessions a rescale moves to a record, if it is pooled. -/
def placed (s : History) (proxy : Proxy) : Event → Nat
  | .rescale retiring _ =>
    if s.broker.pools.proxy? proxy.addr = some proxy then
      Relocation.movedTo (s.broker.relocate retiring).1 proxy.addr
    else 0
  | _ => 0

/-- A host says that it has lost a client, and the notice applies to a record of it. -/
def Removes (s : History) (proxy : Proxy) (e : Event) : Prop :=
  proxy ∈ s.records ∧ ∃ cid, e = .notify cid .remove proxy.addr ∧
    (s.broker.notify cid .remove proxy.addr).1 = true

/-- What a step can do to the load of a record that stays pooled, and to the number of
matches with it that wait; with the units that are charged for good. -/
inductive Charge (removed : Prop) : (load waiting load' waiting' got : Nat) → Prop
  | kept {l w} : Charge removed l w l w 0
  | borrowed {l w} : Charge removed l w (LoadHeap.bump l) (w + 1) 0
  /-- A match fails at once. -/
  | bounced {l w} : Charge removed l w (LoadHeap.bump l - 1) w 0
  /-- A match fails that has waited. -/
  | returned {l w} : Charge removed l (w + 1) (l - 1) w 0
  | answered {l w} : Charge removed l (w + 1) l w 1
  | released {l w} (h : removed) : Charge removed l w (l - 1) w 0
  | placed {l w l'} (k : Nat) (le : l' ≤ l + k) (eq : l' < Number.max32 → l' = l + k) :
      Charge removed l w l' w k

/-- A record was pooled before a step, and what the step did to its load and to the matches
with it leads to these. -/
def Charged (s : History) (proxy : Proxy) (removed : Prop) (load waiting got : Nat) : Prop :=
  ∃ before, s.broker.pools.Carries proxy before ∧
    Charge removed before (s.inFlight proxy) load waiting got

section
variable {removed : Prop} {l w l' w' got c : Nat}

/-- A load that its charges bound stays bounded by them. -/
theorem Charge.le (hc : Charge removed l w l' w' got) (h : l ≤ c + w) : l' ≤ c + got + w' := by
  cases hc with
  | borrowed | bounced =>
    simp only [LoadHeap.bump]
    omega
  | kept | returned | answered | released | placed => omega

/-- A load that is its charges stays so, as long as no host takes a client off it and it is
below its limit. -/
theorem Charge.eq (hc : Charge removed l w l' w' got) (hno : ¬ removed) (hlt : l < Number.max32)
    (hlt' : l' < Number.max32) (h : l = c + w) : l' = c + got + w' := by
  cases hc with
  | borrowed | bounced =>
    simp only [LoadHeap.bump] at hlt' ⊢
    omega
  | released hremoved => exact absurd hremoved hno
  | placed k le eq =>
    have hload := eq hlt'
    omega
  | kept | returned | answered => omega

end

section
variable {setup : Setup} {s s' : History} {e : Event} {o : Option Outcome} {proxy : Proxy}
  {load : Nat}

/-- The pools are those from before the step, or the poll that ended has left them. -/
theorem charge_kept {removed : Prop} {flight : Nat} (hpools : s.broker.pools.Carries proxy load)
    (hflight : flight = s.inFlight proxy) : s.Charged proxy removed load flight 0 :=
  ⟨load, hpools, by rw [hflight]; exact .kept⟩

/-- A match borrows a proxy and waits. -/
theorem charge_waiting {removed : Prop} (h : s.Sound) {nat : NatClass} {m : Matching}
    {b b' : Broker} (hb : s.broker.borrow nat = (some m.proxy, b)) (order : b'.InOrder s.records)
    (hpools : b'.pools = b.pools) (hp : b'.pools.Carries proxy load) :
    s.Charged proxy removed load (((s.setBroker b').wait (.matching m)).inFlight proxy) 0 := by
  have hflight := inFlight_wait (h.setBroker order) (.matching m) proxy
  have hsame : (s.setBroker b').inFlight proxy = s.inFlight proxy := rfl
  rw [Call.toNat_matches, hsame] at hflight
  rw [hflight]
  rw [hpools] at hp
  obtain ⟨slot, hslot, hr⟩ := reloads_of_borrow h hb
  rcases hr.carries hp with ⟨rfl, rfl, hbefore⟩ | ⟨haddr, hbefore⟩
  · rw [if_pos hslot.symm]
    exact ⟨_, hbefore, .borrowed⟩
  · rw [if_neg fun heq => haddr (by rw [hslot, heq])]
    exact ⟨_, hbefore, .kept⟩

/-- A match borrows a proxy and fails at once. -/
theorem charge_bounced {removed : Prop} (h : s.Sound) {nat : NatClass} {proxy' : Proxy}
    {b : Broker} (hb : s.broker.borrow nat = (some proxy', b))
    (hp : (b.giveBack proxy').pools.Carries proxy load) :
    s.Charged proxy removed load (s.inFlight proxy) 0 := by
  have hbefore := h.order.agrees.pooled_of_borrow hb
  have hmem := (h.order.agrees.of_pooled hbefore).2.2
  have hagrees : b.Agrees s.records := (h.order.borrow hb).agrees
  obtain ⟨slot, rfl, hr⟩ := reloads_of_borrow h hb
  rw [Broker.pools_giveBack hagrees hmem, hr.proxy?, if_pos hbefore] at hp
  rcases Pools.carries_of_release hr.sorted hp with ⟨raised, haddr, rfl, hraised⟩ | ⟨haddr, hkept⟩
  · rcases hr.carries hraised with ⟨rfl, rfl, hcarries⟩ | ⟨hne, -⟩
    · exact ⟨_, hcarries, .bounced⟩
    · exact absurd haddr hne
  · rcases hr.carries hkept with ⟨rfl, -⟩ | ⟨-, hcarries⟩
    · exact absurd rfl haddr
    · exact ⟨_, hcarries, .kept⟩

theorem answered?_ok {call : Nat} {m : Matching} (goesOn : e.call? = some call)
    (waits : s.call? call = some (.matching m)) (answer : String) :
    s.answered? e (some (.matched (.ok answer))) = some m.proxy := by
  simp only [answered?, goesOn, Option.bind_some, waits]

theorem answered?_of_not_ok (hno : ∀ answer, o ≠ some (.matched (.ok answer))) :
    s.answered? e o = none := by
  simp only [answered?]
  split
  · next answer _ => exact absurd rfl (hno answer)
  · rfl

theorem answered?_of_start (hstart : e.call? = none) : s.answered? e o = none := by
  simp only [answered?, hstart, Option.bind_none]

theorem placed_of_call {call : Nat} (goesOn : e.call? = some call) : s.placed proxy e = 0 := by
  cases e with
  | reply | settle | wake | expire => rfl
  | register | await | startMatch | submitAnswer | notify | rescale => cases goesOn

theorem mem_records_of_answered (h : s.Sound) (ha : s.answered? e o = some proxy) :
    proxy ∈ s.records := by
  simp only [answered?] at ha
  split at ha
  · next m _ hcall =>
    cases ha
    obtain ⟨call, -, hwaits⟩ := Option.bind_eq_some_iff.mp hcall
    exact h.known hwaits
  · cases ha

theorem placed_of_not_mem (h : s.Sound) (hnew : proxy ∉ s.records) : s.placed proxy e = 0 := by
  cases e with
  | rescale retiring incoming =>
    exact if_neg fun hpooled => hnew (h.order.agrees.of_pooled hpooled).2.2
  | register | await | startMatch | submitAnswer | notify | reply | settle | wake | expire => rfl

/-- The poll of a record ends. -/
theorem charge_endPoll {removed : Prop} (h : s.Sound) {b : Broker} {proxy' : Proxy}
    {polled : Option Offer} (hpools : b.pools = s.broker.pools)
    (hp : (b.endPoll proxy' polled).2.pools.Carries proxy load) {flight : Nat}
    (hflight : flight = s.inFlight proxy) : s.Charged proxy removed load flight 0 := by
  have hbefore := Broker.slot?_of_endPoll (hpools ▸ h.order.agrees.sorted) hp
  rw [hpools] at hbefore
  exact charge_kept hbefore hflight

/-- A call that ends and is no match leaves the number of matches. -/
theorem inFlight_ended {call : Nat} {c : Call} (hc : s.call? call = some c)
    (hno : c.matches proxy = false) (b : Broker) :
    ((s.setBroker b).endCall call).inFlight proxy = s.inFlight proxy := by
  have hend := inFlight_endCall (s := s.setBroker b) hc proxy
  rwa [hno, Bool.toNat_false] at hend

/-- So does one that begins to wait. -/
theorem inFlight_waiting (h : s.Sound) {c : Call} (hno : c.matches proxy = false) :
    (s.wait c).inFlight proxy = s.inFlight proxy := by
  rw [inFlight_wait h, hno, Bool.toNat_false, Nat.add_zero]

/-- A record that is just entered starts with the clients that it announces. -/
theorem charge_registered {removed : Prop} (h : s.Sound) (poll : Broker.Announcement)
    (hp : (s.broker.register poll).2.pools.Carries proxy load) :
    (proxy ∉ s.records ∧ load = proxy.clients ∧ s.inFlight proxy = 0) ∨
      s.Charged proxy removed load (s.inFlight proxy) 0 := by
  rw [Pools.Carries, slot?_register h.order.agrees.sorted] at hp
  split at hp
  · cases hp
    have hnew : (s.broker.register poll).1 ∉ s.records := fun hmem =>
      Nat.lt_irrefl _ (h.order.agrees.lt_nextPoll hmem)
    exact .inl ⟨hnew, rfl, inFlight_eq_zero h hnew⟩
  · exact .inr (charge_kept hp rfl)

/-- A rescale moves sessions to the record, and ends no match. -/
theorem charge_relocated {retiring incoming : List Address} (h : s.Sound)
    (hp : (s.broker.relocate retiring).2.2.pools.Carries proxy load) {flight : Nat}
    (hflight : flight = s.inFlight proxy) :
    s.Charged proxy (s.Removes proxy (.rescale retiring incoming)) load flight
      ((if s.answered? (.rescale retiring incoming) o = some proxy then 1 else 0) +
        s.placed proxy (.rescale retiring incoming)) := by
  obtain ⟨before, hbefore, hle, heq⟩ :=
    Relocation.load_of_relocate h.order.agrees.sorted h.order.exact hp
  rw [answered?_of_start rfl, if_neg (by simp), Nat.zero_add, placed, if_pos hbefore.proxy?,
    hflight]
  exact ⟨before, hbefore, .placed _ hle heq⟩

/-- A match that has waited ends. -/
theorem charge_concluded {removed : Prop} (h : s.Sound) {call : Nat} {m : Matching}
    (goesOn : e.call? = some call) (hwaits : s.call? call = some (.matching m)) {b b' : Broker}
    (hagrees : b.Agrees s.records) (hsame : b.SameStores s.broker) (reply : Broker.Reply)
    {r : Except BrokerError String} (hends : b.concludeMatch m.request m.proxy reply = (r, b'))
    (hp : b'.pools.Carries proxy load) :
    s.Charged proxy removed load (((s.setBroker b').endCall call).inFlight proxy)
      (if s.answered? e (some (.matched r)) = some proxy then 1 else 0) := by
  have hflight := inFlight_concluded hwaits b' proxy
  -- A match with another record changes nothing for this one.
  have hother (hne : m.proxy ≠ proxy) (hcarries : s.broker.pools.Carries proxy load) :
      s.Charged proxy removed load (((s.setBroker b').endCall call).inFlight proxy)
        (if s.answered? e (some (.matched r)) = some proxy then 1 else 0) := by
    have hnone : s.answered? e (some (.matched r)) ≠ some proxy := by
      cases r with
      | ok answer =>
        rw [answered?_ok goesOn hwaits]
        exact fun heq => hne (Option.some.inj heq)
      | error error => simp [answered?_of_not_ok]
    rw [if_neg hnone]
    rw [if_neg hne] at hflight
    exact charge_kept hcarries hflight
  have hback {error : BrokerError} (hr : r = .error error)
      (hpools : b'.pools = (b.giveBack m.proxy).pools) :
      s.Charged proxy removed load (((s.setBroker b').endCall call).inFlight proxy)
        (if s.answered? e (some (.matched r)) = some proxy then 1 else 0) := by
    rw [hpools, Broker.pools_giveBack hagrees (h.known hwaits), hsame.pools] at hp
    split at hp
    · next hpooled =>
      rcases Pools.carries_of_release h.order.agrees.sorted hp with
        ⟨before, haddr, rfl, hcarries⟩ | ⟨haddr, hcarries⟩
      · obtain rfl : m.proxy = proxy :=
          (Pools.addr_eq_iff_of_pooled h.order.agrees.sorted hpooled hcarries).mp haddr
        rw [if_pos rfl] at hflight
        rw [hr, answered?_of_not_ok (by simp), if_neg (by simp), Charged, ← hflight]
        exact ⟨before, hcarries, .returned⟩
      · exact hother (fun heq => haddr (by rw [heq])) hcarries
    · next hout => exact hother (fun heq => hout (heq ▸ hp.proxy?)) hp
  cases reply with
  | answered answer =>
    rw [Broker.concludeMatch, Broker.bindAnswered] at hends
    cases hhost : b.directory.host? m.proxy.addr with
    | none =>
      rw [hhost] at hends
      cases hends
      replace hp : b.pools.Carries proxy load := hp
      rw [hsame.pools] at hp
      -- The host was retired, so the match was not with a record that is pooled.
      refine hother (fun heq => ?_) hp
      rw [heq, hsame.directory, (h.order.agrees.of_pooled hp.proxy?).1] at hhost
      cases hhost
    | some current =>
      rw [hhost] at hends
      cases hends
      replace hp : b.pools.Carries proxy load := hp
      rw [hsame.pools] at hp
      by_cases heq : m.proxy = proxy
      · rw [if_pos heq] at hflight
        rw [answered?_ok goesOn hwaits, if_pos (by rw [heq]), Charged, ← hflight]
        exact ⟨load, hp, .answered⟩
      · exact hother heq hp
  | failed error =>
    cases hends
    exact hback rfl rfl
  | timedOut =>
    cases hends
    exact hback rfl rfl

/-- A notice of a host takes a client off it, or changes no load. -/
theorem charge_noticed (h : s.Sound) (cid : String) (action : SessionAction) (addr : Address)
    (hp : (s.broker.notify cid action addr).2.pools.Carries proxy load) :
    s.Charged proxy (s.Removes proxy (.notify cid action addr)) load (s.inFlight proxy) 0 := by
  cases action with
  | add =>
    have hpools : (s.broker.notify cid .add addr).2.pools = s.broker.pools := by
      simp [Broker.notify]
    exact charge_kept (hpools ▸ hp) rfl
  | remove =>
    cases happlied : (s.broker.sessions.notice cid .remove addr).1 with
    | false =>
      have hpools : (s.broker.notify cid .remove addr).2.pools = s.broker.pools := by
        simp [Broker.notify, happlied]
      exact charge_kept (hpools ▸ hp) rfl
    | true =>
      have hpools : (s.broker.notify cid .remove addr).2.pools =
          (s.broker.pools.release addr).2 := by
        simp [Broker.notify, happlied]
      rw [hpools] at hp
      rcases Pools.carries_of_release h.order.agrees.sorted hp with
        ⟨before, rfl, rfl, hcarries⟩ | ⟨-, hcarries⟩
      · have hmem := (h.order.agrees.of_pooled hcarries.proxy?).2.2
        exact ⟨before, hcarries, .released ⟨hmem, cid, rfl, happlied⟩⟩
      · exact charge_kept hcarries rfl

/-- What a step charges a record that is pooled after it: the record has just been entered,
or it was pooled before. -/
theorem Change.charge (h : s.Sound) (hc : Change setup s e o s')
    (hp : s'.broker.pools.Carries proxy load) :
    (proxy ∉ s.records ∧ load = proxy.clients ∧ s'.inFlight proxy = 0) ∨
      s.Charged proxy (s.Removes proxy e) load (s'.inFlight proxy)
        ((if s.answered? e o = some proxy then 1 else 0) + s.placed proxy e) := by
  -- Most steps end no match with an answer and are no rescale.
  have hquiet {flight : Nat} (hnot : s.answered? e o = none) (hnone : s.placed proxy e = 0)
      (hcharged : s.Charged proxy (s.Removes proxy e) load flight 0) :
      s.Charged proxy (s.Removes proxy e) load flight
        ((if s.answered? e o = some proxy then 1 else 0) + s.placed proxy e) := by
    rw [hnot, hnone, if_neg (by simp)]
    exact hcharged
  cases hc with
  | idle goesOn =>
    exact .inr (hquiet (answered?_of_not_ok (by simp)) (placed_of_call goesOn) (charge_kept hp rfl))
  | registered poll =>
    rcases charge_registered h poll hp with hnew | hcharged
    · exact .inl hnew
    · exact .inr (hquiet (answered?_of_start rfl) rfl hcharged)
  | unknown | refused =>
    exact .inr (hquiet (answered?_of_start rfl) rfl (charge_kept hp rfl))
  | rescaledNothing =>
    have hnothing : (s.broker.relocate []).2.2.pools = s.broker.pools := rfl
    exact .inr (charge_relocated h (hnothing ▸ hp) rfl)
  | denied checked borrowed =>
    have hpools := (same_of_borrow_none h borrowed).1
    exact .inr (hquiet (answered?_of_start rfl) rfl (charge_kept (hpools ▸ hp) rfl))
  | pushed checked borrowed mode =>
    exact .inr (hquiet (answered?_of_start rfl) rfl
      (charge_waiting h borrowed (h.order.borrow borrowed) rfl hp))
  | parked checked borrowed mode posted =>
    have horder := (h.order.borrow borrowed).setMailbox (Mailbox.closed_post posted)
    exact .inr (hquiet (answered?_of_start rfl) rfl (charge_waiting h borrowed horder rfl hp))
  | bounced checked borrowed mode posted =>
    exact .inr (hquiet (answered?_of_start rfl) rfl (charge_bounced h borrowed hp))
  | awaited entered =>
    exact .inr (hquiet (answered?_of_start rfl) rfl (charge_kept hp (inFlight_waiting h rfl)))
  | polledAtOnce entered taken =>
    have hpools := (Broker.sameStores_of_takeOffer taken).pools
    exact .inr (hquiet (answered?_of_start rfl) rfl (charge_endPoll h hpools hp rfl))
  | polled glances waits taken =>
    have hpools := (Broker.sameStores_of_takeOffer taken).pools
    exact .inr (hquiet (answered?_of_not_ok (by simp)) (placed_of_call glances.call?)
      (charge_endPoll h hpools hp (inFlight_ended waits rfl _)))
  | pollExpired waits nothing =>
    exact .inr (hquiet (answered?_of_not_ok (by simp)) rfl
      (charge_endPoll h rfl hp (inFlight_ended waits rfl _)))
  | answered sid answer =>
    have hpools := (s.broker.sameStores_submitAnswer sid answer).pools
    replace hp : (s.broker.submitAnswer sid answer).2.pools.Carries proxy load := hp
    rw [hpools] at hp
    exact .inr (hquiet (answered?_of_start rfl) rfl (charge_kept hp rfl))
  | noticed cid action addr =>
    exact .inr (hquiet (answered?_of_start rfl) rfl (charge_noticed h cid action addr hp))
  | @rescaled retiring _ _ _ relocated =>
    replace hp : (s.broker.relocate retiring).2.2.pools.Carries proxy load := by
      rw [relocated]
      exact (Broker.sameStores_concludeRescale ..).pools ▸ hp
    exact .inr (charge_relocated h hp rfl)
  | @moving retiring _ _ _ _ relocated moved =>
    have hsound := h.setBroker (h.order.relocate relocated)
    replace hp : (s.broker.relocate retiring).2.2.pools.Carries proxy load := by
      rw [relocated]
      exact hp
    exact .inr (charge_relocated h hp (inFlight_waiting hsound rfl))
  | replied waits pushed =>
    rw [placed_of_call rfl, Nat.add_zero]
    exact .inr (charge_concluded h rfl waits h.order.agrees ⟨rfl, rfl, rfl⟩ _ rfl hp)
  | collected glances waits parked found =>
    rw [placed_of_call glances.call?, Nat.add_zero]
    have hagrees := h.order.agrees.setMailbox (Mailbox.closed_check found)
    exact .inr
      (charge_concluded h glances.call? waits hagrees ⟨rfl, rfl, rfl⟩ (.answered _) rfl hp)
  | @expired call m waits silent =>
    rw [placed_of_call rfl, Nat.add_zero]
    have hagrees := (inOrder_abandoned h.order m).agrees
    exact .inr (charge_concluded h rfl waits hagrees (sameStores_abandoned ..) .timedOut rfl hp)
  | settled waits sent others =>
    exact .inr (hquiet (answered?_of_not_ok (by simp)) rfl
      (charge_kept hp (inFlight_setCall_moving waits proxy)))
  | settledLast waits sent last =>
    replace hp := (Broker.sameStores_concludeRescale ..).pools ▸ hp
    exact .inr (hquiet (answered?_of_not_ok (by simp)) rfl
      (charge_kept hp (inFlight_ended waits rfl _)))

end

/-! ## Runs -/

section
variable (setup : Setup) (events : List Event) (proxy : Proxy)

/-- The units that a run has charged a record for good: the clients that it announced, the
matches with it that ended with an answer, and the sessions that rescales moved to it. -/
def granted : Nat :=
  proxy.clients +
    (trace setup events).countP
      (fun x => x.1.answered? x.2 (x.1.step setup x.2).1 = some proxy) +
    ((trace setup events).map fun x => x.1.placed proxy x.2).sum

theorem granted_append (e : Event) : granted setup (events ++ [e]) proxy =
    granted setup events proxy +
      ((if (run setup events).answered? e ((run setup events).step setup e).1 = some proxy
        then 1 else 0) + (run setup events).placed proxy e) := by
  simp only [granted, trace_append, List.countP_append, List.countP_singleton, List.map_append,
    List.map_singleton, List.sum_append, List.sum_singleton, decide_eq_true_eq]
  omega

/-- Nothing is charged a record before it is entered. -/
theorem granted_append_of_not_mem (e : Event) (hnew : proxy ∉ (run setup events).records) :
    granted setup (events ++ [e]) proxy = granted setup events proxy := by
  have hsound := run_sound setup events
  rw [granted_append, placed_of_not_mem hsound hnew,
    if_neg fun heq => hnew (mem_records_of_answered hsound heq), Nat.add_zero]

theorem granted_of_not_mem (hnew : proxy ∉ (run setup events).records) :
    granted setup events proxy = proxy.clients := by
  induction events using List.reverseRecOn with
  | nil => rfl
  | append_singleton events e ih =>
    have hrecords := (step_change setup (run setup events) e).records
    rw [← run_append] at hrecords
    have hbefore : proxy ∉ (run setup events).records := fun hmem => hnew (hrecords.subset hmem)
    rw [granted_append_of_not_mem setup events proxy e hbefore, ih hbefore]

/-- The load of a record after a run, and what it is charged. -/
theorem carries_granted {load : Nat} (hp : (run setup events).broker.pools.Carries proxy load) :
    load ≤ granted setup events proxy + (run setup events).inFlight proxy ∧
      ((∀ x ∈ trace setup events, ¬ x.1.Removes proxy x.2) →
        (∀ before, before <+: events → (run setup before).Unsaturated) →
        load = granted setup events proxy + (run setup events).inFlight proxy) := by
  induction events using List.reverseRecOn generalizing load with
  | nil => simp [Pools.Carries, run, start, Traffic.empty, Broker.empty] at hp
  | append_singleton events e ih =>
    have hsound := run_sound setup events
    have hc := step_change setup (run setup events) e
    rw [← run_append] at hc
    rcases hc.charge hsound hp with ⟨hnew, rfl, hzero⟩ | ⟨before, hcarries, hcharge⟩
    · rw [granted_append_of_not_mem setup events proxy e hnew,
        granted_of_not_mem setup events proxy hnew, hzero]
      exact ⟨le_rfl, fun _ _ => rfl⟩
    · obtain ⟨hle, heq⟩ := ih hcarries
      rw [granted_append]
      refine ⟨hcharge.le hle, fun hkeeps hbelow => ?_⟩
      have hprefix : events <+: events ++ [e] := List.prefix_append ..
      have hlt := (hbelow _ hprefix).lt hsound hcarries
      have hlt' := (hbelow _ (List.prefix_refl _)).lt (run_sound setup _) hp
      have hkept := hkeeps _ (mem_trace_append.mpr (.inr rfl))
      exact hcharge.eq hkept hlt hlt' (heq
        (fun x hx => hkeeps x (mem_trace_append.mpr (.inl hx)))
        fun before hpre => hbelow before (hpre.trans hprefix))

/-- What the load of a pooled record is made of. At most: the clients that the record announced,
the matches with it that wait, those that ended with an answer, and the sessions that
rescales moved to it. And exactly that, if its host has not had a client taken off since the
record was entered and no load has been at its limit. -/
theorem loads_charged (load : Nat)
    (pooled : ⟨proxy, load⟩ ∈ (run setup events).broker.pools.slots) :
    let waiting := (run setup events).inFlight proxy
    let matched := (trace setup events).countP
      fun x => x.1.answered? x.2 (x.1.step setup x.2).1 = some proxy
    let moved := ((trace setup events).map fun x => x.1.placed proxy x.2).sum
    load ≤ proxy.clients + waiting + matched + moved ∧
      ((∀ x ∈ trace setup events, ¬ x.1.Removes proxy x.2) →
        (∀ before, before <+: events → (run setup before).Unsaturated) →
        load = proxy.clients + waiting + matched + moved) := by
  intro waiting matched moved
  have hsorted := (run_sound setup events).order.agrees.sorted
  obtain ⟨hle, heq⟩ :=
    carries_granted setup events proxy ((Pools.carries_iff_mem hsorted).mpr pooled)
  have hgranted : granted setup events proxy = proxy.clients + matched + moved := rfl
  refine ⟨by omega, fun hkeeps hbelow => ?_⟩
  have hload := heq hkeeps hbelow
  omega

end

/-- Two hosts poll, and each gets a client. The first one retires, its client is moved to the
second, and another client is being matched. -/
def movedAndMatched : List Event :=
  let poll (sid : String) (addr : Address) : Event :=
    .register ⟨sid, "standalone", .unrestricted, addr, 1, true⟩
  let request (cid : String) : Event := .startMatch ⟨cid, .unrestricted, "", "a=candidate:1"⟩
  [poll "s1" (.v4 10 0 0 1), request "c1", .reply 0 (.ok "ANSWER"), poll "s2" (.v4 10 0 0 2),
    request "c2", .reply 1 (.ok "ANSWER"), .rescale [.v4 10 0 0 1] [], request "c3"]

/-- The second host announced one client, waits for one, got one by a match and one by the
rescale. -/
theorem load_of_four_clients :
    let setup : Setup := ⟨Settings.standard, Catalog.builtin⟩
    let proxy : Proxy := ⟨1, "s2", "standalone", .unrestricted, .v4 10 0 0 2, 1⟩
    ⟨proxy, 4⟩ ∈ (run setup movedAndMatched).broker.pools.slots ∧
      (∀ x ∈ trace setup movedAndMatched, ¬ x.1.Removes proxy x.2) ∧
      (∀ before, before <+: movedAndMatched → (run setup before).Unsaturated) ∧
      4 = proxy.clients + (run setup movedAndMatched).inFlight proxy +
        (trace setup movedAndMatched).countP
          (fun x => x.1.answered? x.2 (x.1.step setup x.2).1 = some proxy) +
        ((trace setup movedAndMatched).map fun x => x.1.placed proxy x.2).sum := by
  intro setup proxy
  have pooled : ⟨proxy, 4⟩ ∈ (run setup movedAndMatched).broker.pools.slots := by decide +kernel
  have keeps : ∀ x ∈ trace setup movedAndMatched, ¬ x.1.Removes proxy x.2 := by
    rintro x hx ⟨-, cid, he, -⟩
    simp only [trace, traceFrom, movedAndMatched, List.mem_cons, List.not_mem_nil, or_false] at hx
    rcases hx with rfl | rfl | rfl | rfl | rfl | rfl | rfl | rfl <;> cases he
  have below : ∀ before, before <+: movedAndMatched → (run setup before).Unsaturated := by
    have hinits : ∀ before ∈ movedAndMatched.inits, (run setup before).Unsaturated := by
      decide +kernel
    exact fun before hpre => hinits before ((List.mem_inits ..).mpr hpre)
  obtain ⟨-, hload⟩ := loads_charged setup movedAndMatched proxy 4 pooled
  exact ⟨pooled, keeps, below, hload keeps below⟩

end History

end RelayBroker
