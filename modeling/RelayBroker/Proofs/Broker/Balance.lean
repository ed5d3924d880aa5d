/-
  RelayBroker.Proofs.Broker.Balance

  Loads against what the pooled proxies carry. Pools are `Balanced` for a burden of the
  proxies if each load is the burden of its proxy. Borrowing and releasing change one
  load by one, so they keep the balance if the burden of that host changes with it.

  A rescale keeps the balance with the sessions that are bound to each host: a session
  that moves comes from a host that is not pooled any more, and the proxy that takes it
  is borrowed for it. Only a load at its limit does not count further (`Saturated`).
-/

import RelayBroker.Proofs.Broker.Agreement
import RelayBroker.Proofs.Table.Count

namespace RelayBroker

/-! ## How many sessions a host carries -/

namespace Sessions

/-- How many sessions are bound to a host. -/
def carried (s : Sessions) (host : Address) : Nat :=
  s.byClient.count fun session => session.host = host

section
variable {s : Sessions} {cid : String}

theorem byClient_unlink (s : Sessions) (cid : String) (host : Address) :
    (s.unlink cid host).byClient = s.byClient := by
  rw [unlink]
  split <;> rfl

/-- A session at the host `h` counts there, once. -/
def countsAt (session : Option Session) (h : Address) : Nat :=
  (session.any fun s => s.host = h).toNat

@[simp] theorem countsAt_some (session : Session) (h : Address) :
    countsAt (some session) h = if session.host = h then 1 else 0 := by
  rw [countsAt, Option.any_some]
  split <;> simp [*]

theorem carried_bind (s : Sessions) (cid : String) (nat : NatClass) (host h : Address) :
    (s.bind cid nat host).carried h + countsAt (s.get? cid) h =
      s.carried h + if host = h then 1 else 0 := by
  -- Striking the client from a list leaves the sessions as they are.
  have hfreed : (s.freed cid).byClient = s.byClient := by
    rw [freed]
    split
    · exact byClient_unlink ..
    · rfl
  have hcount := Table.count_insert s.byClient cid ⟨cid, nat, host⟩ fun session => session.host = h
  rw [bind_eq]
  show (Table.insert (s.freed cid).byClient cid _).count _ + _ = _
  rw [hfreed, ← countsAt_some ⟨cid, nat, host⟩]
  exact hcount

theorem carried_rebind {old : Session} (hget : s.get? cid = some old) (host h : Address) :
    (s.rebind cid host).2.carried h + (if old.host = h then 1 else 0) =
      s.carried h + if host = h then 1 else 0 := by
  have hcount := Table.count_insert s.byClient cid { old with host := host } fun session =>
    session.host = h
  rw [rebind_snd hget, ← countsAt_some old, ← countsAt_some { old with host := host }, ← hget]
  show (unlink _ _ _).byClient.count _ + _ = _
  rw [byClient_unlink]
  exact hcount

theorem carried_erased {session : Session} (hget : s.get? cid = some session) (host h : Address) :
    (s.erased cid host).carried h + (if session.host = h then 1 else 0) = s.carried h := by
  have hcount := Table.count_erase s.byClient cid fun session => session.host = h
  rw [carried, erased, byClient_unlink, ← countsAt_some session, ← hget]
  exact hcount

end

end Sessions

/-! ## Balanced pools -/

namespace Pools

/-- Each load is the burden of its proxy. -/
def Balanced (p : Pools) (burden : Proxy → Nat) : Prop :=
  ∀ a slot, p.slot? a = some slot → slot.load = burden slot.proxy

/-- Some load is at its limit. -/
def Saturated (p : Pools) : Prop :=
  ∃ a slot, p.slot? a = some slot ∧ Number.max32 ≤ slot.load

section
variable {p p' : Pools} {f g : Proxy → Nat} {slot : Slot}

theorem Balanced.iff_of_balanced (h : p.Balanced f) :
    p.Balanced g ↔ ∀ a slot, p.slot? a = some slot → g slot.proxy = f slot.proxy := by
  constructor
  · intro hg a slot hslot
    rw [← h a slot hslot, hg a slot hslot]
  · intro hg a slot hslot
    rw [hg a slot hslot]
    exact h a slot hslot

/-- Hosts may leave balanced pools. -/
theorem Balanced.of_fewer (h : p.Balanced f)
    (fewer : ∀ a slot, p'.slot? a = some slot → p.slot? a = some slot)
    (same : ∀ a slot, p'.slot? a = some slot → g slot.proxy = f slot.proxy) : p'.Balanced g := by
  intro a slot hslot
  rw [same a slot hslot]
  exact h a slot (fewer a slot hslot)

/-- One client more at a host that was borrowed. -/
theorem Balanced.bump (h : p.Balanced f) (hr : Reloads p slot (LoadHeap.bump slot.load) p')
    (hlt : slot.load < Number.max32)
    (hg : ∀ a s, p.slot? a = some s →
      g s.proxy = f s.proxy + if slot.proxy.addr = a then 1 else 0) : p'.Balanced g := by
  intro a s hs
  rw [hr.after] at hs
  split at hs
  · next ha =>
    obtain rfl := Option.some.inj hs
    -- The slot that was raised: its load counts on, as it is not at its limit.
    have hload := h _ _ hr.before
    have hburden := hg _ _ hr.before
    rw [if_pos rfl] at hburden
    simp only [LoadHeap.bump]
    omega
  · next ha =>
    rw [hg a s hs, if_neg fun heq => ha heq.symm]
    exact h a s hs

/-- One client less at a host that was released. -/
theorem Balanced.release (hs : p.Sorted) (h : p.Balanced f) {addr : Address}
    (hg : ∀ a s, p.slot? a = some s → g s.proxy + (if addr = a then 1 else 0) = f s.proxy) :
    (p.release addr).2.Balanced g := by
  rcases release_cases hs addr with ⟨heq, hzero⟩ | ⟨slot, rfl, -, -, hr⟩
  · rw [heq]
    intro a s hslot
    have hburden := hg a s hslot
    have hload := h a s hslot
    by_cases ha : addr = a
    · -- A host whose load is zero carries nobody who could leave.
      rw [if_pos ha] at hburden
      have hload0 := hzero s (ha ▸ hslot)
      omega
    · rw [if_neg ha] at hburden
      omega
  · intro a s hslot
    rw [hr.after] at hslot
    split at hslot
    · -- The slot that was lowered.
      obtain rfl := Option.some.inj hslot
      have hload := h _ _ hr.before
      have hburden := hg _ _ hr.before
      rw [if_pos rfl] at hburden
      simp only
      omega
    · next ha =>
      have hburden := hg a s hslot
      rw [if_neg fun heq => ha heq.symm] at hburden
      rw [h a s hslot]
      omega

theorem Saturated.bump (h : p.Saturated) (hr : Reloads p slot (LoadHeap.bump slot.load) p') :
    p'.Saturated := by
  obtain ⟨a, s, hs, hle⟩ := h
  by_cases ha : a = slot.proxy.addr
  · rw [ha, hr.before, Option.some.injEq] at hs
    subst hs
    refine ⟨a, _, by rw [hr.after, if_pos ha], ?_⟩
    simp only [LoadHeap.bump]
    omega
  · exact ⟨a, s, by rw [hr.after, if_neg ha, hs], hle⟩

end

end Pools

/-! ## A rescale -/

namespace Relocation

section
variable {retiring : List Address} {r r' : Relocation} {k : Proxy → Nat}

/-- A move takes a session off a host that is not pooled, and counts it at its new one. -/
theorem Move.balanced (hready : Ready retiring r) (hm : Move retiring r r')
    (h : r.pools.Balanced fun proxy => k proxy + r.sessions.carried proxy.addr) :
    (r'.pools.Balanced fun proxy => k proxy + r'.sessions.carried proxy.addr) ∨
      r'.pools.Saturated := by
  obtain ⟨session, slot, pools, bound, retires, -, hr⟩ := hm
  -- A load at its limit stays there, and is seen at the end.
  by_cases hlt : slot.load < Number.max32
  · refine .inl (h.bump hr hlt fun a s hs => ?_)
    obtain rfl := Pools.slot?_addr hready.sorted hs
    have hcarried := Sessions.carried_rebind bound slot.proxy.addr s.proxy.addr
    -- The host that the session leaves is not pooled.
    have hleft : session.host ≠ s.proxy.addr := fun heq => by
      rw [← heq, hready.out _ retires] at hs
      cases hs
    rw [if_neg hleft] at hcarried
    simp only
    omega
  · refine .inr ⟨slot.proxy.addr, _, by rw [hr.after, if_pos rfl], ?_⟩
    simp only [LoadHeap.bump]
    omega

theorem Moves.balanced (hready : Ready retiring r) (hm : Moves retiring r r')
    (h : r.pools.Balanced fun proxy => k proxy + r.sessions.carried proxy.addr) :
    (r'.pools.Balanced fun proxy => k proxy + r'.sessions.carried proxy.addr) ∨
      r'.pools.Saturated := by
  -- Both outcomes are kept: balance by each move, saturation because loads do not fall.
  induction hm with
  | refl => exact .inl h
  | tail hmoves hstep ih =>
    rcases ih with hb | hs
    · exact hstep.balanced (hready.moves hmoves) hb
    · obtain ⟨session, slot, pools, -, -, -, hr⟩ := hstep
      exact .inr (hs.bump hr)

end

end Relocation

namespace Broker

/-! ## Matches and polls that end -/

/-- A failed match takes a client off its proxy exactly if that very record is pooled. -/
theorem pools_giveBack {b : Broker} {records : List Proxy} {proxy : Proxy}
    (h : b.Agrees records) (hp : proxy ∈ records) :
    (b.giveBack proxy).pools =
      if b.pools.proxy? proxy.addr = some proxy then (b.pools.release proxy.addr).2
      else b.pools := by
  -- What `giveBack` looks at, the current record and its mailbox, is what being pooled means.
  have hpooled : b.pools.proxy? proxy.addr = some proxy ↔
      b.directory.isCurrent proxy = true ∧ (b.mailbox proxy).closed = false := by
    rw [h.isCurrent_iff hp, h.pooled, Option.filter_eq_some_iff, isOpen, Bool.not_eq_true']
  rw [giveBack]
  split
  · next hcurrent => rw [if_neg fun hin => by simp [(hpooled.mp hin).1] at hcurrent]
  · next hcurrent =>
    split
    · next hclosed => rw [if_neg fun hin => by simp [(hpooled.mp hin).2] at hclosed]
    · next hopen => rw [if_pos (hpooled.mpr ⟨by simpa using hcurrent, by simpa using hopen⟩)]

/-- A poll that ends takes at most its own host out of the pools. -/
theorem slot?_of_endPoll {b : Broker} (hs : b.pools.Sorted) {proxy : Proxy} {polled : Option Offer}
    {a : Address} {slot : Slot} (h : (b.endPoll proxy polled).2.pools.slot? a = some slot) :
    b.pools.slot? a = some slot := by
  have hremove (hslot : (b.pools.remove proxy.addr).2.slot? a = some slot) :
      b.pools.slot? a = some slot := by
    rw [Pools.slot?_remove hs] at hslot
    split at hslot
    · cases hslot
    · exact hslot
  simp only [endPoll, withdraw] at h
  split at h
  · split at h
    · exact hremove h
    · exact hremove h
  · exact h

end Broker

end RelayBroker
