/-
  RelayBroker.Proofs.Broker.Relocation

  The loop of a rescale, as a chain of moves. A `Move` takes one session off a retiring
  host and puts it on a borrowed proxy; what the loop arrives at is reached by moves
  alone (`clearHosts_moves`), because the list that is dropped at the end of each host
  is empty by then (`dropHost_after`). So what a move keeps, a rescale keeps.

  The loop starts with the retiring hosts out of the pools (`Ready`), and no move puts
  one back.
-/

import Mathlib.Logic.Relation
import RelayBroker.Broker.Rescale
import RelayBroker.Proofs.Fleet.DirectoryView
import RelayBroker.Proofs.Fleet.PoolView
import RelayBroker.Proofs.Session.ReverseIndex

namespace RelayBroker

namespace Relocation

/-- The stores are in order, and no retiring host is pooled. -/
structure Ready (retiring : List Address) (r : Relocation) : Prop where
  sorted : r.pools.Sorted
  exact : r.sessions.Exact
  out : ∀ host ∈ retiring, r.pools.slot? host = none

/-- A session of a retiring host is moved to the proxy that was borrowed for it. -/
inductive Move (retiring : List Address) (r : Relocation) : Relocation → Prop
  | move (session : Session) (slot : Slot) (pools : Pools)
      (bound : r.sessions.get? session.cid = some session)
      (retires : session.host ∈ retiring)
      (serves : slot.proxy.nat.CanServe session.nat)
      (reloads : r.pools.Reloads slot (LoadHeap.bump slot.load) pools) :
      Move retiring r ⟨pools, (r.sessions.rebind session.cid slot.proxy.addr).2,
        r.migrations ++ [⟨session.cid, session.host, slot.proxy.addr⟩]⟩

/-- Any number of moves. -/
abbrev Moves (retiring : List Address) : Relocation → Relocation → Prop :=
  Relation.ReflTransGen (Move retiring)

variable {retiring : List Address} {r r' : Relocation}

theorem Move.proxy? (hm : Move retiring r r') (a : Address) :
    r'.pools.proxy? a = r.pools.proxy? a := by
  obtain ⟨session, slot, pools, -, -, -, hr⟩ := hm
  exact hr.proxy? a

theorem Moves.proxy? (hm : Moves retiring r r') (a : Address) :
    r'.pools.proxy? a = r.pools.proxy? a := by
  induction hm with
  | refl => rfl
  | tail _ hstep ih => rw [hstep.proxy?, ih]

theorem Ready.move (h : Ready retiring r) (hm : Move retiring r r') : Ready retiring r' := by
  have hp := hm.proxy?
  obtain ⟨session, slot, pools, -, -, -, hr⟩ := hm
  refine ⟨hr.sorted, Sessions.exact_rebind h.exact _ _, ?_⟩
  intro host hhost
  rw [← Pools.proxy?_eq_none_iff, hp, Pools.proxy?_eq_none_iff]
  exact h.out host hhost

theorem Ready.moves (h : Ready retiring r) (hm : Moves retiring r r') : Ready retiring r' := by
  induction hm with
  | refl => exact h
  | tail _ hstep ih => exact ih.move hstep

/-- A pooled proxy is at no retiring host. -/
theorem Ready.not_mem (h : Ready retiring r) {a : Address} {proxy : Proxy}
    (hp : r.pools.proxy? a = some proxy) : a ∉ retiring := by
  intro ha
  rw [Pools.proxy?_eq_none_iff.mpr (h.out a ha)] at hp
  cases hp

/-! ## The sessions of one host -/

/-- A loop over sessions of a host makes moves; if none is left over, then each of them
has another host, and no other session has come to this one. -/
theorem moveSessions_moves {host : Address} (hhost : host ∈ retiring) (sessions : List Session)
    (hr : Ready retiring r)
    (hbound : ∀ s ∈ sessions, r.sessions.get? s.cid = some s ∧ s.host = host)
    (hnd : (sessions.map (·.cid)).Nodup) :
    Moves retiring r (moveSessions host sessions r).1 ∧
    ((moveSessions host sessions r).2 = 0 → ∀ cid s,
      (moveSessions host sessions r).1.sessions.get? cid = some s → s.host = host →
        r.sessions.get? cid = some s ∧ cid ∉ sessions.map (·.cid)) := by
  -- The induction is on the sessions that are still to be moved; `hbound` says that none of
  -- them has been touched by the moves before.
  induction sessions generalizing r with
  | nil => exact ⟨.refl, fun _ cid s hget _ => ⟨hget, by simp⟩⟩
  | cons session rest ih =>
    obtain ⟨hget, rfl⟩ := hbound session List.mem_cons_self
    rw [List.map_cons, List.nodup_cons] at hnd
    rcases Pools.borrow_cases hr.sorted session.nat with ⟨heq, -⟩ | ⟨slot, heq, hserves, hreloads⟩
    · -- No proxy can serve the client, and the loop ends here.
      simp only [moveSessions, heq]
      exact ⟨.refl, fun h => absurd h (by simp)⟩
    · -- A proxy was borrowed, and the loop goes on from the move.
      obtain ⟨pools, hb⟩ : ∃ pools, r.pools.borrow session.nat = (some slot.proxy, pools) :=
        ⟨_, Prod.ext heq rfl⟩
      rw [hb] at hreloads
      simp only [moveSessions, hb]
      have hstep := Move.move session slot pools hget hhost hserves hreloads
      have hafter := Sessions.get?_rebind hget slot.proxy.addr
      -- The sessions that are still to be moved have other clients.
      have hrest : ∀ s ∈ rest, (r.sessions.rebind session.cid slot.proxy.addr).2.get? s.cid =
          some s ∧ s.host = session.host := by
        intro s hs
        have hne : s.cid ≠ session.cid := fun he => hnd.1 (he ▸ List.mem_map_of_mem hs)
        rw [hafter, if_neg hne]
        exact hbound s (List.mem_cons_of_mem _ hs)
      obtain ⟨hmoves, hleft⟩ := ih (hr.move hstep) hrest hnd.2
      refine ⟨.head hstep hmoves, ?_⟩
      intro h0 cid s hs hh
      obtain ⟨hold, hnot⟩ := hleft h0 cid s hs hh
      have hold' := hafter cid ▸ hold
      split at hold'
      · -- The session that was just moved is not at the retiring host any more.
        rw [Option.some.injEq] at hold'
        have hback : slot.proxy.addr = session.host := by
          rw [← hold'] at hh
          exact hh
        exact absurd (hback ▸ hhost) (hr.not_mem hreloads.proxy?_before)
      · next hne => exact ⟨hold', by simp [hne, hnot]⟩

/-- A loop over all sessions of a host makes moves; if none is left over, then no session
is bound to the host. -/
theorem moveSessions_ofHost {host : Address} (hhost : host ∈ retiring) (hr : Ready retiring r) :
    Moves retiring r (moveSessions host (r.sessions.ofHost host) r).1 ∧
    ((moveSessions host (r.sessions.ofHost host) r).2 = 0 → ∀ cid s,
      (moveSessions host (r.sessions.ofHost host) r).1.sessions.get? cid = some s →
        s.host ≠ host) := by
  -- The loop runs over the sessions of the host as they were when it began.
  have hbound : ∀ s ∈ r.sessions.ofHost host, r.sessions.get? s.cid = some s ∧ s.host = host :=
    fun s hs => (Sessions.mem_ofHost hr.exact).mp hs
  have hids := Sessions.map_cid_ofHost hr.exact host
  obtain ⟨hmoves, hleft⟩ := moveSessions_moves hhost _ hr hbound (hids ▸ hr.exact.once host)
  refine ⟨hmoves, ?_⟩
  intro h0 cid s hs hh
  obtain ⟨hget, hnot⟩ := hleft h0 cid s hs hh
  rw [hids, hr.exact.listed] at hnot
  exact hnot ⟨s, hget, hh⟩

/-- Once all sessions of a host are moved, its list is gone: nothing is dropped. -/
theorem dropHost_after {host : Address} (hhost : host ∈ retiring) (hr : Ready retiring r)
    (h0 : (moveSessions host (r.sessions.ofHost host) r).2 = 0) :
    (moveSessions host (r.sessions.ofHost host) r).1.sessions.dropHost host =
      ([], (moveSessions host (r.sessions.ofHost host) r).1.sessions) := by
  obtain ⟨hmoves, hfree⟩ := moveSessions_ofHost hhost hr
  exact Sessions.dropHost_of_free (hr.moves hmoves).exact (hfree h0)

/-! ## All hosts -/

theorem clearHosts_moves (hosts : List Address) (hsub : ∀ host ∈ hosts, host ∈ retiring)
    (hr : Ready retiring r) : Moves retiring r (clearHosts hosts r).1 := by
  induction hosts generalizing r with
  | nil => exact .refl
  | cons host hosts ih =>
    have hhost := hsub host List.mem_cons_self
    obtain ⟨hmoves, -⟩ := moveSessions_ofHost hhost hr
    -- The host is cleared, so dropping its list is no change between the moves.
    have hdrop := dropHost_after hhost hr
    rw [clearHosts]
    split
    · next r' heq =>
      rw [heq] at hmoves hdrop
      rw [hdrop rfl]
      exact hmoves.trans (ih (fun h hh => hsub h (List.mem_cons_of_mem _ hh)) (hr.moves hmoves))
    · next r' left _ heq =>
      rw [heq] at hmoves
      exact hmoves

/-! ## A rescale -/

/-- Where the loop of a rescale starts: the retiring hosts have left the pools. -/
def start (b : Broker) (retiring : List Address) : Relocation :=
  ⟨b.pools.removeAll retiring, b.sessions, []⟩

theorem ready_start {b : Broker} (hs : b.pools.Sorted) (he : b.sessions.Exact)
    (retiring : List Address) : Ready retiring (start b retiring) :=
  ⟨Pools.sorted_removeAll hs retiring, he, fun host hhost => by
    rw [start, Pools.slot?_removeAll hs, if_pos hhost]⟩

theorem start_moves {b : Broker} (hs : b.pools.Sorted) (he : b.sessions.Exact)
    (retiring : List Address) :
    Moves retiring (start b retiring) (clearHosts retiring (start b retiring)).1 :=
  clearHosts_moves retiring (fun _ h => h) (ready_start hs he retiring)

end Relocation

namespace Broker

theorem foldl_retireHost (hosts : List Address) (b : Broker) :
    hosts.foldl retireHost b =
      { b with pools := b.pools.removeAll hosts, directory := b.directory.removeAll hosts } := by
  induction hosts generalizing b with
  | nil => rfl
  | cons host hosts ih => rw [List.foldl_cons, ih]; rfl

theorem relocate_eq (b : Broker) (retiring : List Address) :
    b.relocate retiring =
      let (r, stranded) := Relocation.clearHosts retiring (Relocation.start b retiring)
      (r.migrations, stranded, { b with
        pools := r.pools
        sessions := r.sessions
        directory := b.directory.removeAll retiring }) := by
  rw [relocate, foldl_retireHost]
  rfl

/-- The sessions of retiring hosts move between hosts that stay, and nobody else is taken out of
the pools. -/
theorem proxy?_relocate {b : Broker} (hs : b.pools.Sorted) (he : b.sessions.Exact)
    (retiring : List Address) (a : Address) :
    (b.relocate retiring).2.2.pools.proxy? a =
      if a ∈ retiring then none else b.pools.proxy? a := by
  have hmoves := Relocation.start_moves hs he retiring
  rw [relocate_eq]
  show Pools.proxy? _ a = _
  rw [hmoves.proxy?, Relocation.start, Pools.proxy?, Pools.slot?_removeAll hs]
  split <;> rfl

end Broker

end RelayBroker
