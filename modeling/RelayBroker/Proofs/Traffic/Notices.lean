/-
  RelayBroker.Proofs.Traffic.Notices

  What the notice of a host can do. It applies to the session of the one client that it names,
  if that session is one that the host may speak of, and else changes nothing: a removal
  ends the session of a client that the host carries and takes one unit of load off the host;
  an addition moves a session to the host. So no notice makes a session, and over a run hosts
  end no more sessions than matches have made (`ended_add_size_le`).

  Main statement: `notices_harmless`.
-/

import RelayBroker.Broker.Overview
import RelayBroker.Proofs.Traffic.Accounts
import RelayBroker.Proofs.Traffic.Bindings
import RelayBroker.Proofs.Traffic.Retry

namespace RelayBroker

/-! ## How many sessions there are -/

namespace Sessions

/-- The clients that have a session. -/
def clients (s : Sessions) : Finset String :=
  s.byClient.keys

theorem card_clients (s : Sessions) : s.clients.card = s.size :=
  Table.card_keys s.byClient

section
variable {s s' : Sessions} {cid : String}

theorem mem_clients : cid ∈ s.clients ↔ (s.get? cid).isSome := by
  rw [clients, Table.mem_keys, Option.isSome_iff_exists]
  rfl

/-- As long as the same clients have sessions, there are as many. -/
theorem size_eq_of_isSome (h : ∀ c, (s'.get? c).isSome = (s.get? c).isSome) :
    s'.size = s.size := by
  have hclients : s'.clients = s.clients := by
    ext c
    rw [mem_clients, mem_clients, h]
  rw [← card_clients, ← card_clients, hclients]

theorem size_bind_le (s : Sessions) (cid : String) (nat : NatClass) (host : Address) :
    (s.bind cid nat host).size ≤ s.size + 1 := by
  have hclients : (s.bind cid nat host).clients = insert cid s.clients := by
    ext c
    rw [mem_clients, get?_bind, Finset.mem_insert, mem_clients]
    by_cases hc : c = cid <;> simp [hc]
  rw [← card_clients, ← card_clients, hclients]
  exact Finset.card_insert_le _ _

theorem size_rebind (s : Sessions) (cid : String) (host : Address) :
    (s.rebind cid host).2.size = s.size := by
  cases hget : s.get? cid with
  | none => rw [rebind_of_none hget]
  | some old =>
    apply size_eq_of_isSome
    intro c
    rw [get?_rebind hget]
    by_cases hc : c = cid
    · rw [if_pos hc, hc, hget]
      rfl
    · rw [if_neg hc]

/-- A session that is ended is one less. -/
theorem size_unbind (s : Sessions) (cid : String) (host : Address) :
    (s.unbind cid host).2.size + (s.unbind cid host).1.toNat = s.size := by
  rcases unbind_cases s cid host with ⟨heq, -⟩ | ⟨session, hget, rfl, heq⟩
  · rw [heq]
    rfl
  · have hclients : (s.erased cid session.host).clients = s.clients.erase cid := by
      ext c
      rw [mem_clients, get?_erased, Finset.mem_erase, mem_clients]
      by_cases hc : c = cid <;> simp [hc]
    have hmem : cid ∈ s.clients := mem_clients.mpr (by rw [hget]; rfl)
    rw [heq, ← card_clients, ← card_clients, hclients]
    exact Finset.card_erase_add_one hmem

end

end Sessions

/-- A rescale moves sessions, and neither makes nor ends one. -/
theorem Broker.size_relocate {b : Broker} (hs : b.pools.Sorted) (he : b.sessions.Exact)
    (retiring : List Address) : (b.relocate retiring).2.2.sessions.size = b.sessions.size := by
  rw [relocate_sessions]
  apply Sessions.size_eq_of_isSome
  intro cid
  have hnat := (track_relocated hs he retiring cid).nat
  rw [← Option.isSome_map, hnat, Option.isSome_map]
  rfl

/-! ## One notice -/

namespace Broker

/-- A broker in which another session stands for one client, or none: the client is struck
from the lists and, if it has a session, put last on that of its host. All else is as it was,
but for the pools. -/
structure Resessioned (b : Broker) (cid : String) (now : Option Session) (b' : Broker) :
    Prop where
  sessions : ∀ c, b'.sessions.get? c = if c = cid then now else b.sessions.get? c
  lists : ∀ host, b'.sessions.ids host = (b.sessions.ids host).filter (· ≠ cid) ++
    if now.map (·.host) = some host then [cid] else []
  directory : b'.directory = b.directory
  mailboxes : b'.mailboxes = b.mailboxes
  counters : b'.counters = b.counters
  nextPoll : b'.nextPoll = b.nextPoll

section
variable {b : Broker} {cid : String} {addr : Address}

theorem notify_add (b : Broker) (cid : String) (addr : Address) :
    b.notify cid .add addr =
      ((b.sessions.rebind cid addr).1, { b with sessions := (b.sessions.rebind cid addr).2 }) := by
  simp [notify, Sessions.notice]

theorem notify_remove (b : Broker) (cid : String) (addr : Address) :
    b.notify cid .remove addr = ((b.sessions.unbind cid addr).1,
      { b with
        sessions := (b.sessions.unbind cid addr).2
        pools :=
          if (b.sessions.unbind cid addr).1 then (b.pools.release addr).2 else b.pools }) := by
  simp [notify, Sessions.notice]

/-- A notice that does not apply changes nothing. -/
theorem eq_of_not_notified {action : SessionAction} (h : (b.notify cid action addr).1 = false) :
    (b.notify cid action addr).2 = b := by
  cases action with
  | add =>
    rw [notify_add] at h ⊢
    cases hget : b.sessions.get? cid with
    | none => rw [Sessions.rebind_of_none hget]
    | some old =>
      simp only [Sessions.rebind, hget] at h
      cases h
  | remove =>
    rw [notify_remove] at h ⊢
    rcases Sessions.unbind_cases b.sessions cid addr with ⟨heq, -⟩ | ⟨session, -, -, heq⟩
    · rw [heq]
      rfl
    · rw [heq] at h
      cases h

/-- An addition applies to a client that has a session. -/
theorem notify_add_iff : (b.notify cid .add addr).1 = true ↔ (b.sessions.get? cid).isSome := by
  rw [notify_add]
  cases hget : b.sessions.get? cid with
  | none => simp [Sessions.rebind_of_none hget]
  | some old => simp [Sessions.rebind, hget]

/-- An addition moves the session of the client, if it has one. -/
theorem resessioned_add (he : b.sessions.Exact) (cid : String) (addr : Address) :
    b.Resessioned cid ((b.sessions.get? cid).map fun session => { session with host := addr })
      (b.notify cid .add addr).2 := by
  rw [notify_add]
  cases hget : b.sessions.get? cid with
  | none =>
    rw [Sessions.rebind_of_none hget]
    refine ⟨fun c => ?_, fun host => ?_, rfl, rfl, rfl, rfl⟩
    · split
      · next hc => rw [hc, hget]; rfl
      · rfl
    · have hfree : (b.sessions.ids host).filter (· ≠ cid) = b.sessions.ids host :=
        he.ids_filter (by simp [hget])
      rw [hfree]
      simp
  | some old =>
    refine ⟨Sessions.get?_rebind hget addr, fun host => ?_, rfl, rfl, rfl, rfl⟩
    simp only [Sessions.ids_rebind he hget, Option.map_some, Option.some.injEq, eq_comm]

/-- A removal applies to a client that the host carries. -/
theorem notify_remove_iff :
    (b.notify cid .remove addr).1 = true ↔ b.sessionHost? cid = some addr := by
  rw [notify_remove, sessionHost?, Option.map_eq_some_iff]
  rcases Sessions.unbind_cases b.sessions cid addr with ⟨heq, hno⟩ | ⟨session, hget, hhost, heq⟩
  · rw [heq]
    simpa using hno
  · rw [heq]
    exact ⟨fun _ => ⟨session, hget, hhost⟩, fun _ => rfl⟩

/-- A removal that applies ends the session of the client. -/
theorem resessioned_remove (he : b.sessions.Exact)
    (h : (b.notify cid .remove addr).1 = true) :
    b.Resessioned cid none (b.notify cid .remove addr).2 := by
  rw [notify_remove] at h ⊢
  rcases Sessions.unbind_cases b.sessions cid addr with ⟨heq, -⟩ | ⟨session, hget, rfl, heq⟩
  · rw [heq] at h
    cases h
  · rw [heq]
    refine ⟨Sessions.get?_erased b.sessions cid session.host, fun host => ?_, rfl, rfl, rfl, rfl⟩
    simp [Sessions.ids_erased he hget]

/-- A removal that applies takes one unit off the load of the host, if it has one. -/
theorem slot?_of_removed (hs : b.pools.Sorted) (h : (b.notify cid .remove addr).1 = true)
    (a : Address) : (b.notify cid .remove addr).2.pools.slot? a =
      if a = addr then (b.pools.slot? a).map fun slot => { slot with load := slot.load - 1 }
      else b.pools.slot? a := by
  have hpools : (b.notify cid .remove addr).2.pools = (b.pools.release addr).2 := by
    rw [notify_remove] at h ⊢
    exact if_pos h
  rw [hpools]
  rcases Pools.release_cases hs addr with ⟨heq, hzero⟩ | ⟨slot, rfl, -, -, hr⟩
  · -- There is nothing to take off.
    rw [heq]
    split
    · next ha =>
      cases hslot : b.pools.slot? a with
      | none => rfl
      | some slot =>
        have hload : slot.load = 0 := hzero slot (ha ▸ hslot)
        rw [Option.map_some, hload, Nat.zero_sub, ← hload]
    · rfl
  · rw [hr.after]
    split
    · next ha => rw [ha, hr.before, Option.map_some]
    · rfl

end

end Broker

/-! ## Notices over a run -/

namespace History

/-- A host ends the session of a client. -/
def ends (s : History) : Event → Bool
  | .notify cid .remove addr => (s.broker.notify cid .remove addr).1
  | _ => false

section
variable {setup : Setup} {s s' : History} {e : Event} {o : Option Outcome}

/-- No step makes more sessions than matches are answered, those taken off that it ends. -/
theorem Change.size_le (h : s.Sound) (hc : Change setup s e o s') :
    (s.ends e).toNat + s'.broker.sessions.size ≤
      s.broker.sessions.size + (isAnswered o).toNat := by
  have hrebinds := hc.rebinds
  generalize s'.broker.sessions = sessions at hrebinds
  cases hrebinds with
  | kept unanswered unnoticed unmoved =>
    have hends : s.ends e = false := by
      cases e with
      | notify cid action addr => exact absurd rfl (unnoticed cid action addr)
      | _ => rfl
    rw [hends, Bool.toNat_false]
    omega
  | answered answer goesOn waits =>
    have hends : s.ends e = false := by
      cases e with
      | notify => cases goesOn
      | _ => rfl
    have hsize := Sessions.size_bind_le s.broker.sessions
    rw [hends, Bool.toNat_false, Nat.zero_add]
    exact hsize _ _ _
  | noticed cid action addr =>
    cases action with
    | add =>
      have hsize := Sessions.size_rebind s.broker.sessions cid addr
      exact (Nat.zero_add _).trans_le (hsize.le.trans (Nat.le_add_right _ _))
    | remove =>
      have hsize := Sessions.size_unbind s.broker.sessions cid addr
      have hends : s.ends (.notify cid .remove addr) = (s.broker.sessions.unbind cid addr).1 := by
        rw [ends, Broker.notify_remove]
      rw [hends, Nat.add_comm]
      exact hsize.le.trans (Nat.le_add_right _ _)
  | rescaled retiring incoming =>
    rw [Broker.size_relocate h.order.agrees.sorted h.order.exact]
    exact (Nat.zero_add _).trans_le (Nat.le_add_right _ _)

end

/-- After every run, the sessions that are left and those that hosts have ended are no more than
the matches that were answered. -/
theorem ended_add_size_le (setup : Setup) (events : List Event) :
    (trace setup events).countP (fun x => x.1.ends x.2) +
      (run setup events).broker.sessions.size ≤
      (trace setup events).countP fun x => isAnswered (x.1.step setup x.2).1 := by
  induction events using List.reverseRecOn with
  | nil => exact Nat.le_refl 0
  | append_singleton events e ih =>
    have hstep := (step_change setup (run setup events) e).size_le (run_sound setup events)
    have hone (b : Bool) : (if b = true then 1 else 0) = b.toNat := by cases b <;> rfl
    simp only [trace_append, List.countP_append, List.countP_singleton, run_append, hone]
    omega

/-- **Stale, repeated and foreign notices are harmless.** A removal applies exactly if the client
is bound to the host that sends it; then it ends that session and takes one unit of load off
that host, if the host is pooled and has one, and changes nothing else. An addition applies exactly
if the client has a session, and moves that one session. A notice that does not apply changes
nothing. So over a run hosts end no more sessions than matches were answered, not even with the
sessions that are left. -/
theorem notices_harmless (setup : Setup) (events : List Event) :
    let b := (run setup events).broker
    (∀ cid addr, let notified := b.notify cid .remove addr
      (notified.1 = true ↔ b.sessionHost? cid = some addr) ∧
      (notified.1 = true → b.Resessioned cid none notified.2 ∧
        ∀ a, notified.2.pools.slot? a =
          if a = addr then (b.pools.slot? a).map fun slot => { slot with load := slot.load - 1 }
          else b.pools.slot? a)) ∧
    (∀ cid addr, let notified := b.notify cid .add addr
      (notified.1 = true ↔ (b.sessions.get? cid).isSome) ∧ notified.2.pools = b.pools ∧
      b.Resessioned cid ((b.sessions.get? cid).map fun session => { session with host := addr })
        notified.2) ∧
    (∀ cid action addr, (b.notify cid action addr).1 = false →
      (b.notify cid action addr).2 = b) ∧
    (trace setup events).countP (fun x => x.1.ends x.2) + b.sessions.size ≤
      (trace setup events).countP fun x => isAnswered (x.1.step setup x.2).1 := by
  intro b
  have h := (run_sound setup events).order
  refine ⟨?_, ?_, fun cid action addr => Broker.eq_of_not_notified,
    ended_add_size_le setup events⟩
  · intro cid addr notified
    refine ⟨Broker.notify_remove_iff, fun applied => ?_⟩
    exact ⟨Broker.resessioned_remove h.exact applied,
      Broker.slot?_of_removed h.agrees.sorted applied⟩
  · intro cid addr notified
    have hpools : notified.2.pools = b.pools := by
      simp only [notified, Broker.notify_add]
    exact ⟨Broker.notify_add_iff, hpools, Broker.resessioned_add h.exact cid addr⟩

end History

end RelayBroker
