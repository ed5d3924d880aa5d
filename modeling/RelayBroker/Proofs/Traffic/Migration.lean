/-
  RelayBroker.Proofs.Traffic.Migration

  What a rescale does to each client. A session either stays where it was and is in no
  migration, or was moved once: off a retiring host, to a pooled proxy that can serve
  the client, and with one migration that says so (`Track`). A session that was moved is
  at no retiring host, so the loop never comes back to it.

  Main statements: a rescale neither loses, duplicates nor misplaces a session
  (`rescale_moves_once`), and while it waits, only its own instructions are a concern of it,
  the last of which ends it with the report of what it has moved (`Change.moving_cases`).
-/

import RelayBroker.Proofs.Traffic.Reachable

namespace RelayBroker

namespace Relocation

/-- The migrations of a client, in order. -/
def movesOf (r : Relocation) (cid : String) : List Migration :=
  r.migrations.filter fun m => m.cid = cid

theorem movesOf_append (pools : Pools) (sessions : Sessions) (ms : List Migration) (m : Migration)
    (cid : String) : movesOf ⟨pools, sessions, ms ++ [m]⟩ cid =
      movesOf ⟨pools, sessions, ms⟩ cid ++ if m.cid = cid then [m] else [] := by
  rw [movesOf, List.filter_append, movesOf]
  by_cases hcid : m.cid = cid <;> simp [hcid]

/-- Where a client stands against the start of the loop: its session stayed, or was moved
once. -/
inductive Track (retiring : List Address) (r₀ r : Relocation) (cid : String) : Prop
  | stayed (same : r.sessions.get? cid = r₀.sessions.get? cid) (none : r.movesOf cid = [])
  | moved (old : Session) (target : Proxy) (before : r₀.sessions.get? cid = some old)
      (retires : old.host ∈ retiring)
      (after : r.sessions.get? cid = some { old with host := target.addr })
      (pooled : r.pools.proxy? target.addr = some target) (serves : target.nat.CanServe old.nat)
      (once : r.movesOf cid = [⟨cid, old.host, target.addr⟩])

section
variable {retiring : List Address} {r₀ r r' : Relocation} {cid : String}

theorem Track.move (h : Track retiring r₀ r cid) (hr : Ready retiring r)
    (hm : Move retiring r r') : Track retiring r₀ r' cid := by
  have hpools := hm.proxy?
  obtain ⟨session, slot, pools, bound, retires, serves, reloads⟩ := hm
  have hafter := Sessions.get?_rebind bound slot.proxy.addr
  -- Either this client is moved, or another one and nothing changes for this one.
  by_cases hcid : session.cid = cid
  · subst hcid
    cases h with
    | stayed same none =>
      refine .moved session slot.proxy (same ▸ bound) retires ?_ ?_ serves ?_
      · rw [hafter, if_pos rfl]
      · rw [hpools, reloads.proxy?_before]
      · rw [movesOf_append, if_pos rfl]
        exact congrArg (· ++ _) none
    -- A second move would take it off a retiring host, but it was put on a pooled one.
    | moved old target before _ after pooled _ _ =>
      -- It would be bound to a retiring host again.
      have hhost : session.host = target.addr := by
        rw [bound, Option.some.injEq] at after
        rw [after]
      exact absurd (hhost ▸ retires) (hr.not_mem pooled)
  · have hmoves : movesOf ⟨pools, (r.sessions.rebind session.cid slot.proxy.addr).2,
        r.migrations ++ [⟨session.cid, session.host, slot.proxy.addr⟩]⟩ cid = r.movesOf cid := by
      rw [movesOf_append, if_neg hcid, List.append_nil]
      rfl
    have hsame : (r.sessions.rebind session.cid slot.proxy.addr).2.get? cid =
        r.sessions.get? cid := by
      rw [hafter, if_neg fun heq => hcid heq.symm]
    cases h with
    | stayed same none => exact .stayed (hsame.trans same) (hmoves.trans none)
    | moved old target before retires' after pooled serves' once =>
      exact .moved old target before retires' (hsame.trans after) ((hpools _).trans pooled) serves'
        (hmoves.trans once)

theorem Track.moves (hr : Ready retiring r₀) (hm : Moves retiring r₀ r)
    (h : Track retiring r₀ r₀ cid) : Track retiring r₀ r cid := by
  induction hm with
  | refl => exact h
  | tail hmoves hstep ih => exact ih.move (hr.moves hmoves) hstep

/-! ## What a track says -/

theorem Track.nat (h : Track retiring r₀ r cid) :
    (r.sessions.get? cid).map (·.nat) = (r₀.sessions.get? cid).map (·.nat) := by
  cases h with
  | stayed same none => rw [same]
  | moved old target before retires after pooled serves once =>
    rw [before, after]
    rfl

theorem Track.stays (h : Track retiring r₀ r cid) {session : Session}
    (hs : r₀.sessions.get? cid = some session) (hhost : session.host ∉ retiring) :
    r.sessions.get? cid = some session := by
  cases h with
  | stayed same none => rw [same, hs]
  | moved old target before retires after pooled serves once =>
    rw [hs, Option.some.injEq] at before
    exact absurd (before ▸ retires) hhost

theorem Track.placed (h : Track retiring r₀ r cid) (hr : Ready retiring r) {old new : Session}
    (hold : r₀.sessions.get? cid = some old) (hnew : r.sessions.get? cid = some new)
    (hne : old.host ≠ new.host) : new.host ∉ retiring ∧
      ∃ target, r.pools.proxy? new.host = some target ∧ target.nat.CanServe new.nat := by
  cases h with
  | stayed same none =>
    rw [same, hold, Option.some.injEq] at hnew
    exact absurd (congrArg Session.host hnew) hne
  | moved old' target before retires after pooled serves once =>
    rw [hold, Option.some.injEq] at before
    subst before
    rw [after, Option.some.injEq] at hnew
    subst hnew
    exact ⟨hr.not_mem pooled, target, pooled, serves⟩

theorem Track.movesOf_eq (h : Track retiring r₀ r cid) (hr : Ready retiring r) :
    r.movesOf cid = match r₀.sessions.get? cid, r.sessions.get? cid with
      | some old, some new =>
        if old.host = new.host then [] else [⟨cid, old.host, new.host⟩]
      | _, _ => [] := by
  cases h with
  | stayed same none =>
    rw [none, same]
    cases r₀.sessions.get? cid with
    | none => rfl
    | some session => exact (if_pos rfl).symm
  | moved old target before retires after pooled serves once =>
    -- The host has retired, its proxy has not, so the move shows in the sessions.
    have hne : old.host ≠ target.addr := fun heq => hr.not_mem pooled (heq ▸ retires)
    rw [once, before, after]
    exact (if_neg hne).symm

end

end Relocation

namespace Traffic

/-- The migrations that a rescale reports, or announces while it waits. -/
def migrationsOf : Progress × Traffic → List Migration
  | (.done (.rescaled (.ok report)), _) => report.migrations
  | (.done _, _) => []
  | (.waiting call, t) =>
    match t.calls.get? call with
    | some (.moving m) => m.migrations
    | _ => []

theorem migrationsOf_wait (t : Traffic) (m : Moving) :
    migrationsOf (t.wait (.moving m)) = m.migrations := by
  simp only [wait, migrationsOf, Table.get?_insert, if_pos]

/-- A rescale that moves nobody reports no migrations, whether or not it leaves somebody
behind. -/
theorem migrationsOf_done (t : Traffic) (b : Broker) (retired stranded : Nat) :
    migrationsOf (.done (.rescaled (b.concludeRescale retired [] stranded 0).1), t) = [] := by
  rw [Broker.concludeRescale]
  split <;> rfl

/-- A rescale that was started has made moves from where its loop starts; without
anything to retire or announce it makes none. -/
theorem startRescale_moves {t : Traffic} (hs : t.broker.pools.Sorted) (he : t.broker.sessions.Exact)
    (retiring incoming : List Address) :
    ∃ r, Relocation.Moves retiring (Relocation.start t.broker retiring) r ∧
      (t.startRescale retiring incoming).2.broker.pools = r.pools ∧
      (t.startRescale retiring incoming).2.broker.sessions = r.sessions ∧
      migrationsOf (t.startRescale retiring incoming) = r.migrations := by
  obtain ⟨r, left, hclear⟩ : ∃ r left,
      Relocation.clearHosts retiring (Relocation.start t.broker retiring) = (r, left) :=
    ⟨_, _, rfl⟩
  have hmoves := Relocation.start_moves hs he retiring
  rw [hclear] at hmoves
  refine ⟨r, hmoves, ?_⟩
  rcases t.startRescale_cases retiring incoming with ⟨rfl, -, heq⟩ |
    ⟨stranded, b, relocated, heq⟩ | ⟨migrations, stranded, b, relocated, -, heq⟩
  · rw [heq]
    cases hclear
    exact ⟨rfl, rfl, rfl⟩
  · simp only [Broker.relocate_eq, hclear, Prod.mk.injEq] at relocated
    obtain ⟨hnone, rfl, rfl⟩ := relocated
    rw [heq, migrationsOf_done, hnone]
    exact ⟨(Broker.sameStores_concludeRescale ..).pools,
      (Broker.sameStores_concludeRescale ..).sessions, rfl⟩
  · simp only [Broker.relocate_eq, hclear, Prod.mk.injEq] at relocated
    obtain ⟨rfl, rfl, rfl⟩ := relocated
    rw [heq, migrationsOf_wait]
    exact ⟨rfl, rfl, rfl⟩

end Traffic

namespace History

/-- A rescale neither loses, duplicates nor misplaces a session, whether or not it
places all of them. Clients and their classes stay; a session at a host that does not
retire stays where it is; a session that was moved is at a pooled proxy that can serve
the client, and at no retiring host; and each move is in the list of migrations, once. -/
theorem rescale_moves_once (setup : Setup) (events : List Event)
    (retiring incoming : List Address) :
    let before := (run setup events).broker
    let rescaled := (run setup events).traffic.startRescale retiring incoming
    let after := rescaled.2.broker
    (∀ cid, (after.sessions.get? cid).map (·.nat) = (before.sessions.get? cid).map (·.nat)) ∧
    (∀ cid session, before.sessions.get? cid = some session → session.host ∉ retiring →
      after.sessions.get? cid = some session) ∧
    (∀ cid old new, before.sessions.get? cid = some old → after.sessions.get? cid = some new →
      old.host ≠ new.host → new.host ∉ retiring ∧
        ∃ slot ∈ after.pools.slots, slot.proxy.addr = new.host ∧ slot.proxy.nat.CanServe new.nat) ∧
    (∀ cid, (Traffic.migrationsOf rescaled).filter (fun m => m.cid = cid) =
      match before.sessions.get? cid, after.sessions.get? cid with
      | some old, some new =>
        if old.host = new.host then [] else [⟨cid, old.host, new.host⟩]
      | _, _ => []) := by
  intro before rescaled after
  have h := (run_sound setup events).order
  obtain ⟨r, hmoves, hpools, hsessions, hmigrations⟩ :=
    Traffic.startRescale_moves h.agrees.sorted h.exact retiring incoming
  have hstart := Relocation.ready_start h.agrees.sorted h.exact retiring
  have hready := hstart.moves hmoves
  have htrack (cid : String) : Relocation.Track retiring (Relocation.start before retiring) r cid :=
    Relocation.Track.moves hstart hmoves (.stayed rfl rfl)
  simp only [rescaled, after, hpools, hsessions, hmigrations]
  refine ⟨fun cid => (htrack cid).nat, fun cid session => (htrack cid).stays, ?_,
    fun cid => (htrack cid).movesOf_eq hready⟩
  intro cid old new hold hnew hne
  obtain ⟨hout, target, hpooled, hserves⟩ := (htrack cid).placed hready hold hnew hne
  obtain ⟨load, hslot⟩ := Pools.proxy?_eq_some_iff.mp hpooled
  have haddr := Pools.slot?_addr hready.sorted hslot
  have hmem : (⟨target, load⟩ : Slot) ∈ r.pools.slots :=
    (Pools.mem_slots_iff hready.sorted).mpr (haddr ▸ hslot)
  exact ⟨hout, ⟨target, load⟩, hmem, haddr, hserves⟩

/-! ## Reports -/

/-- An outcome is the report of a rescale. -/
def Reports (m : Moving) (o : Option Outcome) : Prop :=
  ∃ b failed, o =
    some (.rescaled (Broker.concludeRescale b m.retired m.migrations m.stranded failed).1)

/-- A settled instruction changes nothing of what a rescale has to report. -/
theorem reports_settleOne (m : Moving) (position : Nat) (delivered : Bool) (o : Option Outcome) :
    Reports (settleOne m position delivered) o ↔ Reports m o := Iff.rfl

/-- A change is no concern of a rescale that waits, or settles one of its instructions; the
last one ends it. -/
theorem Change.moving_cases {setup : Setup} {s s' : History} {e : Event} {o : Option Outcome}
    (h : s.Sound) (hc : Change setup s e o s') {n : Nat} {m : Moving}
    (hn : s.call? n = some (.moving m)) :
    (s'.call? n = some (.moving m) ∧ ¬ (e.call? = some n ∧ o.isSome)) ∨
      ∃ position delivered, e = .settle n position delivered ∧ position ∈ m.underWay ∧
        (o = none ∧ s'.call? n = some (.moving (settleOne m position delivered)) ∨
          s'.call? n = none ∧ Reports m o) := by
  -- A call that begins to wait takes a number that is free.
  have hwait (b : Broker) (c : Call) :
      ((s.setBroker b).wait c).call? n = some (.moving m) := by
    have hlt : n < s.traffic.nextCall := by
      by_contra hge
      rw [h.free n (by omega)] at hn
      cases hn
    exact (call?_wait_of_lt hlt c).trans hn
  -- A call of another kind has another number, and its end leaves this one.
  have hother {call : Nat} {c : Call} (waits : s.call? call = some c) (hne : c ≠ .moving m)
      (goesOn : e.call? = some call) (b : Broker) :
      ((s.setBroker b).endCall call).call? n = some (.moving m) ∧
        ¬ (e.call? = some n ∧ o.isSome) := by
    refine ⟨(call?_endCall_of_ne waits hne n).mpr hn, fun ⟨hcall, _⟩ => hne ?_⟩
    obtain rfl : call = n := Option.some.inj (goesOn.symm.trans hcall)
    exact Option.some.inj (waits.symm.trans hn)
  cases hc with
  | idle => exact .inl ⟨hn, by simp⟩
  | unknown | registered | refused | denied | bounced | polledAtOnce | answered | noticed
  | rescaledNothing | rescaled => exact .inl ⟨hn, by simp [Event.call?]⟩
  | pushed | parked | moving => exact .inl ⟨hwait _ _, by simp⟩
  | awaited => exact .inl ⟨hwait s.broker _, by simp⟩
  | polled glances waits => exact .inl (hother waits (by simp) glances.call? _)
  | collected glances waits => exact .inl (hother waits (by simp) glances.call? _)
  | pollExpired waits | replied waits | expired waits =>
    exact .inl (hother waits (by simp) rfl _)
  | @settled call position delivered m₁ waits sent others =>
    rw [call?_setCall]
    by_cases heq : n = call
    · subst heq
      obtain rfl : m₁ = m := by simpa [hn] using waits.symm
      rw [if_pos rfl]
      exact .inr ⟨position, delivered, rfl, sent, .inl ⟨rfl, rfl⟩⟩
    · rw [if_neg heq]
      exact .inl ⟨hn, by simp⟩
  | @settledLast call position delivered m₁ waits sent last =>
    rw [call?_endCall]
    by_cases heq : n = call
    · subst heq
      obtain rfl : m₁ = m := by simpa [hn] using waits.symm
      rw [if_pos rfl]
      exact .inr ⟨position, delivered, rfl, sent, .inr ⟨rfl, _, _, rfl⟩⟩
    · rw [if_neg heq]
      refine .inl ⟨hn, fun ⟨hcall, _⟩ => heq ?_⟩
      exact (Option.some.inj hcall).symm

end History

end RelayBroker
