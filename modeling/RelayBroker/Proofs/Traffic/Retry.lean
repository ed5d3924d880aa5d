/-
  RelayBroker.Proofs.Traffic.Retry

  A rescale that left sessions behind can be tried again. The first call may have stopped
  anywhere in its loop; what matters to the second one is only that the sessions it finds
  under the retiring hosts are those that are bound there, and that they are in no
  migration of the first call (`Track.stays_behind`).

  As soon as an unrestricted proxy is pooled that does not retire, no client is refused
  (`ServesAll`), so the loop of the second call comes to its end
  (`clearHosts_complete`); and a loop that came to its end has left no session under a
  retiring host (`clearHosts_free`), because none is moved to one.
-/

import RelayBroker.Proofs.Traffic.Settlement

namespace RelayBroker

/-- A proxy is pooled that can carry any client. -/
def Pools.ServesAll (p : Pools) : Prop :=
  ∃ addr proxy, p.proxy? addr = some proxy ∧ proxy.nat = .unrestricted

theorem Pools.ServesAll.borrow {p : Pools} (hall : p.ServesAll) (hs : p.Sorted) (nat : NatClass) :
    ∃ slot, (p.borrow nat).1 = some slot.proxy ∧
      p.Reloads slot (LoadHeap.bump slot.load) (p.borrow nat).2 := by
  rcases borrow_cases hs nat with ⟨-, hnone⟩ | ⟨slot, heq, -, hr⟩
  · obtain ⟨addr, proxy, hp, hnat⟩ := hall
    obtain ⟨load, hslot⟩ := proxy?_eq_some_iff.mp hp
    exact absurd (.inr hnat) (hnone addr _ hslot)
  · exact ⟨slot, heq, hr⟩

theorem Pools.ServesAll.of_proxy? {p p' : Pools} (hall : p.ServesAll)
    (hsame : ∀ addr, p'.proxy? addr = p.proxy? addr) : p'.ServesAll := by
  obtain ⟨addr, proxy, hp, hnat⟩ := hall
  exact ⟨addr, proxy, (hsame addr).trans hp, hnat⟩

/-- A proxy that does not retire goes on serving. -/
theorem Pools.servesAll_removeAll {p : Pools} (hs : p.Sorted) {addr : Address} {proxy : Proxy}
    (hp : p.proxy? addr = some proxy) (hnat : proxy.nat = .unrestricted)
    {retiring : List Address} (stays : addr ∉ retiring) : (p.removeAll retiring).ServesAll := by
  refine ⟨addr, proxy, ?_, hnat⟩
  rw [proxy?, slot?_removeAll hs, if_neg stays]
  exact hp

namespace Relocation

section
variable {retiring : List Address} {r₀ r : Relocation} {cid : String}

/-- A session that is bound to a retiring host was not moved. -/
theorem Track.stays_behind (h : Track retiring r₀ r cid) (hr : Ready retiring r)
    {session : Session} (hs : r.sessions.get? cid = some session)
    (retires : session.host ∈ retiring) : r.movesOf cid = [] := by
  cases h with
  | stayed same none => exact none
  | moved old target before _ after pooled serves once =>
    -- It was moved to a pooled proxy, and no retiring host is pooled.
    rw [after, Option.some.injEq] at hs
    subst hs
    exact absurd retires (hr.not_mem pooled)

/-- No session comes to a retiring host. -/
theorem Moves.stays_behind (hr : Ready retiring r₀) (hm : Moves retiring r₀ r)
    {session : Session} (hs : r.sessions.get? cid = some session)
    (retires : session.host ∈ retiring) : r₀.sessions.get? cid = some session := by
  induction hm with
  | refl => exact hs
  | tail hmoves hstep ih =>
    have hready := hr.moves hmoves
    obtain ⟨moved, slot, pools, bound, -, -, reloads⟩ := hstep
    rw [Sessions.get?_rebind bound] at hs
    split at hs
    · rw [Option.some.injEq] at hs
      subst hs
      exact absurd retires (hready.not_mem reloads.proxy?_before)
    · exact ih hs

/-! ## The end of the loop -/

theorem moveSessions_complete (host : Address) (sessions : List Session)
    (hs : r.pools.Sorted) (hall : r.pools.ServesAll) : (moveSessions host sessions r).2 = 0 := by
  induction sessions generalizing r with
  | nil => rfl
  | cons session rest ih =>
    obtain ⟨slot, heq, hr⟩ := hall.borrow hs session.nat
    have hborrow : r.pools.borrow session.nat = (some slot.proxy, (r.pools.borrow session.nat).2) :=
      Prod.ext heq rfl
    rw [moveSessions, hborrow]
    exact ih hr.sorted (hall.of_proxy? hr.proxy?)

theorem clearHosts_complete (hosts : List Address) (hsub : ∀ host ∈ hosts, host ∈ retiring)
    (hr : Ready retiring r) (hall : r.pools.ServesAll) : (clearHosts hosts r).2 = 0 := by
  induction hosts generalizing r with
  | nil => rfl
  | cons host hosts ih =>
    have hhost := hsub host List.mem_cons_self
    have h0 := moveSessions_complete host (r.sessions.ofHost host) hr.sorted hall
    obtain ⟨hmoves, -⟩ := moveSessions_ofHost hhost hr
    have hdrop := dropHost_after hhost hr h0
    have hsame : moveSessions host (r.sessions.ofHost host) r = (_, 0) := Prod.ext rfl h0
    rw [clearHosts, hsame]
    simp only [hdrop]
    exact ih (fun h hh => hsub h (List.mem_cons_of_mem _ hh)) (hr.moves hmoves)
      (hall.of_proxy? hmoves.proxy?)

/-- A loop that came to its end has left no session under a host that it cleared. -/
theorem clearHosts_free (hosts : List Address) (hsub : ∀ host ∈ hosts, host ∈ retiring)
    (hr : Ready retiring r) (h0 : (clearHosts hosts r).2 = 0) {session : Session}
    (hs : (clearHosts hosts r).1.sessions.get? cid = some session) : session.host ∉ hosts := by
  induction hosts generalizing r with
  | nil => exact List.not_mem_nil
  | cons host hosts ih =>
    have hhost := hsub host List.mem_cons_self
    have hrest : ∀ h ∈ hosts, h ∈ retiring := fun h hh => hsub h (List.mem_cons_of_mem _ hh)
    obtain ⟨hmoves, hfree⟩ := moveSessions_ofHost hhost hr
    have hdrop := dropHost_after hhost hr
    rw [clearHosts] at h0 hs
    split at hs
    · next r' heq =>
      rw [heq] at hmoves hfree hdrop
      simp only [heq, hdrop rfl] at h0 hs
      have hr' := hr.moves hmoves
      rw [List.mem_cons, not_or]
      refine ⟨fun hback => ?_, ih hrest hr' h0 hs⟩
      -- The host was cleared, and the moves after that bring nobody back.
      have hlater := clearHosts_moves hosts hrest hr'
      have hbefore := hlater.stays_behind hr' hs (hback ▸ hhost)
      exact hfree rfl cid session hbefore hback
    · next r' left hleft heq =>
      simp only [heq] at h0
      exact absurd h0 hleft

end

end Relocation

/-- The migrations are those of the sessions that retiring hosts had before, each of them
once, and afterwards no session is bound to a retiring host. -/
structure Sessions.Cleared (retiring : List Address) (before after : Sessions)
    (migrations : List Migration) : Prop where
  moved : ∀ cid old, before.get? cid = some old → old.host ∈ retiring →
    ∃ target, migrations.filter (fun m => m.cid = cid) = [⟨cid, old.host, target⟩] ∧
      after.get? cid = some { old with host := target }
  only : ∀ m ∈ migrations, m.source ∈ retiring ∧
    ∃ old, before.get? m.cid = some old ∧ old.host = m.source
  free : ∀ cid session, after.get? cid = some session → session.host ∉ retiring

namespace Broker

/-- What the loop of a rescale arrives at. -/
def relocated (b : Broker) (retiring : List Address) : Relocation :=
  (Relocation.clearHosts retiring (Relocation.start b retiring)).1

theorem relocate_migrations (b : Broker) (retiring : List Address) :
    (b.relocate retiring).1 = (b.relocated retiring).migrations := by
  rw [relocate_eq]
  rfl

theorem relocate_sessions (b : Broker) (retiring : List Address) :
    (b.relocate retiring).2.2.sessions = (b.relocated retiring).sessions := by
  rw [relocate_eq]
  rfl

section
variable {b : Broker} {retiring : List Address}

theorem ready_relocated (hs : b.pools.Sorted) (he : b.sessions.Exact) (retiring : List Address) :
    Relocation.Ready retiring (b.relocated retiring) :=
  (Relocation.ready_start hs he retiring).moves (Relocation.start_moves hs he retiring)

theorem track_relocated (hs : b.pools.Sorted) (he : b.sessions.Exact) (retiring : List Address)
    (cid : String) : Relocation.Track retiring (Relocation.start b retiring)
      (b.relocated retiring) cid :=
  Relocation.Track.moves (Relocation.ready_start hs he retiring)
    (Relocation.start_moves hs he retiring) (.stayed rfl rfl)

/-- A migration is the only one of its client, and took it from the host that it had to the
one that it has then. -/
theorem moved_of_mem (hs : b.pools.Sorted) (he : b.sessions.Exact) {m : Migration}
    (hm : m ∈ (b.relocate retiring).1) :
    (b.relocate retiring).1.filter (fun x => x.cid = m.cid) = [m] ∧ m.source ∈ retiring ∧
      ∃ old, b.sessions.get? m.cid = some old ∧ old.host = m.source ∧
        (b.relocate retiring).2.2.sessions.get? m.cid = some { old with host := m.target } := by
  rw [relocate_migrations] at hm ⊢
  rw [relocate_sessions]
  have hin : m ∈ (b.relocated retiring).movesOf m.cid :=
    List.mem_filter.mpr ⟨hm, decide_eq_true rfl⟩
  cases track_relocated hs he retiring m.cid with
  | stayed same none =>
    rw [none] at hin
    exact absurd hin List.not_mem_nil
  | moved old target before retires after pooled serves once =>
    rw [once, List.mem_singleton] at hin
    have hsource : old.host = m.source := by rw [hin]
    have htarget : target.addr = m.target := by rw [hin]
    rw [← hin] at once
    exact ⟨once, hsource ▸ retires, old, before, hsource, htarget ▸ after⟩

/-- With a proxy that can carry any client, a rescale leaves nobody behind. -/
theorem relocate_complete (hs : b.pools.Sorted) (he : b.sessions.Exact)
    (hall : (b.pools.removeAll retiring).ServesAll) :
    (b.relocate retiring).2.1 = 0 ∧
      Sessions.Cleared retiring b.sessions (b.relocate retiring).2.2.sessions
        (b.relocate retiring).1 := by
  have hstart := Relocation.ready_start hs he retiring
  have h0 := Relocation.clearHosts_complete retiring (fun _ h => h) hstart hall
  have hfree : ∀ cid session, (b.relocated retiring).sessions.get? cid = some session →
      session.host ∉ retiring :=
    fun _ _ => Relocation.clearHosts_free retiring (fun _ h => h) hstart h0
  have hstranded : (b.relocate retiring).2.1 = 0 := by
    rw [relocate_eq]
    exact h0
  refine ⟨hstranded, ?_⟩
  rw [relocate_migrations, relocate_sessions]
  constructor
  · intro cid old hold retires
    cases track_relocated hs he retiring cid with
    | stayed same none => exact absurd retires (hfree cid old (same.trans hold))
    | moved old' target before _ after pooled serves once =>
      obtain rfl : old = old' := Option.some.inj (hold.symm.trans before)
      exact ⟨target.addr, once, after⟩
  · intro m hm
    rw [← relocate_migrations] at hm
    obtain ⟨-, retires, old, before, hhost, -⟩ := moved_of_mem hs he hm
    exact ⟨retires, old, before, hhost⟩
  · exact hfree

/-- A session that a rescale has moved is not bound to a retiring host. -/
theorem not_mem_of_relocated (hs : b.pools.Sorted) (he : b.sessions.Exact) {cid : String}
    {session : Session} (hbound : (b.relocate retiring).2.2.sessions.get? cid = some session)
    (retires : session.host ∈ retiring) : ∀ m ∈ (b.relocate retiring).1, m.cid ≠ cid := by
  intro m hm hcid
  rw [relocate_sessions] at hbound
  rw [relocate_migrations] at hm
  have hnone := (track_relocated hs he retiring cid).stays_behind (ready_relocated hs he retiring)
    hbound retires
  have hin : m ∈ (b.relocated retiring).movesOf cid :=
    List.mem_filter.mpr ⟨hm, decide_eq_true hcid⟩
  rw [hnone] at hin
  exact absurd hin List.not_mem_nil

end

end Broker

namespace History

/-- With a proxy that can carry any client, a rescale answers with a report once its
instructions are settled, and has left nobody behind. -/
theorem rescale_complete (setup : Setup) {s : History} (h : s.Sound) {retiring : List Address}
    (hall : (s.broker.pools.removeAll retiring).ServesAll) (incoming : List Address)
    {fates : List (Nat × Bool)}
    (settled : ∀ i < (s.broker.relocate retiring).1.length, i ∈ fates.map Prod.fst) :
    ∃ report, (s.rescale setup retiring incoming fates).1 = some (.rescaled (.ok report)) ∧
      Sessions.Cleared retiring s.broker.sessions
        (s.rescale setup retiring incoming fates).2.broker.sessions report.migrations := by
  obtain ⟨hstranded, hcleared⟩ :=
    Broker.relocate_complete h.order.agrees.sorted h.order.exact hall
  obtain ⟨o, ho⟩ := rescale_ends setup retiring incoming fates h settled
  obtain ⟨failed, hreport⟩ := rescale_reports setup retiring incoming fates h ho
  rw [hstranded, if_neg (Nat.lt_irrefl 0)] at hreport
  refine ⟨_, ho.trans (congrArg some hreport), ?_⟩
  rw [(rescale_stores setup retiring incoming fates s).sessions]
  exact hcleared

/-- **A rescale that left sessions behind can be tried again to its end.** If an
unrestricted proxy polls from a host that does not retire, and the same rescale is called
again, then it answers with a report once its instructions are settled. It moves the
sessions that the first call has left under retiring hosts, and none that the first call
has moved; and afterwards no session is bound to a retiring host. -/
theorem rescale_completed_by_retry (setup : Setup) (events : List Event)
    (retiring incoming : List Address) (fates again : List (Nat × Bool))
    (poll : Broker.Announcement) (migrated stranded : Nat) :
    let moved := ((run setup events).broker.relocate retiring).1
    let first := (run setup events).rescale setup retiring incoming fates
    let polled := (first.2.step setup (.register poll)).2
    let second := polled.rescale setup retiring incoming again
    first.1 = some (.rescaled (.error (.partialMigration migrated stranded))) →
    poll.nat = .unrestricted → poll.addr ∉ retiring →
    (∀ i < (polled.broker.relocate retiring).1.length, i ∈ again.map Prod.fst) →
    ∃ report, second.1 = some (.rescaled (.ok report)) ∧
      Sessions.Cleared retiring first.2.broker.sessions second.2.broker.sessions
        report.migrations ∧
      moved.length = migrated ∧ ∀ m ∈ moved, ∀ m' ∈ report.migrations, m.cid ≠ m'.cid := by
  intro moved first polled second left unrestricted stays settled
  have hsound := run_sound setup events
  have hfirst : first.2.Sound := rescale_sound setup retiring incoming fates hsound
  have hpolled : polled.Sound := hfirst.change (step_change setup first.2 (.register poll))
  -- The poll puts its proxy into the pools, and leaves the sessions as they are.
  have hpooled : polled.broker.pools.proxy? poll.addr = some (first.2.broker.register poll).1 := by
    have hslot := slot?_register hfirst.order.agrees.sorted poll poll.addr
    rw [if_pos rfl] at hslot
    exact Pools.proxy?_eq_some_iff.mpr ⟨_, hslot⟩
  have hall := Pools.servesAll_removeAll hpolled.order.agrees.sorted hpooled unrestricted stays
  obtain ⟨report, hreport, hcleared⟩ := rescale_complete setup hpolled hall incoming settled
  refine ⟨report, hreport, hcleared, ?_, ?_⟩
  · obtain ⟨failed, hleft⟩ := rescale_reports setup retiring incoming fates hsound left
    rw [Outcome.rescaled.injEq] at hleft
    split at hleft
    · cases hleft
      rfl
    · cases hleft
  · -- What the second call moved was bound to a retiring host when the first one came back.
    intro m hm m' hm' hcid
    obtain ⟨hsource, old, hold, hhost⟩ := hcleared.only m' hm'
    have hbound : ((run setup events).broker.relocate retiring).2.2.sessions.get? m'.cid =
        some old := by
      rw [← (rescale_stores setup retiring incoming fates (run setup events)).sessions]
      exact hold
    exact Broker.not_mem_of_relocated hsound.order.agrees.sorted hsound.order.exact hbound
      (hhost ▸ hsource) m hm hcid

/-- A host carries a client that any proxy can serve, and one that needs an unrestricted
proxy. The only other host is restricted. -/
def twoOnOneHost : List Event :=
  let request (cid : String) (nat : NatClass) : Event :=
    .startMatch ⟨cid, nat, "", "a=candidate:1"⟩
  [.register ⟨"old", "standalone", .unrestricted, .v4 10 0 0 1, 0, true⟩,
    request "easy" .unrestricted, .reply 0 (.ok "ANSWER"),
    request "hard" .restricted, .reply 1 (.ok "ANSWER"),
    .register ⟨"spare", "standalone", .restricted, .v4 10 0 0 2, 0, true⟩]

/-- The first call moves the one client, and the second call the other one. -/
theorem second_client_moved_by_retry :
    let setup : Setup := ⟨Settings.standard, Catalog.builtin⟩
    let host : Address := .v4 10 0 0 1
    let poll : Broker.Announcement :=
      ⟨"new", "standalone", .unrestricted, .v4 10 0 0 3, 0, true⟩
    let first := (run setup twoOnOneHost).rescale setup [host] [] [(0, true)]
    let polled := (first.2.step setup (.register poll)).2
    let second := polled.rescale setup [host] [] [(0, false)]
    first.1 = some (.rescaled (.error (.partialMigration 1 1))) ∧
      poll.nat = .unrestricted ∧ poll.addr ∉ [host] ∧
      (∀ i < (polled.broker.relocate [host]).1.length, i ∈ [(0, false)].map Prod.fst) ∧
      second.1 = some (.rescaled (.ok ⟨1, [⟨"hard", host, .v4 10 0 0 3⟩], 1⟩)) ∧
      Sessions.Cleared [host] first.2.broker.sessions second.2.broker.sessions
        [⟨"hard", host, .v4 10 0 0 3⟩] := by
  intro setup host poll first polled second
  have left : first.1 = some (.rescaled (.error (.partialMigration 1 1))) := by decide +kernel
  have stays : poll.addr ∉ [host] := by decide
  have settled : ∀ i < (polled.broker.relocate [host]).1.length,
      i ∈ [(0, false)].map Prod.fst := by decide +kernel
  have hout : second.1 = some (.rescaled (.ok ⟨1, [⟨"hard", host, .v4 10 0 0 3⟩], 1⟩)) := by
    decide +kernel
  have hretry := rescale_completed_by_retry setup twoOnOneHost [host] []
    [(0, true)] [(0, false)] poll 1 1
  -- Left to itself, the unifier would compute the runs.
  with_reducible
    obtain ⟨report, hreport, hcleared, -⟩ := hretry left rfl stays settled
  refine ⟨left, rfl, stays, settled, hout, ?_⟩
  -- The report of the second call is the one that was computed.
  have hsame : (⟨1, [⟨"hard", host, .v4 10 0 0 3⟩], 1⟩ : RescaleReport) = report := by
    have heq := hout.symm.trans hreport
    rw [Option.some.injEq, Outcome.rescaled.injEq, Except.ok.injEq] at heq
    exact heq
  rw [← hsame] at hcleared
  with_reducible exact hcleared

end History

end RelayBroker
