/-
  RelayBroker.Proofs.Traffic.Stranded

  What a rescale that fails says about the sessions that it left behind. The sessions that
  were due are those that were moved and those that are still bound to retiring hosts
  (`mem_movable`, `mem_unmoved`), so the number of moves is right. The number of sessions
  left behind is that of one host: the loop counts under the host where it ends, and does
  not look at the hosts after it.

  Main statement: `partial_migration_counts_one_host`.
-/

import Mathlib.Data.List.Perm.Basic
import RelayBroker.Proofs.Broker.Balance
import RelayBroker.Proofs.Traffic.Placement

namespace RelayBroker

/-- There are as many values of a kind as a list has that holds them all, each once. -/
theorem Table.count_eq_length {κ α : Type} [DecidableEq κ] {t : Table κ α} {kind : α → Bool}
    {key : α → κ} (hkey : ∀ {k v}, t.get? k = some v → key v = k) {l : List α}
    (hnd : (l.map key).Nodup) (hmem : ∀ v, v ∈ l ↔ t.get? (key v) = some v ∧ kind v) :
    t.count kind = l.length := by
  have hkeys : ((t.entries.filter fun e => kind e.2).map Prod.snd).map key =
      (t.entries.filter fun e => kind e.2).map Prod.fst := by
    rw [List.map_map]
    apply List.map_congr_left
    intro e he
    exact hkey (mem_entries.mp (List.mem_filter.mp he).1)
  have hnd' : ((t.entries.filter fun e => kind e.2).map Prod.snd).Nodup := by
    refine List.Nodup.of_map key ?_
    rw [hkeys]
    exact (List.filter_sublist.map Prod.fst).nodup t.nodup
  rw [count, List.countP_eq_length_filter, ← List.length_map (f := Prod.snd)]
  refine ((List.perm_ext_iff_of_nodup hnd' hnd.of_map).mpr fun v => ?_).length_eq
  rw [List.mem_map, hmem]
  constructor
  · rintro ⟨e, he, rfl⟩
    rw [List.mem_filter] at he
    have hget := mem_entries.mp he.1
    exact ⟨hkey hget ▸ hget, he.2⟩
  · rintro ⟨hget, hkind⟩
    exact ⟨(key v, v), List.mem_filter.mpr ⟨mem_entries.mpr hget, hkind⟩, rfl⟩

/-- How many sessions are bound to hosts of a list. -/
def Sessions.boundTo (s : Sessions) (hosts : List Address) : Nat :=
  s.byClient.count fun session => session.host ∈ hosts

namespace Broker

section
variable {b : Broker} {retiring : List Address} {session : Session}

/-! ## Who is moved, and who is left -/

/-- The sessions that are moved are those that have changed. -/
theorem mem_movable (hs : b.pools.Sorted) (he : b.sessions.Exact) :
    session ∈ b.movable retiring ↔ b.sessions.get? session.cid = some session ∧
      (b.relocated retiring).sessions.get? session.cid ≠ some session := by
  constructor
  · intro hin
    obtain ⟨hget, retires⟩ := (mem_due he).mp ((List.takeWhile_sublist _).subset hin)
    obtain ⟨proxy, hproxy, -, hafter⟩ := placed_of_movable hs he hin
    refine ⟨hget, fun hsame => ?_⟩
    -- The host of the session retires, and that of the proxy does not.
    have hhost : proxy.addr = session.host :=
      congrArg Session.host (Option.some.inj (hafter.symm.trans hsame))
    have hstays : proxy.addr ∉ retiring := by simpa using (List.mem_filter.mp hproxy).2
    exact hstays (hhost ▸ retires)
  · rintro ⟨hget, hchanged⟩
    by_contra hnot
    refine hchanged ((stays_of_not_movable hs he fun hcid => hnot ?_).trans hget)
    obtain ⟨other, hin, hsame⟩ := List.mem_map.mp hcid
    have hother := ((mem_due he).mp ((List.takeWhile_sublist _).subset hin)).1
    rw [hsame, hget, Option.some.injEq] at hother
    exact hother ▸ hin

/-- The sessions that are left are those that are still bound to a retiring host. -/
theorem mem_unmoved (hs : b.pools.Sorted) (he : b.sessions.Exact) :
    session ∈ b.unmoved retiring ↔
      (b.relocated retiring).sessions.get? session.cid = some session ∧
        session.host ∈ retiring := by
  have hnd : ((b.due retiring).map (·.cid)).Nodup := nodup_due he
  rw [← movable_append_unmoved, List.map_append, List.nodup_append] at hnd
  constructor
  · intro hin
    obtain ⟨hget, retires⟩ := (mem_due he).mp ((List.dropWhile_sublist _).subset hin)
    refine ⟨(stays_of_not_movable hs he fun hcid => ?_).trans hget, retires⟩
    exact hnd.2.2 _ hcid _ (List.mem_map_of_mem hin) rfl
  · rintro ⟨hafter, retires⟩
    -- No session comes to a retiring host, so this one was there before.
    have hbefore : b.sessions.get? session.cid = some session :=
      (Relocation.start_moves hs he retiring).stays_behind
        (Relocation.ready_start hs he retiring) hafter retires
    have hdue := (mem_due he).mpr ⟨hbefore, retires⟩
    rw [← movable_append_unmoved, List.mem_append] at hdue
    exact hdue.resolve_left fun hin => ((mem_movable hs he).mp hin).2 hafter

/-! ## How many they are -/

theorem boundTo_before (he : b.sessions.Exact) (retiring : List Address) :
    b.sessions.boundTo retiring = (b.due retiring).length :=
  Table.count_eq_length he.named (nodup_due he) fun _ => by
    rw [decide_eq_true_eq]
    exact mem_due he

theorem nodup_unmoved (he : b.sessions.Exact) : ((b.unmoved retiring).map (·.cid)).Nodup :=
  ((List.dropWhile_sublist _).map _).nodup (nodup_due he)

theorem boundTo_after (hs : b.pools.Sorted) (he : b.sessions.Exact) (retiring : List Address) :
    (b.relocated retiring).sessions.boundTo retiring = (b.unmoved retiring).length :=
  Table.count_eq_length (ready_relocated hs he retiring).exact.named (nodup_unmoved he) fun _ => by
    rw [decide_eq_true_eq]
    exact mem_unmoved hs he

/-- The sessions that are left at one of the retiring hosts. -/
theorem carried_after (hs : b.pools.Sorted) (he : b.sessions.Exact) {host : Address}
    (hhost : host ∈ retiring) : (b.relocated retiring).sessions.carried host =
      (b.unmoved retiring).countP fun session => session.host = host := by
  rw [List.countP_eq_length_filter]
  refine Table.count_eq_length (ready_relocated hs he retiring).exact.named
    ((List.filter_sublist.map _).nodup (nodup_unmoved he)) ?_
  intro session
  rw [List.mem_filter, mem_unmoved hs he, decide_eq_true_eq, and_assoc]
  refine and_congr_right fun _ => and_iff_right_of_imp ?_
  rintro rfl
  exact hhost

/-- As many sessions have changed as there are migrations. -/
theorem changed_eq_length (hs : b.pools.Sorted) (he : b.sessions.Exact) (retiring : List Address) :
    b.sessions.byClient.count (fun session =>
      (b.relocated retiring).sessions.get? session.cid ≠ some session) =
        (b.relocated retiring).migrations.length := by
  have hmoved := congrArg List.length (relocated_until hs he retiring).1
  rw [List.length_map, List.length_map] at hmoved
  rw [hmoved]
  refine Table.count_eq_length he.named
    (((List.takeWhile_sublist _).map _).nodup (nodup_due he)) fun _ => ?_
  rw [decide_eq_true_eq]
  exact mem_movable hs he

/-- What was moved and what is left is what was bound to retiring hosts. -/
theorem migrations_add_boundTo (hs : b.pools.Sorted) (he : b.sessions.Exact)
    (retiring : List Address) :
    (b.relocated retiring).migrations.length +
      (b.relocated retiring).sessions.boundTo retiring = b.sessions.boundTo retiring := by
  have hmoved := congrArg List.length (relocated_until hs he retiring).1
  rw [List.length_map, List.length_map] at hmoved
  rw [hmoved, boundTo_after hs he, boundTo_before he, ← List.length_append,
    movable_append_unmoved]

/-- If sessions are left, then those of the host of the first one are counted, and no
others. -/
theorem stranded_on_one_host (hs : b.pools.Sorted) (he : b.sessions.Exact)
    (hleft : 0 < (b.relocate retiring).2.1) :
    ∃ first, (b.due retiring).find? (¬ b.Placeable retiring ·) = some first ∧
      (b.relocate retiring).2.1 = (b.relocated retiring).sessions.carried first.host ∧
      ((b.relocate retiring).2.1 = (b.relocated retiring).sessions.boundTo retiring ↔
        ∀ cid session, (b.relocated retiring).sessions.get? cid = some session →
          session.host ∈ retiring → session.host = first.host) := by
  rw [(relocated_until hs he retiring).2] at hleft ⊢
  obtain ⟨first, rest, hunmoved⟩ : ∃ first rest, b.unmoved retiring = first :: rest := by
    apply List.exists_cons_of_ne_nil
    intro hnil
    rw [Session.withFirst_eq_zero_iff.mpr hnil] at hleft
    omega
  have hfirst : first.host ∈ retiring :=
    ((mem_unmoved hs he).mp (hunmoved ▸ List.mem_cons_self)).2
  have hcarried : Session.withFirst (b.unmoved retiring) =
      (b.relocated retiring).sessions.carried first.host := by
    rw [carried_after hs he hfirst, hunmoved]
    rfl
  refine ⟨first, ?_, hcarried, ?_⟩
  · have hfind := List.find?_not_eq_head?_dropWhile (b.Placeable retiring ·) (b.due retiring)
    rw [show List.dropWhile _ _ = _ from hunmoved, List.head?_cons] at hfind
    simpa only [decide_not] using hfind
  · rw [hcarried, carried_after hs he hfirst, boundTo_after hs he, List.countP_eq_length]
    simp only [decide_eq_true_eq, mem_unmoved hs he]
    constructor
    · intro hone cid session hget retires
      have hcid := (ready_relocated hs he retiring).exact.named hget
      exact hone session ⟨hcid ▸ hget, retires⟩
    · rintro hone session ⟨hget, retires⟩
      exact hone session.cid session hget retires

end

end Broker

namespace History

/-- **A rescale that fails counts the sessions left at one host.** The number of sessions
that it moved is right: with those that are still bound to retiring hosts they are all that
were due. But the number of sessions left behind is that of the host of the first session
that could not be placed. It is the number of all sessions left behind if and only if there
are none at the other retiring hosts. -/
theorem partial_migration_counts_one_host (setup : Setup) (events : List Event)
    (retiring incoming : List Address) (later : List Event) (migrated stranded : Nat) :
    let s := run setup events
    let before := s.broker.sessions
    let after := (s.traffic.startRescale retiring incoming).2.broker.sessions
    s.rescaleOutcome setup retiring incoming later =
      some (.rescaled (.error (.partialMigration migrated stranded))) →
    migrated = before.byClient.count (fun session => after.get? session.cid ≠ some session) ∧
    migrated + after.boundTo retiring = before.boundTo retiring ∧
    ∃ first, (s.broker.due retiring).find? (¬ s.broker.Placeable retiring ·) = some first ∧
      0 < stranded ∧ stranded = after.carried first.host ∧
      ((stranded = after.boundTo retiring ∧ migrated + stranded = before.boundTo retiring) ↔
        ∀ cid session, after.get? cid = some session → session.host ∈ retiring →
          session.host = first.host) := by
  intro s before after hfailed
  have hsound := run_sound setup events
  have hs := hsound.order.agrees.sorted
  have he := hsound.order.exact
  have hafter : after = (s.broker.relocated retiring).sessions :=
    (s.traffic.startRescale_relocates retiring incoming).1
  -- What the call answers is what its loop has counted.
  obtain ⟨failed, hreport⟩ := rescaleOutcome_reports hsound hfailed
  rw [Outcome.rescaled.injEq] at hreport
  split at hreport
  · next hpos =>
    cases hreport
    have hsum := Broker.migrations_add_boundTo hs he retiring
    obtain ⟨first, hfind, hcarried, hall⟩ := Broker.stranded_on_one_host hs he hpos
    rw [hafter, Broker.relocate_migrations]
    refine ⟨(Broker.changed_eq_length hs he retiring).symm, hsum, first, hfind, hpos, hcarried, ?_⟩
    rw [← hall]
    exact and_iff_left_of_imp fun heq => heq ▸ hsum
  · cases hreport

/-- Two hosts carry a client each that needs an unrestricted proxy. -/
def oneOnEachHost : List Event :=
  let poll (sid : String) (last : UInt8) : Event :=
    .register ⟨sid, "standalone", .unrestricted, .v4 10 0 0 last, 0, true⟩
  let request (cid : String) : Event := .startMatch ⟨cid, .restricted, "", "a=candidate:1"⟩
  [poll "a" 1, request "c1", .reply 0 (.ok "ANSWER"),
    poll "b" 2, request "c2", .reply 1 (.ok "ANSWER")]

/-- Both hosts retire, and no other proxy is left: two sessions are left behind, and one of
them is counted. -/
theorem session_of_second_host_not_counted :
    let setup : Setup := ⟨Settings.standard, Catalog.builtin⟩
    let hosts : List Address := [.v4 10 0 0 1, .v4 10 0 0 2]
    let s := run setup oneOnEachHost
    let after := (s.traffic.startRescale hosts []).2.broker.sessions
    s.rescaleOutcome setup hosts [] [] = some (.rescaled (.error (.partialMigration 0 1))) ∧
      0 + after.boundTo hosts = s.broker.sessions.boundTo hosts ∧
      after.boundTo hosts = 2 ∧ after.carried (.v4 10 0 0 1) = 1 ∧
      ¬ (1 = after.boundTo hosts ∧ 0 + 1 = s.broker.sessions.boundTo hosts) := by
  intro setup hosts s after
  have hfailed : s.rescaleOutcome setup hosts [] [] =
      some (.rescaled (.error (.partialMigration 0 1))) := by decide +kernel
  have htwo : after.boundTo hosts = 2 := by decide +kernel
  have hrescale := partial_migration_counts_one_host setup oneOnEachHost hosts [] [] 0 1
  -- Left to itself, the unifier would compute the runs.
  with_reducible
    obtain ⟨-, hsum, first, -⟩ := hrescale hfailed
  have hone : after.carried (.v4 10 0 0 1) = 1 := by decide +kernel
  have hnot : ¬ (1 = after.boundTo hosts ∧ 0 + 1 = s.broker.sessions.boundTo hosts) := by
    rw [htwo]
    exact fun h => absurd h.1 (by decide)
  with_reducible exact ⟨hfailed, hsum, htwo, hone, hnot⟩

end History

end RelayBroker
