/-
  RelayBroker.Proofs.Traffic.Placement

  Which sessions a rescale moves. Those of the retiring hosts are `due`, host by host, and
  under one host in the order in which they were bound (`run_ranked`); a session can be
  placed if some proxy that does not retire can serve its client (`Placeable`). Placing a
  session uses up nothing, since the borrowed proxy stays pooled, and it brings nobody to a
  retiring host; so what the loop finds under the later hosts is what was there before
  (`Moves.ofHost_other`), and it moves the sessions that are due one after the other until it
  comes to the first one that cannot be placed (`clearHosts_until`).

  Main statement: `rescale_moves_until_unplaceable`.
-/

import Mathlib.Data.List.Nodup
import Mathlib.Data.List.TakeWhile
import RelayBroker.Proofs.Traffic.Bindings
import RelayBroker.Proofs.Traffic.Retry

namespace RelayBroker

instance (proxy client : NatClass) : Decidable (proxy.CanServe client) :=
  inferInstanceAs (Decidable (_ ∨ _))

/-! ## First occurrences -/

section
variable {α : Type} [DecidableEq α]

theorem eraseDups_filter (p : α → Bool) : ∀ l : List α,
    (l.filter p).eraseDups = l.eraseDups.filter p
  | [] => rfl
  | a :: l => by
    -- An element takes its later occurrences out of the rest, so the rest is shorter only.
    have ih := eraseDups_filter p (l.filter fun b => !b == a)
    rw [List.eraseDups_cons]
    by_cases hp : p a
    · rw [List.filter_cons_of_pos hp, List.eraseDups_cons, List.filter_cons_of_pos hp, ← ih,
        List.filter_filter, List.filter_filter]
      simp only [Bool.and_comm]
    · rw [List.filter_cons_of_neg hp, List.filter_cons_of_neg hp, ← ih, List.filter_filter]
      congr 1
      apply List.filter_congr
      intro b _
      -- What passes the filter is not the element that does not.
      by_cases hb : b = a
      · simp [hb, hp]
      · simp [hb]
termination_by l => l.length
decreasing_by exact Nat.lt_succ_of_le (List.length_filter_le _ _)

theorem nodup_eraseDups (l : List α) : l.eraseDups.Nodup := by
  induction l with
  | nil => exact List.nodup_nil
  | cons a l ih =>
    rw [List.eraseDups_cons, eraseDups_filter, List.nodup_cons]
    exact ⟨by simp, ih.filter _⟩

/-- What comes first in a list, and then what comes of the others. -/
theorem flatMap_eraseDups_cons {β : Type} (f : α → List β) (a : α) (l : List α) :
    (a :: l).eraseDups.flatMap f = f a ++ (l.eraseDups.filter fun b => !b == a).flatMap f := by
  rw [List.eraseDups_cons, List.flatMap_cons, eraseDups_filter]

/-- An element from which nothing comes can be left out. -/
theorem flatMap_filter_ne {β : Type} {f : α → List β} {a : α} (hnone : f a = []) (l : List α) :
    (l.filter fun b => !b == a).flatMap f = l.flatMap f := by
  induction l with
  | nil => rfl
  | cons b l ih =>
    by_cases hb : b = a
    · rw [List.filter_cons_of_neg (by simp [hb]), List.flatMap_cons, hb, hnone, ih,
        List.nil_append]
    · rw [List.filter_cons_of_pos (by simp [hb]), List.flatMap_cons, List.flatMap_cons, ih]

end

/-- What is taken from a list up to an element that fails the test, and what is left, do
not depend on what follows. -/
theorem until_append {α : Type} {p : α → Bool} {l : List α} (hstop : l.dropWhile p ≠ [])
    (l' : List α) : (l ++ l').takeWhile p = l.takeWhile p ∧
      (l ++ l').dropWhile p = l.dropWhile p ++ l' := by
  have hshort : ¬ (l.takeWhile p).length = l.length := by
    have hsplit := congrArg List.length (List.takeWhile_append_dropWhile (p := p) (l := l))
    have hpos := List.length_pos_iff.mpr hstop
    rw [List.length_append] at hsplit
    omega
  have hsome : ¬ (l.dropWhile p).isEmpty := by rwa [List.isEmpty_iff]
  exact ⟨by rw [List.takeWhile_append, if_neg hshort],
    by rw [List.dropWhile_append, if_neg hsome]⟩

/-! ## Who can be served -/

/-- Some pooled proxy can serve a client of the class. -/
def Pools.Serves (p : Pools) (nat : NatClass) : Prop :=
  ∃ addr proxy, p.proxy? addr = some proxy ∧ proxy.nat.CanServe nat

theorem Pools.serves_congr {p p' : Pools} (hsame : ∀ addr, p'.proxy? addr = p.proxy? addr)
    (nat : NatClass) : p'.Serves nat ↔ p.Serves nat := by
  simp only [Serves, hsame]

/-- A client is refused only if no pooled proxy can serve it. -/
theorem Pools.borrow_of_serves {p : Pools} (hs : p.Sorted) {nat : NatClass} (h : p.Serves nat) :
    ∃ slot pools, p.borrow nat = (some slot.proxy, pools) ∧
      p.Reloads slot (LoadHeap.bump slot.load) pools := by
  rcases borrow_cases hs nat with ⟨-, hnone⟩ | ⟨slot, heq, -, hr⟩
  · obtain ⟨addr, proxy, hp, hserves⟩ := h
    obtain ⟨load, hslot⟩ := proxy?_eq_some_iff.mp hp
    exact absurd hserves (hnone addr _ hslot)
  · exact ⟨slot, _, Prod.ext heq rfl, hr⟩

theorem Pools.borrow_of_not_serves {p : Pools} (hs : p.Sorted) {nat : NatClass}
    (h : ¬ p.Serves nat) : p.borrow nat = (none, p) := by
  rcases borrow_cases hs nat with ⟨heq, -⟩ | ⟨slot, -, hserves, hr⟩
  · exact heq
  · exact absurd ⟨_, _, hr.proxy?_before, hserves⟩ h

namespace Broker

/-- The pooled proxies that are at no retiring host. -/
def survivors (b : Broker) (retiring : List Address) : List Proxy :=
  (b.pools.slots.map (·.proxy)).filter fun proxy => proxy.addr ∉ retiring

/-- A proxy that does not retire can serve the client of a session. -/
def Placeable (b : Broker) (retiring : List Address) (session : Session) : Prop :=
  ∃ proxy ∈ b.survivors retiring, proxy.nat.CanServe session.nat

instance (b : Broker) (retiring : List Address) : DecidablePred (b.Placeable retiring) :=
  fun _ => inferInstanceAs (Decidable (∃ proxy ∈ _, _))

/-- The sessions of retiring hosts: those of the host that occurs first come first, and the
sessions of one host in the order in which they were bound to it. -/
def due (b : Broker) (retiring : List Address) : List Session :=
  retiring.eraseDups.flatMap b.sessions.ofHost

section
variable {b : Broker} {retiring : List Address}

/-- The proxies that do not retire are those that are pooled once the others have left. -/
theorem mem_survivors (hs : b.pools.Sorted) {proxy : Proxy} :
    proxy ∈ b.survivors retiring ↔
      (b.pools.removeAll retiring).proxy? proxy.addr = some proxy := by
  rw [survivors, List.mem_filter, List.mem_map, decide_eq_true_eq, Pools.proxy?_eq_some_iff]
  simp only [Pools.slot?_removeAll hs]
  constructor
  · rintro ⟨⟨slot, hslot, rfl⟩, hstays⟩
    exact ⟨slot.load, (if_neg hstays).trans ((Pools.mem_slots_iff hs).mp hslot)⟩
  · rintro ⟨load, hslot⟩
    split at hslot
    · cases hslot
    · next hstays => exact ⟨⟨⟨proxy, load⟩, (Pools.mem_slots_iff hs).mpr hslot, rfl⟩, hstays⟩

theorem placeable_iff (hs : b.pools.Sorted) (session : Session) :
    b.Placeable retiring session ↔ (b.pools.removeAll retiring).Serves session.nat := by
  constructor
  · rintro ⟨proxy, hin, hserves⟩
    exact ⟨proxy.addr, proxy, (mem_survivors hs).mp hin, hserves⟩
  · rintro ⟨addr, proxy, hp, hserves⟩
    obtain ⟨load, hslot⟩ := Pools.proxy?_eq_some_iff.mp hp
    have haddr := Pools.slot?_addr (Pools.sorted_removeAll hs retiring) hslot
    exact ⟨proxy, (mem_survivors hs).mpr (haddr ▸ hp), hserves⟩

/-- The sessions that are due are those that are bound to a retiring host. -/
theorem mem_due (he : b.sessions.Exact) {session : Session} :
    session ∈ b.due retiring ↔
      b.sessions.get? session.cid = some session ∧ session.host ∈ retiring := by
  rw [due, List.mem_flatMap]
  simp only [List.mem_eraseDups, Sessions.mem_ofHost he]
  constructor
  · rintro ⟨host, hhost, hget, rfl⟩
    exact ⟨hget, hhost⟩
  · rintro ⟨hget, hhost⟩
    exact ⟨session.host, hhost, hget, rfl⟩

theorem map_cid_due (he : b.sessions.Exact) :
    (b.due retiring).map (·.cid) = retiring.eraseDups.flatMap b.sessions.ids := by
  rw [due, List.map_flatMap]
  exact List.flatMap_congr fun host _ => Sessions.map_cid_ofHost he host

/-- Each of them is due once. -/
theorem nodup_due (he : b.sessions.Exact) : ((b.due retiring).map (·.cid)).Nodup := by
  rw [map_cid_due he, List.nodup_flatMap]
  refine ⟨fun host _ => he.once host, (nodup_eraseDups retiring).imp ?_⟩
  intro host other hne cid hcid hcid'
  -- A client has one session, and so it is under one host.
  obtain ⟨session, hget, hhost⟩ := he.listed.mp hcid
  obtain ⟨session', hget', hhost'⟩ := he.listed.mp hcid'
  obtain rfl : session = session' := Option.some.inj (hget.symm.trans hget')
  exact hne (hhost.symm.trans hhost')

end

end Broker

/-! ## The loop -/

/-- The client that was moved, and the host that it left. -/
def Migration.origin (m : Migration) : String × Address := (m.cid, m.source)

/-- The client of a session, and its host. -/
def Session.place (s : Session) : String × Address := (s.cid, s.host)

/-- How many sessions of a list are at the same host as the first one. -/
def Session.withFirst : List Session → Nat
  | [] => 0
  | first :: rest => (first :: rest).countP fun session => session.host = first.host

theorem Session.withFirst_eq_zero_iff {sessions : List Session} :
    Session.withFirst sessions = 0 ↔ sessions = [] := by
  cases sessions with
  | nil => exact ⟨fun _ => rfl, fun _ => rfl⟩
  | cons first rest => simp [withFirst]

/-- Sessions of other hosts that follow are not counted. -/
theorem Session.withFirst_append {host : Address} {sessions others : List Session}
    (hsome : sessions ≠ []) (hhost : ∀ s ∈ sessions, s.host = host)
    (hother : ∀ s ∈ others, s.host ≠ host) :
    Session.withFirst (sessions ++ others) = sessions.length := by
  cases sessions with
  | nil => exact absurd rfl hsome
  | cons first rest =>
    rw [List.cons_append, withFirst, hhost first List.mem_cons_self, ← List.cons_append,
      List.countP_append, List.countP_eq_length.mpr (by simpa using hhost),
      List.countP_eq_zero.mpr (by simpa using hother), Nat.add_zero]

/-- A session that moves between other hosts is nothing to the list of this one. -/
theorem Sessions.ofHost_rebind_other {s : Sessions} (hs : s.Exact) {cid : String} {old : Session}
    (hget : s.get? cid = some old) {host target : Address} (hold : old.host ≠ host)
    (hnew : target ≠ host) : (s.rebind cid target).2.ofHost host = s.ofHost host := by
  have hids : (s.rebind cid target).2.ids host = s.ids host := by
    rw [ids_rebind hs hget, if_neg hnew.symm, List.append_nil]
    apply hs.ids_filter
    intro session hsession
    obtain rfl : old = session := Option.some.inj (hget.symm.trans hsession)
    exact hold
  show ((s.rebind cid target).2.ids host).filterMap _ = (s.ids host).filterMap _
  rw [hids]
  apply List.filterMap_congr
  intro c hc
  obtain ⟨session, hsession, hhost⟩ := hs.listed.mp hc
  rw [get?_rebind hget, if_neg]
  rintro rfl
  obtain rfl : old = session := Option.some.inj (hget.symm.trans hsession)
  exact hold hhost

namespace Relocation

section
variable {retiring hosts : List Address} {r r' : Relocation}

theorem Ready.mono (hr : Ready retiring r) (hsub : ∀ host ∈ hosts, host ∈ retiring) :
    Ready hosts r :=
  ⟨hr.sorted, hr.exact, fun host hhost => hr.out host (hsub host hhost)⟩

theorem Move.mono (hm : Move hosts r r') (hsub : ∀ host ∈ hosts, host ∈ retiring) :
    Move retiring r r' := by
  obtain ⟨session, slot, pools, bound, retires, serves, reloads⟩ := hm
  exact .move session slot pools bound (hsub _ retires) serves reloads

/-- Clearing one host leaves the sessions of the other retiring hosts as they are. -/
theorem Moves.ofHost_other {host other : Address} (hr : Ready retiring r)
    (hm : Moves [host] r r') (hhost : host ∈ retiring) (hother : other ∈ retiring)
    (hne : host ≠ other) : r'.sessions.ofHost other = r.sessions.ofHost other := by
  have hsub : ∀ h ∈ [host], h ∈ retiring := fun h hh => List.mem_singleton.mp hh ▸ hhost
  induction hm with
  | refl => rfl
  | tail hmoves hstep ih =>
    have hready := hr.moves (Relation.ReflTransGen.mono (fun _ _ hm => hm.mono hsub) _ _ hmoves)
    obtain ⟨session, slot, pools, bound, retires, -, reloads⟩ := hstep
    rw [← ih]
    refine Sessions.ofHost_rebind_other hready.exact bound ?_ ?_
    · rw [List.mem_singleton.mp retires]
      exact hne
    · -- The session goes to a pooled proxy, which is at no retiring host.
      intro htarget
      exact hready.not_mem reloads.proxy?_before (htarget ▸ hother)

/-- No session is found under a host that was cleared. -/
theorem ofHost_of_cleared {host : Address} (hhost : host ∈ retiring) (hr : Ready retiring r)
    (h0 : (moveSessions host (r.sessions.ofHost host) r).2 = 0) :
    (moveSessions host (r.sessions.ofHost host) r).1.sessions.ofHost host = [] := by
  obtain ⟨hmoves, hfree⟩ := moveSessions_ofHost hhost hr
  apply List.eq_nil_iff_forall_not_mem.mpr
  intro session hin
  obtain ⟨hget, hback⟩ := (Sessions.mem_ofHost (hr.moves hmoves).exact).mp hin
  exact hfree h0 session.cid session hget hback

/-- Once a host is cleared, what is found under the hosts after it is what was found under
them before, the host itself left out. -/
theorem due_of_cleared {host : Address} (hhost : host ∈ retiring)
    (hrest : ∀ h ∈ hosts, h ∈ retiring) (hr : Ready retiring r)
    (h0 : (moveSessions host (r.sessions.ofHost host) r).2 = 0) :
    hosts.eraseDups.flatMap (moveSessions host (r.sessions.ofHost host) r).1.sessions.ofHost =
      (hosts.eraseDups.filter fun h => !h == host).flatMap r.sessions.ofHost := by
  have halone : Ready [host] r := hr.mono fun h hh => List.mem_singleton.mp hh ▸ hhost
  obtain ⟨hmoves, -⟩ := moveSessions_ofHost List.mem_cons_self halone
  rw [← flatMap_filter_ne (ofHost_of_cleared hhost hr h0)]
  apply List.flatMap_congr
  intro other hother
  rw [List.mem_filter, List.mem_eraseDups] at hother
  refine hmoves.ofHost_other hr hhost (hrest other hother.1) ?_
  rintro rfl
  simp at hother

end

section
variable {retiring : List Address} {r : Relocation} {placeable : Session → Prop}
  [DecidablePred placeable]

/-- The sessions of a host are moved up to the first one that cannot be placed, and the
others are counted. -/
theorem moveSessions_until {host : Address} (sessions : List Session) (hs : r.pools.Sorted)
    (hhost : ∀ s ∈ sessions, s.host = host)
    (hplace : ∀ s, placeable s ↔ r.pools.Serves s.nat) :
    (moveSessions host sessions r).1.migrations.map Migration.origin =
      r.migrations.map Migration.origin ++
        (sessions.takeWhile (placeable ·)).map Session.place ∧
    (moveSessions host sessions r).2 = (sessions.dropWhile (placeable ·)).length := by
  -- The induction is on the sessions that are still to be moved; a move changes one load, and
  -- so the same sessions can be placed after it.
  induction sessions generalizing r with
  | nil => exact ⟨by simp [moveSessions], rfl⟩
  | cons session rest ih =>
    obtain rfl := hhost session List.mem_cons_self
    by_cases hp : placeable session
    · obtain ⟨slot, pools, hborrow, hr⟩ := Pools.borrow_of_serves hs ((hplace session).mp hp)
      have hrest : ∀ s, placeable s ↔ pools.Serves s.nat := fun s =>
        (hplace s).trans (Pools.serves_congr hr.proxy? s.nat).symm
      rw [moveSessions, hborrow, List.takeWhile_cons_of_pos (by simpa using hp),
        List.dropWhile_cons_of_pos (by simpa using hp)]
      obtain ⟨hmoved, hleft⟩ := ih (r := ⟨pools, _, r.migrations ++
        [⟨session.cid, session.host, slot.proxy.addr⟩]⟩) hr.sorted
        (fun s hs => hhost s (List.mem_cons_of_mem _ hs)) hrest
      refine ⟨?_, hleft⟩
      rw [hmoved, List.map_append, List.append_assoc]
      rfl
    · have hnone := Pools.borrow_of_not_serves hs (mt (hplace session).mpr hp)
      rw [moveSessions, hnone, List.takeWhile_cons_of_neg (by simpa using hp),
        List.dropWhile_cons_of_neg (by simpa using hp)]
      exact ⟨by simp, rfl⟩

/-- The sessions of all hosts are moved up to the first one that cannot be placed; counted
are those that are left on its host. -/
theorem clearHosts_until (hosts : List Address) (hsub : ∀ host ∈ hosts, host ∈ retiring)
    (hr : Ready retiring r) (hplace : ∀ s, placeable s ↔ r.pools.Serves s.nat) :
    (clearHosts hosts r).1.migrations.map Migration.origin =
      r.migrations.map Migration.origin ++
        ((hosts.eraseDups.flatMap r.sessions.ofHost).takeWhile (placeable ·)).map
          Session.place ∧
    (clearHosts hosts r).2 = Session.withFirst
      ((hosts.eraseDups.flatMap r.sessions.ofHost).dropWhile (placeable ·)) := by
  induction hosts generalizing r with
  | nil => exact ⟨by simp [clearHosts], rfl⟩
  | cons host hosts ih =>
    have hhost := hsub host List.mem_cons_self
    have hrest : ∀ h ∈ hosts, h ∈ retiring := fun h hh => hsub h (List.mem_cons_of_mem _ hh)
    have hat : ∀ s ∈ r.sessions.ofHost host, s.host = host := fun s hs =>
      ((Sessions.mem_ofHost hr.exact).mp hs).2
    obtain ⟨hmoved, hleft⟩ := moveSessions_until (r.sessions.ofHost host) hr.sorted hat hplace
    rw [flatMap_eraseDups_cons, clearHosts]
    by_cases h0 : (r.sessions.ofHost host).dropWhile (placeable ·) = []
    · -- The host is cleared, and the loop goes on with the others.
      have hall : ∀ s ∈ r.sessions.ofHost host, placeable s := by
        simpa only [List.dropWhile_eq_nil_iff, decide_eq_true_eq] using h0
      have hzero : (moveSessions host (r.sessions.ofHost host) r).2 = 0 := by rw [hleft, h0]; rfl
      obtain ⟨hmoves, -⟩ := moveSessions_ofHost hhost hr
      obtain ⟨hmoved', hleft'⟩ := ih hrest (hr.moves hmoves) fun s =>
        (hplace s).trans (Pools.serves_congr hmoves.proxy? s.nat).symm
      rw [(Prod.ext rfl hzero : moveSessions host (r.sessions.ofHost host) r = (_, 0))]
      simp only [dropHost_after hhost hr hzero]
      rw [List.takeWhile_append_of_pos (by simpa using hall),
        List.dropWhile_append_of_pos (by simpa using hall), ← due_of_cleared hhost hrest hr hzero]
      refine ⟨?_, hleft'⟩
      rw [hmoved', hmoved, List.takeWhile_eq_self_iff.mpr (by simpa using hall), List.map_append,
        List.append_assoc]
    · -- The loop ends here, and the other hosts are not looked at.
      have hothers : ∀ s ∈ (hosts.eraseDups.filter fun h => !h == host).flatMap r.sessions.ofHost,
          s.host ≠ host := by
        intro s hs
        obtain ⟨other, hother, hin⟩ := List.mem_flatMap.mp hs
        rw [((Sessions.mem_ofHost hr.exact).mp hin).2]
        rintro rfl
        simp at hother
      obtain ⟨htaken, hdropped⟩ := until_append h0
        ((hosts.eraseDups.filter fun h => !h == host).flatMap r.sessions.ofHost)
      rw [htaken, hdropped, Session.withFirst_append h0
        (fun s hs => hat s ((List.dropWhile_sublist _).subset hs)) hothers]
      split
      · next r' heq =>
        rw [heq] at hleft
        exact absurd (List.length_eq_zero_iff.mp hleft.symm) h0
      · next r' left hpos heq =>
        rw [heq] at hmoved hleft
        exact ⟨hmoved, hleft⟩

end

end Relocation

/-! ## A rescale -/

namespace Broker

section
variable {b : Broker} {retiring : List Address}

/-- The sessions that are moved: those that are due before the first one that cannot be
placed. -/
def movable (b : Broker) (retiring : List Address) : List Session :=
  (b.due retiring).takeWhile (b.Placeable retiring ·)

/-- The sessions that are left: the first one that cannot be placed, and all that are due
after it. -/
def unmoved (b : Broker) (retiring : List Address) : List Session :=
  (b.due retiring).dropWhile (b.Placeable retiring ·)

theorem movable_append_unmoved (b : Broker) (retiring : List Address) :
    b.movable retiring ++ b.unmoved retiring = b.due retiring :=
  List.takeWhile_append_dropWhile

theorem unmoved_eq_nil_iff :
    b.unmoved retiring = [] ↔ ∀ session ∈ b.due retiring, b.Placeable retiring session := by
  simp only [unmoved, List.dropWhile_eq_nil_iff, decide_eq_true_eq]

theorem relocated_until (hs : b.pools.Sorted) (he : b.sessions.Exact) (retiring : List Address) :
    (b.relocated retiring).migrations.map Migration.origin =
      (b.movable retiring).map Session.place ∧
    (b.relocate retiring).2.1 = Session.withFirst (b.unmoved retiring) := by
  have huntil := Relocation.clearHosts_until retiring (fun _ h => h)
    (Relocation.ready_start hs he retiring) (placeable_iff hs)
  rw [relocate_eq]
  exact huntil

/-- A client is in a migration if and only if its session is moved. -/
theorem movesOf_ne_nil_iff (hs : b.pools.Sorted) (he : b.sessions.Exact) {cid : String} :
    (b.relocated retiring).movesOf cid ≠ [] ↔ cid ∈ (b.movable retiring).map (·.cid) := by
  have hcids := congrArg (List.map Prod.fst) (relocated_until hs he retiring).1
  rw [List.map_map, List.map_map] at hcids
  show _ ↔ cid ∈ (b.movable retiring).map (Prod.fst ∘ Session.place)
  rw [← hcids, List.mem_map, ne_eq, Relocation.movesOf, List.filter_eq_nil_iff]
  simp [Migration.origin]

/-- A session that is moved is put on a proxy that does not retire and that can serve the
client. -/
theorem placed_of_movable (hs : b.pools.Sorted) (he : b.sessions.Exact) {session : Session}
    (hin : session ∈ b.movable retiring) :
    ∃ proxy ∈ b.survivors retiring, proxy.nat.CanServe session.nat ∧
      (b.relocated retiring).sessions.get? session.cid =
        some { session with host := proxy.addr } := by
  have hmoves := (movesOf_ne_nil_iff hs he).mpr (List.mem_map_of_mem hin)
  have hbound := ((mem_due he).mp ((List.takeWhile_sublist _).subset hin)).1
  cases track_relocated hs he retiring session.cid with
  | stayed same none => exact absurd none hmoves
  | moved old target before retires after pooled serves once =>
    obtain rfl : session = old := Option.some.inj (hbound.symm.trans before)
    refine ⟨target, (mem_survivors hs).mpr ?_, serves, after⟩
    exact ((Relocation.start_moves hs he retiring).proxy? target.addr).symm.trans pooled

/-- All other sessions stay. -/
theorem stays_of_not_movable (hs : b.pools.Sorted) (he : b.sessions.Exact) {cid : String}
    (hnot : cid ∉ (b.movable retiring).map (·.cid)) :
    (b.relocated retiring).sessions.get? cid = b.sessions.get? cid := by
  have hmoves := mt (movesOf_ne_nil_iff hs he).mp hnot
  cases track_relocated hs he retiring cid with
  | stayed same none => exact same
  | moved old target before retires after pooled serves once =>
    rw [once] at hmoves
    exact absurd (List.cons_ne_nil _ _) hmoves

end

end Broker

/-- A rescale that was started has made the moves of its loop. -/
theorem Traffic.startRescale_relocates (t : Traffic) (retiring incoming : List Address) :
    (t.startRescale retiring incoming).2.broker.sessions = (t.broker.relocated retiring).sessions ∧
    migrationsOf (t.startRescale retiring incoming) = (t.broker.relocated retiring).migrations := by
  rw [← Broker.relocate_sessions, ← Broker.relocate_migrations]
  rcases t.startRescale_cases retiring incoming with ⟨rfl, -, heq⟩ |
    ⟨stranded, b, relocated, heq⟩ | ⟨migrations, stranded, b, relocated, -, heq⟩
  · rw [heq]
    exact ⟨rfl, rfl⟩
  · rw [heq, relocated, migrationsOf_done]
    exact ⟨(Broker.sameStores_concludeRescale ..).sessions, rfl⟩
  · rw [heq, relocated, migrationsOf_wait]
    exact ⟨rfl, rfl⟩

namespace History

/-- **A rescale moves the sessions that are due up to the first one that cannot be
placed.** Due are the sessions of the retiring hosts, host by host, and those of one host
in the order in which the run has bound them. The rescale answers with a report if and only
if each of them can be placed, once its instructions are settled, and whatever else happens
meanwhile. The sessions before the first one that cannot be placed are moved in their order,
each to a proxy that does not retire and that can serve the client; everybody else keeps
their session. -/
theorem rescale_moves_until_unplaceable (setup : Setup) (events : List Event)
    (retiring incoming : List Address) (later : List Event) :
    let s := run setup events
    let due := s.broker.due retiring
    let moved := due.takeWhile (s.broker.Placeable retiring ·)
    let rescaled := s.traffic.startRescale retiring incoming
    let before := s.broker.sessions
    let after := rescaled.2.broker.sessions
    (∀ i < (Traffic.migrationsOf rescaled).length,
      ∃ delivered, Event.settle s.traffic.nextCall i delivered ∈ later) →
    (∀ session, session ∈ due ↔
      before.get? session.cid = some session ∧ session.host ∈ retiring) ∧
    due.map (·.cid) = retiring.eraseDups.flatMap (fun host =>
      (bindings setup events).dedup.filter fun cid =>
        (before.get? cid).map (·.host) = some host) ∧
    (∃ r, s.rescaleOutcome setup retiring incoming later = some (.rescaled r) ∧
      ((∃ report, r = .ok report) ↔ ∀ session ∈ due, s.broker.Placeable retiring session)) ∧
    (Traffic.migrationsOf rescaled).map (fun m => (m.cid, m.source)) =
      moved.map (fun session => (session.cid, session.host)) ∧
    (∀ session ∈ moved, ∃ proxy ∈ s.broker.survivors retiring,
      proxy.nat.CanServe session.nat ∧
      after.get? session.cid = some { session with host := proxy.addr }) ∧
    (∀ cid, cid ∉ moved.map (·.cid) → after.get? cid = before.get? cid) := by
  intro s due moved rescaled before after settled
  have hsound := run_sound setup events
  have hs := hsound.order.agrees.sorted
  have he := hsound.order.exact
  obtain ⟨hsessions, hmigrations⟩ := s.traffic.startRescale_relocates retiring incoming
  obtain ⟨hmoved, hstranded⟩ := Broker.relocated_until hs he retiring
  simp only [rescaled, after, hsessions, hmigrations] at settled ⊢
  have hranked := run_ranked setup events
  refine ⟨fun _ => Broker.mem_due he, ?_, ?_, hmoved, fun _ => Broker.placed_of_movable hs he,
    fun _ => Broker.stays_of_not_movable hs he⟩
  · rw [Broker.map_cid_due he]
    exact List.flatMap_congr fun host _ => hranked host
  rw [← Broker.relocate_migrations] at settled
  obtain ⟨outcome, ho⟩ := rescaleOutcome_ends incoming hsound settled
  obtain ⟨failed, hreport⟩ := rescaleOutcome_reports hsound ho
  refine ⟨_, ho.trans (congrArg some hreport), ?_⟩
  -- Sessions are left behind exactly if there is one that cannot be placed.
  rw [← Broker.unmoved_eq_nil_iff, ← Session.withFirst_eq_zero_iff, ← hstranded]
  split
  · next hleft => exact ⟨fun ⟨_, hok⟩ => (by cases hok), fun h0 => absurd h0 (by omega)⟩
  · next hnone => exact ⟨fun _ => by omega, fun _ => ⟨_, rfl⟩⟩

/-- The client that any proxy can serve is moved, and the other one stops the rescale; a
poll of another proxy in between does not help. -/
theorem second_client_stops_rescale :
    let setup : Setup := ⟨Settings.standard, Catalog.builtin⟩
    let host : Address := .v4 10 0 0 1
    let s := run setup twoOnOneHost
    let rescaled := s.traffic.startRescale [host, host] []
    let later : List Event :=
      [.register ⟨"late", "standalone", .unrestricted, .v4 10 0 0 3, 0, true⟩,
        .settle s.traffic.nextCall 0 true]
    (∀ i < (Traffic.migrationsOf rescaled).length,
      ∃ delivered, Event.settle s.traffic.nextCall i delivered ∈ later) ∧
    s.broker.due [host, host] = [⟨"easy", .unrestricted, host⟩, ⟨"hard", .restricted, host⟩] ∧
    (∃ r, s.rescaleOutcome setup [host, host] [] later = some (.rescaled r) ∧
      ¬ ∃ report, r = .ok report) ∧
    (Traffic.migrationsOf rescaled).map (fun m => (m.cid, m.source)) = [("easy", host)] ∧
    rescaled.2.broker.sessions.get? "hard" = some ⟨"hard", .restricted, host⟩ := by
  intro setup host s rescaled later
  have settled : ∀ i < (Traffic.migrationsOf rescaled).length,
      ∃ delivered, Event.settle s.traffic.nextCall i delivered ∈ later := by
    have hone : (Traffic.migrationsOf rescaled).length = 1 := by decide +kernel
    intro i hi
    obtain rfl : i = 0 := by omega
    exact ⟨true, List.mem_cons_of_mem _ List.mem_cons_self⟩
  have hdue : s.broker.due [host, host] =
      [⟨"easy", .unrestricted, host⟩, ⟨"hard", .restricted, host⟩] := by decide +kernel
  have hmoved : (s.broker.due [host, host]).takeWhile (s.broker.Placeable [host, host] ·) =
      [⟨"easy", .unrestricted, host⟩] := by decide +kernel
  have hhard : ¬ s.broker.Placeable [host, host] ⟨"hard", .restricted, host⟩ := by
    decide +kernel
  have hrescale := rescale_moves_until_unplaceable setup twoOnOneHost [host, host] [] later
  -- Left to itself, the unifier would compute the runs.
  with_reducible
    obtain ⟨-, -, ⟨r, ho, hok⟩, hmigrations, -, hstays⟩ := hrescale settled
  refine ⟨settled, hdue, ⟨r, ho, fun hreport => hhard ?_⟩, ?_, ?_⟩
  · exact hok.mp hreport _ (by rw [hdue]; simp)
  · rw [hmigrations, hmoved]
    rfl
  · rw [hstays "hard" (by rw [hmoved]; decide)]
    decide +kernel

end History

end RelayBroker
