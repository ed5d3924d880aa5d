/-
  RelayBroker.Proofs.Session.ReverseIndex

  The lists of clients by host, against the sessions. `Exact` says that a client is
  listed under a host exactly while its session is bound to that host, that it is
  listed there once, and that no empty list is stored.

  On exact sessions every operation that moves a client strikes it from all lists and
  then puts it last on one (`ids_bind`, `ids_rebind`), or on none (`ids_unbind`), so
  one lemma (`Exact.of_moved`) covers them all.
-/

import RelayBroker.Session.Sessions

namespace RelayBroker.Sessions

/-- The clients that are listed under a host. -/
def ids (s : Sessions) (host : Address) : List String :=
  (s.byHost.get? host).getD []

/-- A client is listed under a host exactly while its session is bound to it, once, and
no list is empty. -/
structure Exact (s : Sessions) : Prop where
  named : ∀ {cid session}, s.get? cid = some session → session.cid = cid
  listed : ∀ {host cid},
    cid ∈ s.ids host ↔ ∃ session, s.get? cid = some session ∧ session.host = host
  once : ∀ host, (s.ids host).Nodup
  nonempty : ∀ host, s.byHost.get? host ≠ some []

theorem exact_empty : empty.Exact where
  named h := by simp [empty, get?] at h
  listed := by simp [empty, get?, ids]
  once _ := List.nodup_nil
  nonempty _ := by simp [empty]

/-! ## Lists -/

section
variable (s : Sessions) (cid : String) (host : Address)

@[simp] theorem get?_link (c : String) : (s.link cid host).get? c = s.get? c := rfl

@[simp] theorem get?_unlink (c : String) : (s.unlink cid host).get? c = s.get? c := by
  rw [unlink]
  split <;> rfl

theorem ids_link (h : Address) :
    (s.link cid host).ids h =
      if h = host then if cid ∈ s.ids host then s.ids host else s.ids host ++ [cid]
      else s.ids h := by
  simp only [ids, link, Table.get?_insert, List.contains_iff_mem]
  split <;> rfl

theorem ids_unlink (h : Address) :
    (s.unlink cid host).ids h = if h = host then (s.ids h).filter (· ≠ cid) else s.ids h := by
  cases hget : s.byHost.get? host with
  | none =>
    simp only [unlink, hget]
    split
    · next hh => rw [hh, ids, hget]; rfl
    · rfl
  | some l =>
    simp only [unlink, hget]
    -- A list that becomes empty is taken out, one that does not is written back.
    by_cases hrest : (l.filter fun id => id ≠ cid).isEmpty
    · rw [if_pos hrest]
      simp only [ids, Table.get?_erase]
      split
      · next hh => rw [hh, hget, Option.getD_some, List.isEmpty_iff.mp hrest]; rfl
      · rfl
    · rw [if_neg hrest]
      simp only [ids, Table.get?_insert]
      split
      · next hh => rw [hh, hget, Option.getD_some]; rfl
      · rfl

theorem nonempty_link (hs : ∀ h, s.byHost.get? h ≠ some []) (h : Address) :
    (s.link cid host).byHost.get? h ≠ some [] := by
  simp only [link, Table.get?_insert]
  split
  · -- A list on which somebody stands already is not empty.
    split
    · next hmem =>
      intro hnil
      rw [Option.some.inj hnil] at hmem
      simp at hmem
    · simp
  · exact hs h

theorem nonempty_unlink (hs : ∀ h, s.byHost.get? h ≠ some []) (h : Address) :
    (s.unlink cid host).byHost.get? h ≠ some [] := by
  cases hget : s.byHost.get? host with
  | none =>
    simp only [unlink, hget]
    exact hs h
  | some l =>
    simp only [unlink, hget]
    by_cases hrest : (l.filter fun id => id ≠ cid).isEmpty
    · rw [if_pos hrest, Table.get?_erase]
      split
      · simp
      · exact hs h
    · rw [if_neg hrest, Table.get?_insert]
      split
      · -- An empty rest would have been taken out.
        intro hnil
        exact hrest (by rw [Option.some.inj hnil]; rfl)
      · exact hs h

end

/-! ## Exact sessions -/

section
variable {s : Sessions} {cid : String} {host : Address}

theorem Exact.ids_filter (hs : s.Exact)
    (hno : ∀ session, s.get? cid = some session → session.host ≠ host) :
    (s.ids host).filter (· ≠ cid) = s.ids host := by
  apply List.filter_eq_self.mpr
  intro id hid
  rw [decide_eq_true_eq]
  rintro rfl
  obtain ⟨session, hget, hhost⟩ := hs.listed.mp hid
  exact hno session hget hhost

/-- Strikes a client from wherever it is listed. -/
theorem Exact.ids_unlink_all (hs : s.Exact) {session : Session} (hget : s.get? cid = some session)
    (h : Address) : (s.unlink cid session.host).ids h = (s.ids h).filter (· ≠ cid) := by
  -- On the lists of other hosts the client does not stand anyway.
  rw [ids_unlink]
  split
  · rfl
  · next hh =>
    refine (hs.ids_filter fun other hother => ?_).symm
    rw [hget, Option.some.injEq] at hother
    rw [← hother]
    exact fun he => hh he.symm

/-- A client that is listed nowhere is put last on the list of a host. -/
theorem ids_link_last (hfree : ∀ h, cid ∉ s.ids h) (h : Address) :
    (s.link cid host).ids h = s.ids h ++ if h = host then [cid] else [] := by
  rw [ids_link]
  split
  · next hh => rw [if_neg (hfree host), hh]
  · rw [List.append_nil]

/-- What a move of a client makes of exact sessions: the client is struck from all
lists, then it has the session `now`, if any, and is last on the list of its host. -/
theorem Exact.of_moved {s' : Sessions} (hs : s.Exact) (now : Option Session)
    (hnow : ∀ session, now = some session → session.cid = cid)
    (hget : ∀ c, s'.get? c = if c = cid then now else s.get? c)
    (hids : ∀ h, s'.ids h = (s.ids h).filter (· ≠ cid) ++
      if now.map (·.host) = some h then [cid] else [])
    (hne : ∀ h, s'.byHost.get? h ≠ some []) : s'.Exact where
  named {c session} h := by
    rw [hget] at h
    split at h
    · next hc => rw [hc, hnow session h]
    · exact hs.named h
  listed {h c} := by
    rw [hget, hids, List.mem_append, List.mem_filter, decide_eq_true_eq]
    -- The client itself is listed where it is now, the others where they were.
    by_cases hc : c = cid
    · subst hc
      rw [if_pos rfl]
      cases now with
      | none => simp
      | some session => simp
    · have hlast : c ∉ (if now.map (·.host) = some h then [cid] else []) := by
        split <;> simp [hc]
      rw [if_neg hc, hs.listed, and_iff_left hc, or_iff_left hlast]
  once h := by
    rw [hids, List.nodup_append]
    -- The client was struck out before it was put last.
    refine ⟨(hs.once h).filter _, by split <;> simp, ?_⟩
    rintro a ha b hb rfl
    split at hb
    · rw [List.mem_singleton] at hb
      simp [hb] at ha
    · simp at hb
  nonempty := hne

end

/-! ## The operations -/

/-- The sessions with a client struck from the list it is on. -/
def freed (s : Sessions) (cid : String) : Sessions :=
  match s.get? cid with
  | some old => s.unlink cid old.host
  | none => s

section
variable {s : Sessions}

theorem bind_eq (s : Sessions) (cid : String) (nat : NatClass) (host : Address) :
    s.bind cid nat host =
      ({ s.freed cid with byClient := (s.freed cid).byClient.insert cid ⟨cid, nat, host⟩ } :
        Sessions).link cid host := rfl

theorem get?_freed (s : Sessions) (cid c : String) : (s.freed cid).get? c = s.get? c := by
  rw [freed]
  split
  · exact get?_unlink ..
  · rfl

theorem ids_freed (hs : s.Exact) (cid : String) (h : Address) :
    (s.freed cid).ids h = (s.ids h).filter (· ≠ cid) := by
  rw [freed]
  split
  · next old hget => exact hs.ids_unlink_all hget h
  · next hget => exact (hs.ids_filter fun session h' => by rw [hget] at h'; cases h').symm

theorem nonempty_freed (hs : s.Exact) (cid : String) (h : Address) :
    (s.freed cid).byHost.get? h ≠ some [] := by
  rw [freed]
  split
  · exact nonempty_unlink _ _ _ hs.nonempty h
  · exact hs.nonempty h

theorem get?_bind (s : Sessions) (cid : String) (nat : NatClass) (host : Address) (c : String) :
    (s.bind cid nat host).get? c = if c = cid then some ⟨cid, nat, host⟩ else s.get? c := by
  rw [bind_eq, get?_link, ← get?_freed s cid]
  exact Table.get?_insert ..

theorem ids_bind (hs : s.Exact) (cid : String) (nat : NatClass) (host h : Address) :
    (s.bind cid nat host).ids h = (s.ids h).filter (· ≠ cid) ++ if h = host then [cid] else [] := by
  -- Once struck out, the client is on no list.
  have hfree : ∀ h, cid ∉ (s.freed cid).ids h := fun h => by simp [ids_freed hs]
  rw [bind_eq, ← ids_freed hs]
  exact ids_link_last hfree h

theorem exact_bind (hs : s.Exact) (cid : String) (nat : NatClass) (host : Address) :
    (s.bind cid nat host).Exact := by
  refine hs.of_moved (some ⟨cid, nat, host⟩) ?_ (get?_bind s cid nat host) (fun h => ?_) ?_
  · rintro _ ⟨⟩
    rfl
  · simp only [ids_bind hs, Option.map_some, Option.some.injEq, eq_comm]
  · rw [bind_eq]
    exact nonempty_link _ _ _ (nonempty_freed hs cid)

/-! ### Moving a session -/

theorem rebind_of_none {cid : String} (h : s.get? cid = none) (host : Address) :
    s.rebind cid host = (false, s) := by
  rw [rebind, h]

/-- The sessions with the session of a client already at its new host, before the lists
are put right. -/
theorem rebind_snd {cid : String} {old : Session} (h : s.get? cid = some old) (host : Address) :
    (s.rebind cid host).2 =
      (({ s with byClient := s.byClient.insert cid { old with host := host } } : Sessions).unlink
        cid old.host).link cid host := by
  rw [rebind, h]

theorem get?_rebind {cid : String} {old : Session} (h : s.get? cid = some old) (host : Address)
    (c : String) :
    (s.rebind cid host).2.get? c =
      if c = cid then some { old with host := host } else s.get? c := by
  rw [rebind_snd h, get?_link, get?_unlink]
  exact Table.get?_insert ..

theorem ids_rebind (hs : s.Exact) {cid : String} {old : Session} (h : s.get? cid = some old)
    (host a : Address) :
    (s.rebind cid host).2.ids a = (s.ids a).filter (· ≠ cid) ++ if a = host then [cid] else [] := by
  -- The session has moved before the list is put right, which does not show in the lists.
  have hstruck : ∀ a, (({ s with byClient := s.byClient.insert cid { old with host := host } } :
      Sessions).unlink cid old.host).ids a = (s.ids a).filter (· ≠ cid) := by
    intro a
    rw [← hs.ids_unlink_all h, ids_unlink, ids_unlink]
    rfl
  rw [rebind_snd h, ids_link_last (fun a => by rw [hstruck]; simp), hstruck]

theorem exact_rebind (hs : s.Exact) (cid : String) (host : Address) :
    (s.rebind cid host).2.Exact := by
  -- A client without a session is not moved.
  cases h : s.get? cid with
  | none => rwa [rebind_of_none h]
  | some old =>
    have hname : old.cid = cid := hs.named h
    refine hs.of_moved (some { old with host := host }) ?_ (get?_rebind h host) (fun a => ?_) ?_
    · rintro _ ⟨⟩
      exact hname
    · simp only [ids_rebind hs h, Option.map_some, Option.some.injEq, eq_comm]
    · rw [rebind_snd h]
      exact nonempty_link _ _ _ (nonempty_unlink _ _ _ hs.nonempty)

/-! ### Ending a session -/

/-- What is left once the session of a client at a host is ended. -/
def erased (s : Sessions) (cid : String) (host : Address) : Sessions :=
  ({ s with byClient := s.byClient.erase cid } : Sessions).unlink cid host

/-- A session is ended only by its own host; else nothing changes. -/
theorem unbind_cases (s : Sessions) (cid : String) (host : Address) :
    s.unbind cid host = (false, s) ∧ (∀ session, s.get? cid = some session → session.host ≠ host) ∨
    ∃ session, s.get? cid = some session ∧ session.host = host ∧
      s.unbind cid host = (true, s.erased cid host) := by
  cases h : s.get? cid with
  | none => exact .inl ⟨by rw [unbind, h], by simp⟩
  | some session =>
    by_cases hh : session.host = host
    · exact .inr ⟨session, rfl, hh, by simp only [unbind, h, if_pos hh, erased]⟩
    · refine .inl ⟨by simp only [unbind, h, if_neg hh], ?_⟩
      rintro _ ⟨⟩
      exact hh

theorem get?_erased (s : Sessions) (cid : String) (host : Address) (c : String) :
    (s.erased cid host).get? c = if c = cid then none else s.get? c := by
  rw [erased, get?_unlink]
  exact Table.get?_erase ..

theorem ids_erased (hs : s.Exact) {cid : String} {session : Session}
    (hget : s.get? cid = some session) (h : Address) :
    (s.erased cid session.host).ids h = (s.ids h).filter (· ≠ cid) := by
  rw [← hs.ids_unlink_all hget, erased, ids_unlink, ids_unlink]
  rfl

theorem exact_unbind (hs : s.Exact) (cid : String) (host : Address) :
    (s.unbind cid host).2.Exact := by
  rcases unbind_cases s cid host with ⟨heq, -⟩ | ⟨session, hget, rfl, heq⟩
  · rwa [heq]
  · rw [heq]
    refine hs.of_moved none (by simp) (get?_erased s cid session.host) (fun h => ?_) ?_
    · simp [ids_erased hs hget]
    · exact nonempty_unlink _ _ _ hs.nonempty

theorem exact_notice (hs : s.Exact) (cid : String) (action : SessionAction) (host : Address) :
    (s.notice cid action host).2.Exact := by
  cases action with
  | add => exact exact_rebind hs cid host
  | remove => exact exact_unbind hs cid host

/-! ### Dropping a list -/

/-- A host that carries no session has no list, and so there is nothing to drop. -/
theorem dropHost_of_free (hs : s.Exact) {host : Address}
    (hfree : ∀ cid session, s.get? cid = some session → session.host ≠ host) :
    s.dropHost host = ([], s) := by
  -- An empty list is not stored, so the host has no entry.
  have hids : s.ids host = [] := by
    apply List.eq_nil_iff_forall_not_mem.mpr
    intro cid hcid
    obtain ⟨session, hget, hhost⟩ := hs.listed.mp hcid
    exact hfree cid session hget hhost
  have hnone : s.byHost.get? host = none := by
    cases h : s.byHost.get? host with
    | none => rfl
    | some l =>
      rw [ids, h, Option.getD_some] at hids
      exact absurd (hids ▸ h) (hs.nonempty host)
  rw [dropHost, hnone, Table.erase_of_get?_eq_none hnone]
  rfl

/-! ### Reading a list -/

/-- The sessions that are read off the list of a host are those bound to it. -/
theorem mem_ofHost (hs : s.Exact) {host : Address} {session : Session} :
    session ∈ s.ofHost host ↔ s.get? session.cid = some session ∧ session.host = host := by
  rw [ofHost, List.mem_filterMap]
  constructor
  · rintro ⟨cid, hcid, hget⟩
    have hcid' : cid ∈ s.ids host := hcid
    obtain ⟨_, hget', hhost⟩ := hs.listed.mp hcid'
    rw [hget, Option.some.injEq] at hget'
    subst hget'
    rw [hs.named hget]
    exact ⟨hget, hhost⟩
  · rintro ⟨hget, hhost⟩
    exact ⟨session.cid, hs.listed.mpr ⟨session, hget, hhost⟩, hget⟩

/-- They are read off in the order of the list, none is skipped. -/
theorem map_cid_ofHost (hs : s.Exact) (host : Address) :
    (s.ofHost host).map (·.cid) = s.ids host := by
  -- A client on the list has a session, so the search for it never fails.
  have hall : ∀ l : List String, (∀ cid ∈ l, ∃ session, s.get? cid = some session) →
      (l.filterMap s.get?).map (·.cid) = l := by
    intro l hl
    induction l with
    | nil => rfl
    | cons cid l ih =>
      obtain ⟨session, hget⟩ := hl cid List.mem_cons_self
      rw [List.filterMap_cons_some hget, List.map_cons, hs.named hget,
        ih fun c hc => hl c (List.mem_cons_of_mem _ hc)]
  exact hall _ fun cid hcid => by
    obtain ⟨session, hget, -⟩ := hs.listed.mp (show cid ∈ s.ids host from hcid)
    exact ⟨session, hget⟩

end

end RelayBroker.Sessions
