/-
  RelayBroker.Proofs.Session.SessionRuns

  The sessions after any bindings, moves and notices. Which session a client has is read
  off the operations about it (`get?_run`), and so is when it was last bound. The lists by
  host keep neither times nor positions, but a client that is bound is struck from all of
  them and put last on one, so each list stays sorted by the times of the last bindings
  (`Timed.bound`), and striking a client out does not disturb it (`Timed.thinned`).

  Main statement: `listed_in_binding_order`.
-/

import Mathlib.Data.List.Basic
import Mathlib.Data.List.Induction
import Mathlib.Logic.Function.Basic
import RelayBroker.Proofs.Session.ReverseIndex

namespace RelayBroker.Sessions

/-! ## Runs -/

/-- What is done to the sessions. -/
inductive Op where
  | bind (cid : String) (nat : NatClass) (host : Address)
  | rebind (cid : String) (host : Address)
  | notice (cid : String) (action : SessionAction) (host : Address)

/-- The client that an operation is about. -/
def Op.cid : Op → String
  | .bind cid _ _ | .rebind cid _ | .notice cid _ _ => cid

/-- The session that an operation leaves its client, given the one that the client had. -/
def Op.after (before : Option Session) : Op → Option Session
  | .bind cid nat host => some ⟨cid, nat, host⟩
  | .rebind _ host | .notice _ .add host => before.map fun session => { session with host := host }
  | .notice _ .remove host => before.filter (·.host ≠ host)

/-- The host that an operation binds its client to, given the session that the client had. -/
def Op.bindsTo? (before : Option Session) : Op → Option Address
  | .bind _ _ host => some host
  | .rebind _ host | .notice _ .add host => before.map fun _ => host
  | .notice _ .remove _ => none

/-- The sessions after one operation. -/
def step (s : Sessions) : Op → Sessions
  | .bind cid nat host => s.bind cid nat host
  | .rebind cid host => (s.rebind cid host).2
  | .notice cid action host => (s.notice cid action host).2

/-- The sessions after some operations. -/
def run (ops : List Op) : Sessions :=
  ops.foldl step empty

/-- The session that the operations about a client have left it. -/
def current (ops : List Op) (cid : String) : Option Session :=
  (ops.filter (·.cid = cid)).foldl Op.after none

/-- The operation at some place binds a client to a host. -/
def BoundAt (ops : List Op) (cid : String) (host : Address) (place : Nat) : Prop :=
  ∃ op, ops[place]? = some op ∧ op.cid = cid ∧
    op.bindsTo? (current (ops.take place) cid) = some host

/-- The last operation that binds a client is at some place, and binds it to a host. -/
def LastBoundAt (ops : List Op) (cid : String) (host : Address) (place : Nat) : Prop :=
  BoundAt ops cid host place ∧ ∀ later other, BoundAt ops cid other later → later ≤ place

theorem run_append (ops : List Op) (op : Op) : run (ops ++ [op]) = (run ops).step op := by
  rw [run, List.foldl_append]
  rfl

theorem current_append (ops : List Op) (op : Op) (cid : String) :
    current (ops ++ [op]) cid =
      if cid = op.cid then op.after (current ops op.cid) else current ops cid := by
  rw [current, List.filter_append, List.foldl_append]
  by_cases h : cid = op.cid
  · simp [h, current]
  · simp [h, Ne.symm h, current]

theorem boundAt_append {ops : List Op} {op : Op} {cid : String} {host : Address} {place : Nat} :
    BoundAt (ops ++ [op]) cid host place ↔ BoundAt ops cid host place ∨
      place = ops.length ∧ op.cid = cid ∧ op.bindsTo? (current ops cid) = some host := by
  rcases Nat.lt_trichotomy place ops.length with hlt | rfl | hgt
  · have hne : place ≠ ops.length := Nat.ne_of_lt hlt
    simp [BoundAt, List.getElem?_append_left hlt, List.take_append_of_le_length (Nat.le_of_lt hlt),
      hne]
  · simp [BoundAt]
  · have hnone : (ops ++ [op])[place]? = none := by simp; omega
    have hnone' : ops[place]? = none := by simp; omega
    simp [BoundAt, hnone, hnone', Nat.ne_of_gt hgt]

theorem BoundAt.lt_length {ops : List Op} {cid : String} {host : Address} {place : Nat}
    (h : BoundAt ops cid host place) : place < ops.length := by
  obtain ⟨op, hop, -⟩ := h
  exact (List.getElem?_eq_some_iff.mp hop).1

/-! ## One operation -/

section
variable {s : Sessions}

/-- What one operation does to exact sessions: it binds its client, ends the session of its
client, or changes nothing. -/
inductive Effect (s : Sessions) (op : Op) (s' : Sessions) : Prop
  | bound (session : Session)
      (after : op.after (s.get? op.cid) = some session)
      (binds : op.bindsTo? (s.get? op.cid) = some session.host)
      (get? : ∀ c, s'.get? c = if c = op.cid then some session else s.get? c)
      (ids : ∀ h, s'.ids h =
        (s.ids h).filter (· ≠ op.cid) ++ if h = session.host then [op.cid] else [])
  | ended
      (after : op.after (s.get? op.cid) = none)
      (binds : op.bindsTo? (s.get? op.cid) = none)
      (get? : ∀ c, s'.get? c = if c = op.cid then none else s.get? c)
      (ids : ∀ h, s'.ids h = (s.ids h).filter (· ≠ op.cid))
  | kept
      (after : op.after (s.get? op.cid) = s.get? op.cid)
      (binds : op.bindsTo? (s.get? op.cid) = none)
      (same : s' = s)

/-- A move of a client without a session is ignored. -/
theorem effect_rebind (hs : s.Exact) {op : Op} {cid : String} {host : Address}
    (hcid : op.cid = cid)
    (hafter : ∀ before, op.after before = before.map fun session => { session with host := host })
    (hbinds : ∀ before, op.bindsTo? before = before.map fun _ => host) :
    Effect s op (s.rebind cid host).2 := by
  subst hcid
  cases hget : s.get? op.cid with
  | none =>
    refine .kept ?_ ?_ ?_
    · rw [hafter, hget, Option.map_none]
    · rw [hbinds, hget, Option.map_none]
    · rw [rebind_of_none hget]
  | some old =>
    refine .bound { old with host := host } ?_ ?_ (get?_rebind hget host) (ids_rebind hs hget host)
    · rw [hafter, hget, Option.map_some]
    · rw [hbinds, hget, Option.map_some]

theorem effect_step (hs : s.Exact) (op : Op) : Effect s op (s.step op) := by
  cases op with
  | bind cid nat host =>
    exact .bound ⟨cid, nat, host⟩ rfl rfl (get?_bind s cid nat host) (ids_bind hs cid nat host)
  | rebind cid host => exact effect_rebind hs rfl (fun _ => rfl) fun _ => rfl
  | notice cid action host =>
    cases action with
    | add => exact effect_rebind hs rfl (fun _ => rfl) fun _ => rfl
    | remove =>
      show Effect s _ (s.unbind cid host).2
      rcases unbind_cases s cid host with ⟨heq, hother⟩ | ⟨session, hget, rfl, heq⟩
      · refine .kept ?_ rfl (by rw [heq])
        -- Whoever has no session, or one elsewhere, keeps what it has.
        show (s.get? cid).filter (·.host ≠ host) = s.get? cid
        cases hget : s.get? cid with
        | none => rfl
        | some session => exact Option.filter_some_pos (decide_eq_true (hother session hget))
      · rw [heq]
        refine .ended ?_ rfl (get?_erased s cid session.host) (ids_erased hs hget)
        show (s.get? cid).filter (·.host ≠ session.host) = none
        rw [hget, Option.filter_some_neg (by simp)]

theorem Effect.bound_of_binds {s' : Sessions} {op : Op} {host : Address} (h : Effect s op s')
    (hbinds : op.bindsTo? (s.get? op.cid) = some host) :
    ∃ session, session.host = host ∧ op.after (s.get? op.cid) = some session ∧
      (∀ c, s'.get? c = if c = op.cid then some session else s.get? c) ∧
      ∀ h, s'.ids h = (s.ids h).filter (· ≠ op.cid) ++ if h = host then [op.cid] else [] := by
  cases h with
  | bound session after binds get? ids =>
    obtain rfl : session.host = host := Option.some.inj (binds.symm.trans hbinds)
    exact ⟨session, rfl, after, get?, ids⟩
  | ended _ binds _ _ =>
    rw [binds] at hbinds
    cases hbinds
  | kept _ binds _ =>
    rw [binds] at hbinds
    cases hbinds

theorem Exact.step (hs : s.Exact) (op : Op) : (s.step op).Exact := by
  cases op with
  | bind cid nat host => exact exact_bind hs cid nat host
  | rebind cid host => exact exact_rebind hs cid host
  | notice cid action host => exact exact_notice hs cid action host

theorem exact_run (ops : List Op) : (run ops).Exact := by
  induction ops using List.reverseRecOn with
  | nil => exact exact_empty
  | append_singleton ops op ih =>
    rw [run_append]
    exact ih.step op

/-- An operation changes the session of its own client only. -/
theorem get?_step (hs : s.Exact) (op : Op) (cid : String) :
    (s.step op).get? cid = if cid = op.cid then op.after (s.get? op.cid) else s.get? cid := by
  cases effect_step hs op with
  | bound session after _ get? _ => rw [get?, after]
  | ended after _ get? _ => rw [get?, after]
  | kept after _ same =>
    rw [same]
    split
    · next h => rw [after, h]
    · rfl

/-- The operations about a client decide on its session. -/
theorem get?_run (ops : List Op) (cid : String) : (run ops).get? cid = current ops cid := by
  induction ops using List.reverseRecOn generalizing cid with
  | nil => rfl
  | append_singleton ops op ih => rw [run_append, get?_step (exact_run ops), current_append, ih, ih]

end

/-! ## The order of the lists -/

/-- Each session was bound last at its time and to its host, and the lists are sorted by
these times. -/
structure Timed (ops : List Op) (s : Sessions) (time : String → Nat) : Prop where
  last : ∀ {cid session}, s.get? cid = some session → LastBoundAt ops cid session.host (time cid)
  sorted : ∀ host, (s.ids host).Pairwise fun a b => time a < time b

section
variable {ops : List Op} {s s' : Sessions} {time : String → Nat} {op : Op}

/-- An operation that does not bind a client leaves its last binding where it was. -/
theorem LastBoundAt.append {cid : String} {host : Address} {place : Nat}
    (h : LastBoundAt ops cid host place)
    (hno : op.cid = cid → op.bindsTo? (current ops cid) = none) :
    LastBoundAt (ops ++ [op]) cid host place := by
  refine ⟨boundAt_append.mpr (.inl h.1), fun later other hlater => ?_⟩
  rcases boundAt_append.mp hlater with hbefore | ⟨-, hcid, hbinds⟩
  · exact h.2 later other hbefore
  · rw [hno hcid] at hbinds
    cases hbinds

/-- An operation that binds its client is the last one so far that does. -/
theorem lastBoundAt_length {host : Address} (h : op.bindsTo? (current ops op.cid) = some host) :
    LastBoundAt (ops ++ [op]) op.cid host ops.length := by
  refine ⟨boundAt_append.mpr (.inr ⟨rfl, rfl, h⟩), fun later other hlater => ?_⟩
  have hlt := hlater.lt_length
  rw [List.length_append, List.length_singleton] at hlt
  exact Nat.le_of_lt_succ hlt

/-- The client that is bound is put behind all that were bound before. -/
theorem Timed.bound (ht : Timed ops s time) (hs : s.Exact)
    {session : Session}
    (hbinds : op.bindsTo? (current ops op.cid) = some session.host)
    (hget : ∀ c, s'.get? c = if c = op.cid then some session else s.get? c)
    (hids : ∀ h, s'.ids h =
      (s.ids h).filter (· ≠ op.cid) ++ if h = session.host then [op.cid] else []) :
    Timed (ops ++ [op]) s' (Function.update time op.cid ops.length) := by
  refine ⟨fun {cid other} hcid => ?_, fun host => ?_⟩
  · rw [hget] at hcid
    split at hcid
    · next heq =>
      obtain rfl : session = other := Option.some.inj hcid
      rw [heq, Function.update_self]
      exact lastBoundAt_length hbinds
    · next hne =>
      rw [Function.update_of_ne hne]
      exact (ht.last hcid).append fun heq => absurd heq.symm hne
  · have hkept : ∀ c ∈ (s.ids host).filter (· ≠ op.cid),
        Function.update time op.cid ops.length c = time c := fun c hc =>
      Function.update_of_ne (of_decide_eq_true (List.mem_filter.mp hc).2) ..
    have hrest : ((s.ids host).filter (· ≠ op.cid)).Pairwise fun a b =>
        Function.update time op.cid ops.length a < Function.update time op.cid ops.length b := by
      refine ((ht.sorted host).filter _).imp_of_mem fun {a b} ha hb hab => ?_
      rw [hkept a ha, hkept b hb]
      exact hab
    rw [hids, List.pairwise_append]
    refine ⟨hrest, by split <;> simp, fun a ha b hb => ?_⟩
    obtain rfl : b = op.cid := by
      split at hb
      · exact List.mem_singleton.mp hb
      · cases hb
    rw [Function.update_self, hkept a ha]
    -- Whoever is listed was bound before now.
    obtain ⟨other, hother, -⟩ := hs.listed.mp (List.mem_filter.mp ha).1
    exact (ht.last hother).1.lt_length

/-- Nobody is bound; whoever stays on a list stays in its place. -/
theorem Timed.thinned (ht : Timed ops s time)
    (hbinds : op.bindsTo? (current ops op.cid) = none)
    (hget : ∀ {cid session}, s'.get? cid = some session → s.get? cid = some session)
    (hids : ∀ h, (s'.ids h).Sublist (s.ids h)) : Timed (ops ++ [op]) s' time where
  last hcid := (ht.last (hget hcid)).append fun heq => heq ▸ hbinds
  sorted host := (ht.sorted host).sublist (hids host)

theorem Timed.step (ht : Timed ops (run ops) time) (op : Op) :
    ∃ time', Timed (ops ++ [op]) (run (ops ++ [op])) time' := by
  rw [run_append]
  cases effect_step (exact_run ops) op with
  | bound session after binds get? ids =>
    rw [get?_run] at binds
    exact ⟨_, ht.bound (exact_run ops) binds get? ids⟩
  | ended after binds get? ids =>
    rw [get?_run] at binds
    refine ⟨_, ht.thinned binds (fun {cid session} h => ?_) fun h => ?_⟩
    · rw [get?] at h
      split at h
      · cases h
      · exact h
    · rw [ids]
      exact List.filter_sublist
  | kept after binds same =>
    rw [get?_run] at binds
    rw [same]
    exact ⟨_, ht.thinned binds id fun h => List.Sublist.refl _⟩

end

theorem timed_run (ops : List Op) : ∃ time, Timed ops (run ops) time := by
  induction ops using List.reverseRecOn with
  | nil => exact ⟨fun _ => 0, ⟨fun h => by simp [run, empty, get?] at h, fun host => .nil⟩⟩
  | append_singleton ops op ih =>
    obtain ⟨time, ht⟩ := ih
    exact ht.step op

/-! ## Reading the lists -/

/-- Striking a client from a list of clients strikes its session from what is read off. -/
theorem filterMap_others {s s' : Sessions} {cid : String} (hs : s.Exact)
    (hget : ∀ c, c ≠ cid → s'.get? c = s.get? c) (l : List String) :
    (l.filter (· ≠ cid)).filterMap s'.get? = (l.filterMap s.get?).filter (·.cid ≠ cid) := by
  rw [List.filter_filterMap, List.filterMap_filter]
  refine List.filterMap_congr fun c _ => ?_
  by_cases hc : c = cid
  · rw [if_neg (by simp [hc])]
    cases h : s.get? c with
    | none => rfl
    | some old => rw [Option.filter_some_neg (by simp [hs.named h, hc])]
  · rw [if_pos (decide_eq_true hc), hget c hc]
    cases h : s.get? c with
    | none => rfl
    | some old => rw [Option.filter_some_pos (by simp [hs.named h, hc])]

/-- A client that is bound to a host is taken out of the list and put last on it, with its
session as it is then. -/
theorem ofHost_bound {s : Sessions} (hs : s.Exact) {op : Op} {host : Address}
    (hbinds : op.bindsTo? (s.get? op.cid) = some host) :
    ∃ session, op.after (s.get? op.cid) = some session ∧
      (s.step op).ofHost host = (s.ofHost host).filter (·.cid ≠ op.cid) ++ [session] := by
  obtain ⟨session, -, hafter, hget, hids⟩ := (effect_step hs op).bound_of_binds hbinds
  have hothers := filterMap_others hs (fun c hc => by rw [hget, if_neg hc]) (s.ids host)
  refine ⟨session, hafter, ?_⟩
  show ((s.step op).ids host).filterMap (s.step op).get? = _
  rw [hids, if_pos rfl, List.filterMap_append, hothers, List.filterMap_cons_some (by
    rw [hget, if_pos rfl]), List.filterMap_nil]
  rfl

/-- **Listed in the order of binding.** After any operations the sessions listed for a host
are those that the operations have left bound to it, each as it is now and once, and each was
bound to it by the last operation that bound its client at all. They stand in the order of
these operations. So whoever is bound to a host, even to the one it is on, moves to the end
of its list. -/
theorem listed_in_binding_order (ops : List Op) (host : Address) :
    (∀ session, session ∈ (run ops).ofHost host ↔
      current ops session.cid = some session ∧ session.host = host) ∧
    (((run ops).ofHost host).map (·.cid)).Nodup ∧
    (∃ time : String → Nat,
      (∀ session ∈ (run ops).ofHost host, LastBoundAt ops session.cid host (time session.cid)) ∧
      ((run ops).ofHost host).Pairwise fun a b => time a.cid < time b.cid) ∧
    ∀ op, op.bindsTo? (current ops op.cid) = some host →
      ∃ session, op.after (current ops op.cid) = some session ∧
        (run (ops ++ [op])).ofHost host =
          ((run ops).ofHost host).filter (·.cid ≠ op.cid) ++ [session] := by
  have hs := exact_run ops
  obtain ⟨time, ht⟩ := timed_run ops
  refine ⟨fun session => ?_, ?_, ⟨time, fun session hmem => ?_, ?_⟩, fun op hbinds => ?_⟩
  · rw [mem_ofHost hs, get?_run]
  · rw [map_cid_ofHost hs]
    exact hs.once host
  · obtain ⟨hget, rfl⟩ := (mem_ofHost hs).mp hmem
    exact ht.last hget
  · have hsorted := ht.sorted host
    rw [← map_cid_ofHost hs, List.pairwise_map] at hsorted
    exact hsorted
  · rw [← get?_run] at hbinds ⊢
    rw [run_append]
    exact ofHost_bound hs hbinds

end RelayBroker.Sessions
