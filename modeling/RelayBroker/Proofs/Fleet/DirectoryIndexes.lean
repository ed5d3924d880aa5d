/-
  RelayBroker.Proofs.Fleet.DirectoryIndexes

  The session index of a directory against its host index. A directory is `Coherent` if
  each record that waits under a session id waits under its own id and is the current
  record of its host.

  Records come into a directory by `insert` alone. What else is done to it is a chain of
  losses (`Shrinks`): a record stops waiting, or a host is forgotten. Nothing is found
  after a loss that was not found before it, and both indexes stay coherent.

  A record is listed while it waits under its session id (`Lists`). For each operation
  there is a lemma that says which listed records it leaves.
-/

import Mathlib.Logic.Relation
import RelayBroker.Proofs.Fleet.DirectoryView

namespace RelayBroker.Directory

/-! ## The session index -/

/-- What waits under a session id after a record has stopped waiting: the entry of its
own id is gone, if it was that of the same poll. -/
theorem session?_consume (d : Directory) (proxy : Proxy) (sid : String) :
    (d.consume proxy).2.session? sid =
      if sid = proxy.sid then (d.session? sid).filter (·.poll ≠ proxy.poll)
      else d.session? sid := by
  have herased : session? { d with bySession := d.bySession.erase proxy.sid } sid =
      if sid = proxy.sid then none else d.session? sid :=
    Table.get?_erase ..
  rw [consume]
  split
  · next current hcur =>
    split
    · next hpoll =>
      rw [herased]
      split
      · next hsid => rw [hsid, hcur, Option.filter_some_neg (by simp [hpoll])]
      · rfl
    · -- A later poll waits under the id, and stays.
      next hpoll =>
      split
      · next hsid => rw [hsid, hcur, Option.filter_some_pos (by simpa using hpoll)]
      · rfl
  · next hnone =>
    split
    · next hsid => rw [hsid, hnone]; rfl
    · rfl

theorem session?_of_consume {d : Directory} {proxy p : Proxy} {sid : String}
    (h : (d.consume proxy).2.session? sid = some p) : d.session? sid = some p := by
  rw [session?_consume] at h
  split at h
  · exact (Option.filter_eq_some_iff.mp h).1
  · exact h

theorem not_session?_consume {d : Directory} {proxy : Proxy} :
    (d.consume proxy).2.session? proxy.sid ≠ some proxy := by
  rw [session?_consume, if_pos rfl]
  intro h
  simpa using (Option.filter_eq_some_iff.mp h).2

/-- Who stops waiting does not depend on the host index. -/
theorem session?_consume_setHosts (d : Directory) (hosts : Table Address Proxy) (proxy : Proxy)
    (sid : String) :
    (({ d with byHost := hosts } : Directory).consume proxy).2.session? sid =
      (d.consume proxy).2.session? sid := by
  rw [session?_consume, session?_consume]
  rfl

/-- The directory after the record of a host, if it has one, has stopped waiting. -/
def vacate (d : Directory) (addr : Address) : Directory :=
  match d.host? addr with
  | some old => (d.consume old).2
  | none => d

theorem session?_vacate {d : Directory} {addr : Address} {p : Proxy} {sid : String} :
    (d.vacate addr).session? sid = some p ↔
      d.session? sid = some p ∧ ∀ old, d.host? addr = some old →
        (d.consume old).2.session? sid = some p := by
  rw [vacate]
  constructor
  · intro h
    split at h
    · next old hold =>
      refine ⟨session?_of_consume h, fun other hother => ?_⟩
      obtain rfl : old = other := Option.some.inj (hold.symm.trans hother)
      exact h
    · next hnone => exact ⟨h, fun other hother => by rw [hnone] at hother; cases hother⟩
  · rintro ⟨hbefore, hkept⟩
    split
    · next old hold => exact hkept old hold
    · exact hbefore

/-- A host that is forgotten is struck from the session index, and nobody else. -/
theorem session?_removeHost_eq (d : Directory) (addr : Address) (sid : String) :
    (d.removeHost addr).2.session? sid = (d.vacate addr).session? sid := by
  rw [removeHost, vacate]
  split
  · next hnone => rw [hnone]
  · next old hold =>
    rw [hold]
    exact session?_consume_setHosts d _ old sid

/-- A record that is entered waits under its own session id, whoever waited there before. -/
theorem session?_insert_eq (d : Directory) (proxy : Proxy) (sid : String) :
    (d.insert proxy).2.session? sid =
      if sid = proxy.sid then some proxy else (d.vacate proxy.addr).session? sid := by
  rw [session?, insert, Table.get?_insert, vacate]
  cases d.host? proxy.addr with
  | none => rfl
  | some old =>
    congr 1
    exact session?_consume_setHosts d _ old sid

theorem session?_insert {d : Directory} {proxy p : Proxy} {sid : String}
    (h : (d.insert proxy).2.session? sid = some p) :
    sid = proxy.sid ∧ p = proxy ∨
      d.session? sid = some p ∧ ∀ old, d.host? proxy.addr = some old →
        (d.consume old).2.session? sid = some p := by
  rw [session?_insert_eq] at h
  split at h
  · next hsid => exact .inl ⟨hsid, (Option.some.inj h).symm⟩
  · -- Any other entry was there before, and is not that of the record that was replaced.
    exact .inr (session?_vacate.mp h)

theorem session?_removeHost {d : Directory} {addr : Address} {p : Proxy} {sid : String}
    (h : (d.removeHost addr).2.session? sid = some p) :
    d.session? sid = some p ∧ ∀ old, d.host? addr = some old →
      (d.consume old).2.session? sid = some p := by
  rw [session?_removeHost_eq] at h
  exact session?_vacate.mp h

/-! ## Losses -/

/-- A record stops waiting, or a host is forgotten. -/
inductive Loses (d : Directory) : Directory → Prop
  | consumed (proxy : Proxy) : Loses d (d.consume proxy).2
  | forgotten (addr : Address) : Loses d (d.removeHost addr).2

/-- Any number of losses. -/
abbrev Shrinks : Directory → Directory → Prop :=
  Relation.ReflTransGen Loses

section
variable {d d' : Directory}

theorem shrinks_consume (d : Directory) (proxy : Proxy) : d.Shrinks (d.consume proxy).2 :=
  .single (.consumed proxy)

theorem shrinks_removeHost (d : Directory) (addr : Address) : d.Shrinks (d.removeHost addr).2 :=
  .single (.forgotten addr)

theorem shrinks_removeAll (d : Directory) (hosts : List Address) :
    d.Shrinks (d.removeAll hosts) := by
  induction hosts generalizing d with
  | nil => exact .refl
  | cons host hosts ih => exact (d.shrinks_removeHost host).trans (ih _)

theorem host?_of_shrinks (h : d.Shrinks d') {a : Address} {p : Proxy}
    (hcur : d'.host? a = some p) : d.host? a = some p := by
  induction h with
  | refl => exact hcur
  | tail _ hloss ih =>
    cases hloss with
    | consumed proxy =>
      rw [host?_consume] at hcur
      exact ih hcur
    | forgotten addr => exact ih (host?_of_removeHost hcur)

end

/-! ## Coherent indexes -/

/-- Each record that waits under a session id waits under its own, and is the current
record of its host. -/
structure Coherent (d : Directory) : Prop where
  named : ∀ {sid p}, d.session? sid = some p → p.sid = sid
  current : ∀ {sid p}, d.session? sid = some p → d.host? p.addr = some p

theorem coherent_empty : empty.Coherent where
  named h := by simp [empty, session?] at h
  current h := by simp [empty, session?] at h

section
variable {d d' : Directory}

/-- The current record of a host that is replaced or forgotten waits under no id. -/
theorem Coherent.addr_ne (h : d.Coherent) {sid : String} {addr : Address} {p : Proxy}
    (hwaits : d.session? sid = some p)
    (hkept : ∀ old, d.host? addr = some old → (d.consume old).2.session? sid = some p) :
    p.addr ≠ addr := by
  rintro rfl
  have hgone := hkept p (h.current hwaits)
  rw [← h.named hwaits] at hgone
  exact not_session?_consume hgone

theorem Coherent.insert (h : d.Coherent) (proxy : Proxy) : (d.insert proxy).2.Coherent where
  named {sid p} hwaits := by
    rcases session?_insert hwaits with ⟨rfl, rfl⟩ | ⟨hbefore, -⟩
    · rfl
    · exact h.named hbefore
  current {sid p} hwaits := by
    rw [host?_insert]
    rcases session?_insert hwaits with ⟨rfl, rfl⟩ | ⟨hbefore, hkept⟩
    · exact if_pos rfl
    · rw [if_neg (h.addr_ne hbefore hkept)]
      exact h.current hbefore

theorem Coherent.loses (h : d.Coherent) (hloss : d.Loses d') : d'.Coherent := by
  cases hloss with
  | consumed proxy =>
    refine ⟨fun hwaits => h.named (session?_of_consume hwaits), fun hwaits => ?_⟩
    rw [host?_consume]
    exact h.current (session?_of_consume hwaits)
  | forgotten addr =>
    refine ⟨fun hwaits => h.named (session?_removeHost hwaits).1, fun hwaits => ?_⟩
    obtain ⟨hbefore, hkept⟩ := session?_removeHost hwaits
    rw [host?_removeHost, if_neg (h.addr_ne hbefore hkept)]
    exact h.current hbefore

theorem Coherent.shrinks (h : d.Coherent) (hs : d.Shrinks d') : d'.Coherent := by
  induction hs with
  | refl => exact h
  | tail _ hloss ih => exact ih.loses hloss

end

/-! ## Listed records -/

/-- A record waits under its session id. -/
def Lists (d : Directory) (proxy : Proxy) : Prop :=
  d.session? proxy.sid = some proxy

/-- The current records stand at their hosts, and a record is told apart from them by its
poll. -/
structure Tells (d : Directory) (p : Proxy) : Prop where
  coherent : d.Coherent
  placed : ∀ {a q}, d.host? a = some q → q.addr = a
  unique : ∀ {a q}, d.host? a = some q → q.poll = p.poll → q = p

section
variable {d d' : Directory} {p proxy : Proxy}

theorem Tells.shrinks (h : d.Tells p) (hs : d.Shrinks d') : d'.Tells p where
  coherent := h.coherent.shrinks hs
  placed hcur := h.placed (host?_of_shrinks hs hcur)
  unique hcur := h.unique (host?_of_shrinks hs hcur)

/-- A listed record is the current one of its host, and the only one there. -/
theorem Tells.eq_of_listed (h : d.Tells p) (hlists : d.Lists p) {q : Proxy}
    (hcur : d.host? p.addr = some q) : q = p :=
  Option.some.inj (hcur.symm.trans (h.coherent.current hlists))

theorem lists_consume (hpoll : proxy.poll = p.poll → proxy = p) :
    (d.consume proxy).2.Lists p ↔ d.Lists p ∧ proxy ≠ p := by
  rw [Lists, session?_consume]
  split
  · rw [Option.filter_eq_some_iff]
    refine and_congr_right fun _ => ?_
    rw [decide_eq_true_eq]
    exact ⟨fun hne heq => hne (by rw [heq]), fun hne heq => hne (hpoll heq.symm)⟩
  · next hsid => exact (and_iff_left fun heq => hsid (by rw [heq])).symm

theorem Tells.lists_vacate (h : d.Tells p) (addr : Address) :
    (d.vacate addr).Lists p ↔ d.Lists p ∧ p.addr ≠ addr := by
  rw [vacate]
  split
  · next old hold =>
    rw [lists_consume (h.unique hold)]
    refine and_congr_right fun hlists => ?_
    constructor
    · rintro hne rfl
      exact hne (h.eq_of_listed hlists hold)
    · rintro haddr rfl
      exact haddr (h.placed hold)
  · next hnone =>
    refine (and_iff_left_of_imp fun hlists => ?_).symm
    rintro rfl
    rw [h.coherent.current hlists] at hnone
    cases hnone

theorem Tells.lists_removeHost (h : d.Tells p) (addr : Address) :
    (d.removeHost addr).2.Lists p ↔ d.Lists p ∧ p.addr ≠ addr := by
  rw [← h.lists_vacate, Lists, session?_removeHost_eq]
  rfl

theorem Tells.lists_removeAll (h : d.Tells p) (hosts : List Address) :
    (d.removeAll hosts).Lists p ↔ d.Lists p ∧ p.addr ∉ hosts := by
  induction hosts generalizing d with
  | nil => simp [removeAll]
  | cons host hosts ih =>
    show ((d.removeHost host).2.removeAll hosts).Lists p ↔ _
    rw [ih (h.shrinks (d.shrinks_removeHost host)), h.lists_removeHost, and_assoc,
      List.mem_cons, not_or]

/-- A record that is entered takes over its session id, and the place of its host. -/
theorem Tells.lists_insert (h : d.Tells p) (hne : p ≠ proxy) :
    (d.insert proxy).2.Lists p ↔ d.Lists p ∧ p.addr ≠ proxy.addr ∧ p.sid ≠ proxy.sid := by
  rw [Lists, session?_insert_eq]
  split
  · next hsid => simp [hsid, hne.symm]
  · next hsid =>
    rw [and_iff_left hsid]
    exact h.lists_vacate _

theorem lists_insert_self (d : Directory) (proxy : Proxy) : (d.insert proxy).2.Lists proxy := by
  rw [Lists, session?_insert_eq, if_pos rfl]

end

end RelayBroker.Directory
