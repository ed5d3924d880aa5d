/-
  RelayBroker.Proofs.Traffic.Retirement

  A host that a rescale retires stays retired until it polls again. The rescale takes it
  out of the directory, and only its own poll could put it back (`Change.host?_of_after`).
  All else follows from its having no current record: what is pooled and what waits under
  a session id is current (`Broker.gone_of_host?`), sessions are moved to pooled hosts
  only (`Relocation.Moves.target`), and a match concludes nothing with a host that is not
  in the directory (`Broker.concludeMatch_of_gone`).

  Main statement: `retired_until_next_poll`.
-/

import RelayBroker.Proofs.Traffic.Migration
import RelayBroker.Proofs.Traffic.Succession

namespace RelayBroker

namespace Relocation

/-- Sessions are moved to hosts that were pooled when the loop started. -/
theorem Moves.target {retiring : List Address} {r₀ r : Relocation} (hm : Moves retiring r₀ r)
    {m : Migration} (hin : m ∈ r.migrations) :
    m ∈ r₀.migrations ∨ ∃ proxy, r₀.pools.proxy? m.target = some proxy := by
  induction hm with
  | refl => exact .inl hin
  | tail hmoves hstep ih =>
    obtain ⟨session, slot, pools, -, -, -, hr⟩ := hstep
    rcases List.mem_append.mp hin with hbefore | hlast
    · exact ih hbefore
    · -- The move that was just made goes to the proxy that was borrowed for it.
      obtain rfl := List.mem_singleton.mp hlast
      have hsame := Moves.proxy? hmoves slot.proxy.addr
      exact .inr ⟨slot.proxy, hsame.symm.trans hr.proxy?_before⟩

end Relocation

namespace Broker

/-- No record of a host is in a pool or in an index of the directory. -/
structure Gone (b : Broker) (a : Address) : Prop where
  pooled : ∀ slot ∈ b.pools.slots, slot.proxy.addr ≠ a
  current : b.directory.host? a = none
  waiting : ∀ sid proxy, b.directory.session? sid = some proxy → proxy.addr ≠ a

section
variable {b : Broker} {records : List Proxy} {a : Address}

/-- A pooled host has a current record. -/
theorem InOrder.host?_of_pooled (h : b.InOrder records) {addr : Address} {proxy : Proxy}
    (hp : b.pools.proxy? addr = some proxy) : b.directory.host? addr = some proxy :=
  (h.agrees.of_pooled hp).1

/-- A host without a current record is nowhere. -/
theorem gone_of_host? (h : b.InOrder records) (hd : b.directory.Coherent)
    (hnone : b.directory.host? a = none) : b.Gone a where
  pooled slot hslot := by
    rintro rfl
    have hin := (Pools.mem_slots_iff h.agrees.sorted).mp hslot
    rw [h.host?_of_pooled (Pools.proxy?_eq_some_iff.mpr ⟨slot.load, hin⟩)] at hnone
    cases hnone
  current := hnone
  waiting sid proxy hwaits := by
    rintro rfl
    rw [hd.current hwaits] at hnone
    cases hnone

theorem InOrder.addr_ne_of_borrow (h : b.InOrder records) (hnone : b.directory.host? a = none)
    {nat : NatClass} {proxy : Proxy} (hb : (b.borrow nat).1 = some proxy) : proxy.addr ≠ a := by
  rintro rfl
  rw [h.host?_of_pooled (h.agrees.pooled_of_borrow (Prod.ext hb rfl))] at hnone
  cases hnone

end

end Broker

/-- A rescale moves no session to a host that has no current record. -/
theorem Traffic.target_ne_of_startRescale {t : Traffic} {records : List Proxy} {a : Address}
    (h : t.broker.InOrder records) (hnone : t.broker.directory.host? a = none)
    (retiring incoming : List Address) :
    ∀ m ∈ migrationsOf (t.startRescale retiring incoming), m.target ≠ a := by
  obtain ⟨r, hmoves, -, -, hmigrations⟩ :=
    startRescale_moves h.agrees.sorted h.exact retiring incoming
  intro m hm
  rw [hmigrations] at hm
  rintro rfl
  rcases hmoves.target hm with hin | ⟨proxy, hp⟩
  · cases hin
  · -- What is pooled when the loop starts was pooled before the hosts retired.
    have hpooled : t.broker.pools.proxy? m.target = some proxy := by
      rw [Pools.proxy?, Relocation.start, Pools.slot?_removeAll h.agrees.sorted] at hp
      split at hp
      · cases hp
      · exact hp
    rw [h.host?_of_pooled hpooled] at hnone
    cases hnone

namespace History

/-- A host that retires leaves the directory. -/
theorem host?_rescaled (setup : Setup) (s : History) {retiring incoming : List Address}
    {a : Address} (retires : a ∈ retiring) :
    (s.step setup (.rescale retiring incoming)).2.broker.directory.host? a = none := by
  have hc := step_change setup s (.rescale retiring incoming)
  generalize (s.step setup (.rescale retiring incoming)).1 = o at hc
  generalize (s.step setup (.rescale retiring incoming)).2 = s' at hc
  rcases hc.rescale_cases with ⟨rfl, -, -⟩ | ⟨stranded, b, relocated, -, rfl⟩ |
    ⟨migrations, stranded, b, relocated, -, -, rfl⟩
  · cases retires
  · rw [broker_setBroker, (Broker.sameStores_concludeRescale ..).directory,
      Broker.directory_relocate relocated, Directory.host?_removeAll, if_pos retires]
  · rw [broker_wait, broker_setBroker, Broker.directory_relocate relocated,
      Directory.host?_removeAll, if_pos retires]

/-- A retired host has no current record until it polls, and whatever match waits for one
of its records was waiting when it retired. -/
theorem retired_kept (setup : Setup) (events more : List Event) {retiring incoming : List Address}
    {a : Address} (retires : a ∈ retiring) (quiet : ∀ poll, .register poll ∈ more → poll.addr ≠ a) :
    let s := run setup (events ++ .rescale retiring incoming :: more)
    s.broker.directory.host? a = none ∧
      ∀ n m, s.call? n = some (.matching m) → m.proxy.addr = a →
        (run setup events).call? n = some (.matching m) := by
  -- The induction is on the events after the rescale, the last one first.
  induction more using List.reverseRecOn with
  | nil =>
    rw [run_append]
    refine ⟨host?_rescaled setup _ retires, fun n m hn _ => ?_⟩
    rcases (step_change setup _ _).matching_of_after hn with hbefore | ⟨request, he, -⟩
    · exact hbefore
    · cases he
  | append_singleton more e ih =>
    obtain ⟨hnone, hcalls⟩ := ih fun poll hin => quiet poll (List.mem_append_left _ hin)
    have hc := step_change setup (run setup (events ++ .rescale retiring incoming :: more)) e
    rw [← List.cons_append, ← List.append_assoc, run_append]
    constructor
    · -- The host could only have come back by a poll of its own.
      rw [Option.eq_none_iff_forall_ne_some]
      intro p hcur
      rcases hc.host?_of_after hcur with hbefore | ⟨poll, rfl, haddr⟩
      · rw [hnone] at hbefore
        cases hbefore
      · exact quiet poll (by simp) haddr
    · intro n m hn haddr
      rcases hc.matching_of_after hn with hbefore | ⟨request, rfl, hborrowed⟩
      · exact hcalls n m hbefore haddr
      · have horder := (run_sound setup (events ++ .rescale retiring incoming :: more)).order
        exact absurd haddr (horder.addr_ne_of_borrow hnone hborrowed)

/-- Once a rescale has retired a host, and until the host polls again, the host is in
neither pool and in neither index of the directory; no record of it is handed out, and
no session is moved to it. A match that waits for a record of it has waited since before
the rescale, and however it ends, it fails and binds nobody. -/
theorem retired_until_next_poll (setup : Setup) (events more : List Event)
    (retiring incoming : List Address) (a : Address) (retires : a ∈ retiring)
    (quiet : ∀ poll, .register poll ∈ more → poll.addr ≠ a) :
    let s := run setup (events ++ .rescale retiring incoming :: more)
    s.broker.Gone a ∧
    (∀ nat proxy, (s.broker.borrow nat).1 = some proxy → proxy.addr ≠ a) ∧
    (∀ others newcomers, ∀ m ∈ Traffic.migrationsOf (s.traffic.startRescale others newcomers),
      m.target ≠ a) ∧
    (∀ n m, s.call? n = some (.matching m) → m.proxy.addr = a →
      (run setup events).call? n = some (.matching m) ∧
      ∀ e r, e.call? = some n → (s.step setup e).1 = some (.matched r) →
        (∃ error, r = .error error) ∧
          (s.step setup e).2.broker.sessions = s.broker.sessions) := by
  intro s
  obtain ⟨hnone, hcalls⟩ := retired_kept setup events more retires quiet
  have horder : s.broker.InOrder s.records := (run_sound setup _).order
  refine ⟨Broker.gone_of_host? horder (run_coherent setup _) hnone,
    fun nat proxy => horder.addr_ne_of_borrow hnone,
    fun others newcomers => Traffic.target_ne_of_startRescale horder hnone others newcomers, ?_⟩
  rintro n m hn rfl
  refine ⟨hcalls n m hn rfl, ?_⟩
  intro e r goesOn hout
  rcases (step_change setup s e).match_ends goesOn hn with
    ⟨hnothing, -⟩ | ⟨b, reply, hsame, -, ho, hs'⟩
  · rw [hnothing] at hout
    cases hout
  · -- The match is concluded in a directory without its host.
    have hgone : b.directory.host? m.proxy.addr = none := by rw [hsame.directory]; exact hnone
    obtain ⟨⟨error, herror⟩, hsessions⟩ := Broker.concludeMatch_of_gone hgone m.request reply
    rw [ho, herror] at hout
    cases hout
    refine ⟨⟨error, rfl⟩, ?_⟩
    rw [hs', broker_endCall, broker_setBroker, hsessions, hsame.sessions]

/-- A host carries a client and is being matched with another one when it retires. There is
no other host yet, so the rescale leaves the first client behind. -/
def retiredInHandshake : List Event :=
  let request (cid : String) : Event := .startMatch ⟨cid, .unrestricted, "", "a=candidate:1"⟩
  [.register ⟨"s1", "standalone", .unrestricted, .v4 10 0 0 1, 0, true⟩, request "c1",
    .reply 0 (.ok "ANSWER"), request "c2"]

/-- Another host polls, and the rescale is tried again. -/
def triedAgain : List Event :=
  [.register ⟨"s2", "standalone", .unrestricted, .v4 10 0 0 2, 0, true⟩,
    .rescale [.v4 10 0 0 1] [.v4 10 0 0 2]]

/-- The second rescale moves the first client, and the answer for the second client comes
too late. -/
theorem answer_after_retirement_binds_nobody :
    let setup : Setup := ⟨Settings.standard, Catalog.builtin⟩
    let host : Address := .v4 10 0 0 1
    let s := run setup (retiredInHandshake ++ .rescale [host] [] :: triedAgain)
    let answer : Event := .reply 1 (.ok "ANSWER")
    host ∈ [host] ∧ (∀ poll, .register poll ∈ triedAgain → poll.addr ≠ host) ∧
      s.broker.Gone host ∧ s.broker.sessions.get? "c1" = some ⟨"c1", .unrestricted, .v4 10 0 0 2⟩ ∧
      (s.step setup answer).1 =
        some (.matched (.error (.signaling "proxy retired during handshake"))) ∧
      (s.step setup answer).2.broker.sessions = s.broker.sessions := by
  intro setup host s answer
  have retires : host ∈ [host] := List.mem_singleton_self host
  have quiet : ∀ poll, .register poll ∈ triedAgain → poll.addr ≠ host := by
    simp [triedAgain, host]
  obtain ⟨hgone, -, -, hends⟩ :=
    retired_until_next_poll setup retiredInHandshake triedAgain [host] [] host retires quiet
  have hwaits : s.call? 1 = some (.matching ⟨⟨"c2", .unrestricted, "", "a=candidate:1"⟩,
      ⟨0, "s1", "standalone", .unrestricted, host, 0⟩,
      ⟨"unrestricted", "a=candidate:1", "2B280B23E1107BB62ABFC40DDCC8824814F80A72", "c2"⟩,
      none⟩) := by decide +kernel
  have hout : (s.step setup answer).1 =
      some (.matched (.error (.signaling "proxy retired during handshake"))) := by decide +kernel
  have hsessions := ((hends 1 _ hwaits rfl).2 answer _ rfl hout).2
  have hmoved : s.broker.sessions.get? "c1" = some ⟨"c1", .unrestricted, .v4 10 0 0 2⟩ := by
    decide +kernel
  -- Left to itself, the unifier would compute both runs.
  refine ⟨retires, quiet, ?_, hmoved, hout, ?_⟩
  · with_reducible exact hgone
  · with_reducible exact hsessions

end History

end RelayBroker
