/-
  RelayBroker.Proofs.Http.HostIdentity

  A host is one host under all of its names. A proxy that polls is entered under the canonical
  form of the address of its host (`entered_canonical`), and this form is what every name of the
  host stands for (`Address.ofHostName_of_names`). So an order that names hosts, by whatever
  names, takes out the records that were entered from these hosts, and no others
  (`retired_named`).

  Main statement: `one_identity_per_host`.
-/

import RelayBroker.Http.Service
import RelayBroker.Proofs.Address.HostName
import RelayBroker.Proofs.Http.Dispatch
import RelayBroker.Proofs.Traffic.Attendance
import RelayBroker.Proofs.Traffic.Succession

namespace RelayBroker

/-! ## The records of some hosts -/

namespace Broker

/-- Some hosts have `record` in the directory and in the pools, or nothing, and all other hosts
have what they had. -/
structure Replaces (b b' : Broker) (hosts : List Address) (record : Option Proxy) : Prop where
  current : ∀ a, b'.directory.host? a = if a ∈ hosts then record else b.directory.host? a
  pooled : ∀ a, b'.pools.proxy? a = if a ∈ hosts then record else b.pools.proxy? a

theorem replaces_register {b : Broker} (hs : b.pools.Sorted) (poll : Announcement) :
    b.Replaces (b.register poll).2 [poll.addr] (some (b.register poll).1) := by
  refine ⟨fun a => ?_, fun a => ?_⟩
  · simp only [register, Directory.host?_insert, List.mem_singleton]
  · simp only [register, Pools.proxy?, Pools.slot?_insert hs, List.mem_singleton]
    split <;> rfl

end Broker

namespace Traffic

/-- An order takes its hosts out of the directory, whether it ends at once or waits for its
instructions. -/
theorem directory_startRescale (t : Traffic) (retiring incoming : List Address) :
    (t.startRescale retiring incoming).2.broker.directory =
      t.broker.directory.removeAll retiring := by
  rcases t.startRescale_cases retiring incoming with ⟨rfl, -, heq⟩ | ⟨stranded, b, hrel, heq⟩ |
    ⟨migrations, stranded, b, hrel, -, heq⟩
  · rw [heq]
    rfl
  · rw [heq]
    exact (Broker.sameStores_concludeRescale ..).directory.trans (Broker.directory_relocate hrel)
  · rw [heq]
    exact Broker.directory_relocate hrel

theorem proxy?_startRescale {t : Traffic} (hs : t.broker.pools.Sorted)
    (he : t.broker.sessions.Exact) (retiring incoming : List Address) (a : Address) :
    (t.startRescale retiring incoming).2.broker.pools.proxy? a =
      if a ∈ retiring then none else t.broker.pools.proxy? a := by
  have hrelocate := Broker.proxy?_relocate hs he retiring a
  rcases t.startRescale_cases retiring incoming with ⟨rfl, -, heq⟩ | ⟨stranded, b, hrel, heq⟩ |
    ⟨migrations, stranded, b, hrel, -, heq⟩
  · rw [heq]
    rfl
  · rw [hrel] at hrelocate
    rw [heq, ← hrelocate]
    exact congrArg (Pools.proxy? · a) (Broker.sameStores_concludeRescale ..).pools
  · rw [hrel] at hrelocate
    rw [heq]
    exact hrelocate

end Traffic

theorem History.run_orderly {setup : Setup} (mode : setup.settings.mode = .mailbox)
    (events : List Event) : (run setup events).Orderly :=
  run_induction orderly_start (fun s e h => h.change mode (step_change setup s e)) events

/-! ## Orders -/

theorem Wire.RescaleOrder.mapM_names {hosts : List Address} {names : List String}
    (h : List.Forall₂ Address.Names hosts names) :
    names.mapM Address.ofHostName = .ok (hosts.map Address.canonical) := by
  induction h with
  | nil => rfl
  | cons hname _ ih =>
    rw [List.mapM_cons, Address.ofHostName_of_names hname, ih]
    rfl

namespace Service

open Http

/-- A request is sent to a route, and its body is not too long. -/
structure Posted (setup : Setup) (route : Route) (request : Request) : Prop where
  method : request.method = "POST"
  path : Route.ofPath? request.path = some route
  fits : request.body.length ≤ setup.settings.maxBodySize

/-- A request to retire some hosts, each by one of its names, that is well-formed. -/
structure Orders (setup : Setup) (hosts : List Address) (request : Request) : Prop where
  posted : Posted setup .rescale request
  authorized : isAuthorized setup request = true
  written : ∃ order incoming,
    Wire.decodeBody "rescale" Wire.RescaleOrder.shape request.body = .ok order ∧
      List.Forall₂ Address.Names hosts order.retiring ∧
      order.incoming.mapM Address.ofHostName = .ok incoming

section
variable {setup : Setup} {request : Request}

theorem handle_posted {route : Route} (h : Posted setup route request) (s : Service)
    (peer : Address) {handled : Handling × Service}
    (hhandled : s.handleRoute setup peer.canonical request route = .ok handled) :
    s.handle setup peer request = handled := by
  have hfits : ¬ setup.settings.maxBodySize < request.body.length := Nat.not_lt.mpr h.fits
  have hrobots : request.path ≠ "/robots.txt" := by
    intro heq
    have hpath := h.path
    rw [heq] at hpath
    cases hpath
  have hdebug : request.path ≠ "/debug" := by
    intro heq
    have hpath := h.path
    rw [heq] at hpath
    cases hpath
  simp [handle, h.method, hrobots, hdebug, h.path, hfits, hhandled]

theorem Orders.decode {hosts : List Address} (h : Orders setup hosts request) :
    ∃ incoming, Wire.RescaleOrder.decode request.body =
      .ok (hosts.map Address.canonical, incoming) := by
  obtain ⟨order, incoming, hwritten, hnamed, hincoming⟩ := h.written
  refine ⟨incoming, ?_⟩
  rw [Wire.RescaleOrder.decode, hwritten]
  simp only [bind, Except.bind, Wire.RescaleOrder.mapM_names hnamed, hincoming]
  rfl

/-- What the poll of a host announces. -/
def announced (poll : Wire.ProxyPoll) (host : Address) : Broker.Announcement where
  sid := poll.sid
  type := poll.effectiveType
  nat := NatClass.parse poll.nat
  addr := host
  clients := poll.clients
  pattern := poll.relayPattern.isSome

/-- In either mode a poll enters its record under the canonical address of its peer, also if it
then waits for its offer. -/
theorem replaces_handle_poll (s : Service) (peer : Address) (hs : s.traffic.broker.pools.Sorted)
    (waits : setup.settings.mode = .mailbox → ∀ announced,
      (s.traffic.register announced).2.startPoll (s.traffic.register announced).1 =
        (s.traffic.register announced).2.wait (.polling (s.traffic.register announced).1))
    (posted : Posted setup .proxy request) {poll : Wire.ProxyPoll}
    (hpoll : Wire.ProxyPoll.decode request.body = .ok poll) :
    s.traffic.broker.Replaces (s.handle setup peer request).2.traffic.broker [peer.canonical]
      (some (s.traffic.broker.register (announced poll peer.canonical)).1) := by
  have hreplaces := Broker.replaces_register hs (announced poll peer.canonical)
  cases mode : setup.settings.mode with
  | push =>
    have hhandled : s.handleRoute setup peer.canonical request .proxy =
        .ok (.respond (proxyReply setup.relayUrl none),
          { s with traffic := (s.traffic.register (announced poll peer.canonical)).2 }) := by
      rw [handleRoute, handleProxyPoll, hpoll]
      simp only [bind, Except.bind, mode]
      rfl
    rw [handle_posted posted s peer hhandled]
    exact hreplaces
  | mailbox =>
    have hwaits := waits mode (announced poll peer.canonical)
    have hhandled : s.handleRoute setup peer.canonical request .proxy =
        .ok (Form.handling setup .proxyPoll
            ((s.traffic.register (announced poll peer.canonical)).2.startPoll
              (s.traffic.register (announced poll peer.canonical)).1).1,
          { s with traffic := ((s.traffic.register (announced poll peer.canonical)).2.startPoll
            (s.traffic.register (announced poll peer.canonical)).1).2 }) := by
      rw [handleRoute, handleProxyPoll, hpoll]
      simp only [bind, Except.bind, mode]
      rfl
    rw [handle_posted posted s peer hhandled, hwaits]
    exact hreplaces

/-- An order starts a rescale of the hosts that it names. -/
theorem handle_order {hosts : List Address} (orders : Orders setup hosts request) (s : Service)
    (peer : Address) :
    ∃ incoming, (s.handle setup peer request).2.traffic =
      (s.traffic.startRescale (hosts.map Address.canonical) incoming).2 := by
  obtain ⟨incoming, hdecode⟩ := orders.decode
  have hhandled : s.handleRoute setup peer.canonical request .rescale =
      .ok (Form.handling setup .rescale
          (s.traffic.startRescale (hosts.map Address.canonical) incoming).1,
        { s with
          traffic := (s.traffic.startRescale (hosts.map Address.canonical) incoming).2 }) := by
    rw [handleRoute, handleRescale, orders.authorized, hdecode]
    rfl
  exact ⟨incoming, by rw [handle_posted orders.posted s peer hhandled]⟩

end

/-! ## Hosts -/

section
variable {setup : Setup} {request : Request} {h : History}

/-- A poll enters its record under the canonical form of the address that it comes from. -/
theorem entered_canonical (sound : h.Sound)
    (orderly : setup.settings.mode = .mailbox → h.Orderly) (clients : Nat) (peer : Address)
    (posted : Posted setup .proxy request) {poll : Wire.ProxyPoll}
    (hpoll : Wire.ProxyPoll.decode request.body = .ok poll) :
    h.broker.Replaces
      ((⟨h.traffic, clients⟩ : Service).handle setup peer request).2.traffic.broker
      [peer.canonical]
      (some ⟨h.broker.nextPoll, poll.sid, poll.effectiveType, NatClass.parse poll.nat,
        peer.canonical, poll.clients⟩) := by
  have hreplaces := replaces_handle_poll ⟨h.traffic, clients⟩ peer sound.order.agrees.sorted
    (fun mode => (orderly mode).startPoll_arrived) posted hpoll
  have hrecord : (h.broker.register (announced poll peer.canonical)).1 =
      ⟨h.broker.nextPoll, poll.sid, poll.effectiveType, NatClass.parse poll.nat, peer.canonical,
        poll.clients⟩ := by
    simp only [Broker.register, announced]
  rw [← hrecord]
  exact hreplaces

/-- An order takes out the records of the hosts that it names, and no others. -/
theorem retired_named (sound : h.Sound) (coherent : h.broker.directory.Coherent) (clients : Nat)
    (peer : Address) {hosts : List Address} (orders : Orders setup hosts request) :
    let b := ((⟨h.traffic, clients⟩ : Service).handle setup peer request).2.traffic.broker
    h.broker.Replaces b (hosts.map Address.canonical) none ∧
      ∀ p ∈ h.records, b.directory.Lists p ↔
        h.broker.directory.Lists p ∧ p.addr ∉ hosts.map Address.canonical := by
  obtain ⟨incoming, hhandled⟩ := handle_order orders ⟨h.traffic, clients⟩ peer
  have hdirectory :=
    Traffic.directory_startRescale h.traffic (hosts.map Address.canonical) incoming
  dsimp only
  rw [hhandled]
  refine ⟨⟨fun a => ?_, fun a => ?_⟩, fun p hp => ?_⟩
  · rw [hdirectory, Directory.host?_removeAll]
  · exact Traffic.proxy?_startRescale sound.order.agrees.sorted sound.order.exact _ _ a
  · rw [hdirectory]
    exact (sound.order.agrees.tells coherent hp).lists_removeAll _

end

/-- **A host has one identity in every spelling.** Every name of a host, which is its address as
it is printed, or its address and a port, with any blanks around it, stands for the canonical form
of the address: the IPv4 address that it wraps, or the address itself if it wraps none. Under this
form, after every run, a poll from the host enters its record. And an order that names some hosts,
each by any of its names, takes the records of these hosts out of the directory and out of the
pools, and they wait for no client any more; all other hosts keep their records. -/
theorem one_identity_per_host (setup : Setup) (events : List History.Event) (clients : Nat) :
    let h := History.run setup events
    let s : Service := ⟨h.traffic, clients⟩
    (∀ a name, Address.Names a name → Address.ofHostName name = .ok a.canonical) ∧
    (∀ a b c d, (Address.wrap a b c d).canonical = .v4 a b c d) ∧
    (∀ host : Address, (∀ a b c d, host ≠ .wrap a b c d) → host.canonical = host) ∧
    (∀ peer request poll, Posted setup .proxy request →
      Wire.ProxyPoll.decode request.body = .ok poll →
      h.broker.Replaces (s.handle setup peer request).2.traffic.broker [peer.canonical]
        (some ⟨h.broker.nextPoll, poll.sid, poll.effectiveType, NatClass.parse poll.nat,
          peer.canonical, poll.clients⟩)) ∧
    (∀ peer request hosts, Orders setup hosts request →
      let b := (s.handle setup peer request).2.traffic.broker
      h.broker.Replaces b (hosts.map Address.canonical) none ∧
      ∀ p ∈ h.records, b.directory.Lists p ↔
        h.broker.directory.Lists p ∧ p.addr ∉ hosts.map Address.canonical) := by
  intro h s
  have sound : h.Sound := History.run_sound setup events
  have coherent : h.broker.directory.Coherent := History.run_coherent setup events
  have orderly (mode : setup.settings.mode = .mailbox) : h.Orderly :=
    History.run_orderly mode events
  clear_value h
  exact ⟨fun a name => Address.ofHostName_of_names, Address.canonical_wrap,
    fun host => Address.canonical_of_not_wrap,
    fun peer request poll posted hpoll =>
      entered_canonical sound orderly clients peer posted hpoll,
    fun peer request hosts => retired_named sound coherent clients peer⟩

/-- A host with a wrapped IPv4 address, and another one. The first polls once more and is entered
under the address that was wrapped; it is retired under the wrapped address with a port. The other
host stays. -/
theorem wrapped_host_retired_by_endpoint :
    let setup : Setup := ⟨Settings.standard, Catalog.builtin⟩
    let wrapped : Address := .v6 #v[0, 0, 0, 0, 0, 0xFFFF, 0x0A00, 1]
    let other : Address := .v4 10 0 0 2
    let events : List History.Event :=
      [.register ⟨"s1", "standalone", .unrestricted, wrapped.canonical, 0, true⟩,
        .register ⟨"s2", "standalone", .unrestricted, other, 0, true⟩]
    let s : Service := ⟨(History.run setup events).traffic, 0⟩
    let poll : Request :=
      ⟨"POST", "/proxy", [], Text.utf8 "[\"s3\",\"1.1\",\"webext\",\"restricted\",0,null]"⟩
    let order : Request :=
      ⟨"POST", "/rescale", [], Text.utf8 "[[\" [::ffff:10.0.0.1]:51821\"],[]]"⟩
    let polled := (s.handle setup wrapped poll).2.traffic.broker
    let retired := (s.handle setup other order).2.traffic.broker
    Posted setup .proxy poll ∧ Orders setup [wrapped] order ∧
      polled.directory.host? (.v4 10 0 0 1) =
        some ⟨2, "s3", "webext", .restricted, .v4 10 0 0 1, 0⟩ ∧
      (s.traffic.broker.directory.host? (.v4 10 0 0 1)).isSome ∧
      retired.directory.host? (.v4 10 0 0 1) = none ∧
      retired.pools.proxy? (.v4 10 0 0 1) = none ∧
      retired.directory.host? other = s.traffic.broker.directory.host? other := by
  intro setup wrapped other events s poll order polled retired
  have hname : Address.Names wrapped " [::ffff:10.0.0.1]:51821" := by
    have hnamed := @Address.Names.withPort wrapped " " "" 51821 (by decide) (by decide) nofun
    have htext : " " ++ Endpoint.text ⟨wrapped, 0, 51821⟩ ++ "" = " [::ffff:10.0.0.1]:51821" := by
      decide +kernel
    rwa [htext] at hnamed
  have orders : Orders setup [wrapped] order := {
    posted := ⟨rfl, by decide +kernel, by decide +kernel⟩
    authorized := rfl
    written := ⟨⟨[" [::ffff:10.0.0.1]:51821"], []⟩, [], by decide +kernel, .cons hname .nil, rfl⟩ }
  have posted : Posted setup .proxy poll := ⟨rfl, by decide +kernel, by decide +kernel⟩
  have hpoll : Wire.ProxyPoll.decode poll.body =
      .ok ⟨"s3", "1.1", "webext", "restricted", 0, none⟩ := by decide +kernel
  obtain ⟨-, -, -, henters, hretires⟩ := one_identity_per_host setup events 0
  have hentered := henters wrapped poll _ posted hpoll
  obtain ⟨hreplaces, -⟩ := hretires other order [wrapped] orders
  refine ⟨posted, orders, ?_, by decide +kernel, ?_, ?_, ?_⟩
  · exact (hentered.current _).trans ((if_pos (by decide +kernel)).trans (by decide +kernel))
  · exact (hreplaces.current _).trans (if_pos (by decide +kernel))
  · exact (hreplaces.pooled _).trans (if_pos (by decide +kernel))
  · exact (hreplaces.current other).trans (if_neg (by decide +kernel))

end Service

end RelayBroker
