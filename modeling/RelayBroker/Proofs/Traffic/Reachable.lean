/-
  RelayBroker.Proofs.Traffic.Reachable

  What holds in every state that a run from the empty broker reaches. A broker is
  `InOrder` if its pools agree with its directory and its lists of clients by host are
  exact; each operation on the broker keeps that. A history is `Sound` if its broker is
  in order and the waiting calls are about records that were entered. Every change keeps
  it (`Sound.change`), so every run has it (`run_sound`).

  Main statements: the pools and the directory never drift apart
  (`pools_match_directory`), and the lists of clients by host stay exact, also through
  a rescale that drops the list of each host it has cleared (`client_lists_exact`).
-/

import RelayBroker.Proofs.Broker.Agreement
import RelayBroker.Proofs.Broker.Stores
import RelayBroker.Proofs.Traffic.Run

namespace RelayBroker

/-! ## Brokers in order -/

namespace Broker

/-- The pools agree with the directory, and the lists of clients by host are exact. -/
structure InOrder (b : Broker) (records : List Proxy) : Prop where
  agrees : b.Agrees records
  exact : b.sessions.Exact

theorem inOrder_empty : empty.InOrder [] := ⟨agrees_empty, Sessions.exact_empty⟩

section
variable {b b' : Broker} {records : List Proxy} {proxy : Proxy}

theorem InOrder.register (h : b.InOrder records) (poll : Announcement) :
    (b.register poll).2.InOrder (records ++ [(b.register poll).1]) :=
  ⟨h.agrees.register poll, h.exact⟩

theorem InOrder.counters (h : b.InOrder records) (c : Counters) :
    InOrder { b with counters := c } records :=
  ⟨h.agrees.counters c, h.exact⟩

theorem InOrder.setMailbox (h : b.InOrder records) {m : Mailbox}
    (hm : m.closed = (b.mailbox proxy).closed) : (b.setMailbox proxy m).InOrder records :=
  ⟨h.agrees.setMailbox hm, h.exact⟩

theorem InOrder.borrow (h : b.InOrder records) {nat : NatClass} {proxy : Option Proxy}
    (hb : b.borrow nat = (proxy, b')) : b'.InOrder records := by
  obtain rfl : (b.borrow nat).2 = b' := congrArg Prod.snd hb
  exact ⟨h.agrees.borrow nat, h.exact⟩

theorem InOrder.takeOffer (h : b.InOrder records) {offer : Option Offer}
    (ht : b.takeOffer proxy = (offer, b')) : b'.InOrder records := by
  obtain rfl : (b.takeOffer proxy).2 = b' := congrArg Prod.snd ht
  exact h.setMailbox rfl

theorem InOrder.concludeMatch (h : b.InOrder records) (request : ClientRequest) (proxy : Proxy)
    (reply : Reply) : (b.concludeMatch request proxy reply).2.InOrder records := by
  refine ⟨h.agrees.concludeMatch request proxy reply, ?_⟩
  cases reply with
  | answered answer =>
    simp only [Broker.concludeMatch, bindAnswered]
    -- An answer for a host that was retired binds nobody.
    cases b.directory.host? proxy.addr with
    | none => exact h.exact
    | some current => exact Sessions.exact_bind h.exact _ _ _
  | failed e => simpa [Broker.concludeMatch] using h.exact
  | timedOut => simpa [Broker.concludeMatch] using h.exact

/-- A poll that picks up its offer, or none, ends. -/
theorem InOrder.endPoll (h : b.InOrder records) (hp : proxy ∈ records) (polled : Option Offer) :
    (b.endPoll proxy polled).2.InOrder records :=
  ⟨h.agrees.endPoll hp polled, by simpa using h.exact⟩

theorem InOrder.submitAnswer (h : b.InOrder records) (sid answer : String) :
    (b.submitAnswer sid answer).2.InOrder records :=
  ⟨h.agrees.submitAnswer sid answer, (sameStores_submitAnswer b sid answer).sessions ▸ h.exact⟩

theorem InOrder.notify (h : b.InOrder records) (cid : String) (action : SessionAction)
    (addr : Address) : (b.notify cid action addr).2.InOrder records :=
  ⟨h.agrees.notify cid action addr, Sessions.exact_notice h.exact cid action addr⟩

theorem InOrder.relocate (h : b.InOrder records) {retiring : List Address}
    {migrations : List Migration} {stranded : Nat}
    (hr : b.relocate retiring = (migrations, stranded, b')) : b'.InOrder records := by
  obtain rfl : (b.relocate retiring).2.2 = b' := by rw [hr]
  refine ⟨h.agrees.relocate h.exact retiring, ?_⟩
  rw [relocate_eq]
  exact ((Relocation.ready_start h.agrees.sorted h.exact retiring).moves
    (Relocation.start_moves h.agrees.sorted h.exact retiring)).exact

theorem InOrder.concludeRescale (h : b.InOrder records) (retired : Nat)
    (migrations : List Migration) (stranded failed : Nat) :
    (b.concludeRescale retired migrations stranded failed).2.InOrder records := by
  rw [Broker.concludeRescale]
  split <;> exact h.counters _

/-- A pooled proxy is the current record of its host, and its mailbox is open. -/
theorem Agrees.of_pooled (h : b.Agrees records) {a : Address}
    (hp : b.pools.proxy? a = some proxy) :
    b.directory.host? a = some proxy ∧ b.isOpen proxy = true ∧ proxy ∈ records := by
  rw [h.pooled, Option.filter_eq_some_iff] at hp
  exact ⟨hp.1, hp.2, (h.current hp.1).2⟩

/-- A proxy that is handed out was pooled. -/
theorem Agrees.pooled_of_borrow (h : b.Agrees records) {nat : NatClass} {b' : Broker}
    (hb : b.borrow nat = (some proxy, b')) : b.pools.proxy? proxy.addr = some proxy := by
  have hpools : (b.pools.borrow nat).1 = some proxy := congrArg Prod.fst hb
  exact Pools.pooled_of_borrow h.sorted hpools

end

end Broker

/-! ## Sound histories -/

/-- The record that a waiting call is about, if any, was entered. -/
def Call.Known (records : List Proxy) : Call → Prop
  | .matching m => m.proxy ∈ records
  | .polling proxy => proxy ∈ records
  | .moving _ => True

theorem Call.Known.append {records : List Proxy} {c : Call} (h : c.Known records)
    (more : List Proxy) : c.Known (records ++ more) := by
  cases c with
  | matching m => exact List.mem_append_left _ h
  | polling proxy => exact List.mem_append_left _ h
  | moving m => trivial

namespace History

/-- A polling proxy is pooled under its host, with the clients that it announces. -/
theorem slot?_register {b : Broker} (hs : b.pools.Sorted) (poll : Broker.Announcement)
    (a : Address) :
    (b.register poll).2.pools.slot? a =
      if a = poll.addr then some ⟨(b.register poll).1, poll.clients⟩ else b.pools.slot? a :=
  Pools.slot?_insert hs ..

/-- What holds in every reachable state. -/
structure Sound (s : History) : Prop where
  order : s.broker.InOrder s.records
  known : ∀ {n c}, s.call? n = some c → c.Known s.records
  free : ∀ n, s.traffic.nextCall ≤ n → s.call? n = none

theorem sound_start : start.Sound where
  order := Broker.inOrder_empty
  known h := by simp [start, call?, Traffic.empty] at h
  free _ _ := rfl

section
variable {s : History} {c c₀ : Call} {call : Nat}

theorem call?_wait (s : History) (c : Call) (n : Nat) :
    (s.wait c).call? n = if n = s.traffic.nextCall then some c else s.call? n :=
  Table.get?_insert ..

theorem call?_setCall (s : History) (call : Nat) (c : Call) (n : Nat) :
    (s.setCall call c).call? n = if n = call then some c else s.call? n :=
  Table.get?_insert ..

theorem call?_endCall (s : History) (call n : Nat) :
    (s.endCall call).call? n = if n = call then none else s.call? n :=
  Table.get?_erase ..

/-- A call that starts is none of those that waited before. -/
theorem call?_wait_of_ne (h : s.Sound) (hne : c ≠ c₀) (n : Nat) :
    (s.wait c).call? n = some c₀ ↔ s.call? n = some c₀ := by
  rw [call?_wait]
  by_cases hn : n = s.traffic.nextCall
  · simp [hn, hne, h.free]
  · rw [if_neg hn]

/-- A call that starts takes a number of its own. -/
theorem call?_wait_of_lt {n : Nat} (hlt : n < s.traffic.nextCall) (c : Call) :
    (s.wait c).call? n = s.call? n := by
  rw [call?_wait, if_neg (Nat.ne_of_lt hlt)]

/-- A call that ends leaves the others. -/
theorem call?_endCall_of_ne (hcall : s.call? call = some c) (hne : c ≠ c₀) (n : Nat) :
    (s.endCall call).call? n = some c₀ ↔ s.call? n = some c₀ := by
  rw [call?_endCall]
  by_cases hn : n = call
  · simp [hn, hcall, hne]
  · rw [if_neg hn]

theorem call?_setCall_of_ne {new : Call} (hcall : s.call? call = some c) (hne : c ≠ c₀)
    (hnew : new ≠ c₀) (n : Nat) :
    (s.setCall call new).call? n = some c₀ ↔ s.call? n = some c₀ := by
  rw [call?_setCall]
  by_cases hn : n = call
  · simp [hn, hcall, hne, hnew]
  · rw [if_neg hn]

theorem Sound.setBroker (h : s.Sound) {b : Broker} (order : b.InOrder s.records) :
    (s.setBroker b).Sound :=
  ⟨order, h.known, h.free⟩

theorem Sound.wait (h : s.Sound) {c : Call} (hc : c.Known s.records) : (s.wait c).Sound where
  order := h.order
  known {n c'} hn := by
    rw [call?_wait] at hn
    split at hn
    · obtain rfl := Option.some.inj hn
      exact hc
    · exact h.known hn
  free n hn := by
    -- The numbers above the one that was taken are still free.
    have hle : s.traffic.nextCall + 1 ≤ n := hn
    rw [call?_wait, if_neg (by omega)]
    exact h.free n (by omega)

theorem Sound.setCall (h : s.Sound) {call : Nat} {old c : Call} (hold : s.call? call = some old)
    (hc : c.Known s.records) : (s.setCall call c).Sound where
  order := h.order
  known {n c'} hn := by
    rw [call?_setCall] at hn
    split at hn
    · obtain rfl := Option.some.inj hn
      exact hc
    · exact h.known hn
  free n hn := by
    -- The number is in use already, so no free one is taken.
    have hfree := h.free n hn
    rw [call?_setCall]
    split
    · next heq =>
      rw [heq, hold] at hfree
      cases hfree
    · exact hfree

theorem Sound.endCall (h : s.Sound) (call : Nat) : (s.endCall call).Sound where
  order := h.order
  known {n c'} hn := by
    rw [call?_endCall] at hn
    split at hn
    · cases hn
    · exact h.known hn
  free n hn := by
    rw [call?_endCall]
    split
    · rfl
    · exact h.free n hn

theorem sameStores_abandoned (b : Broker) (m : Matching) : (abandoned b m).SameStores b := by
  rw [abandoned]
  split <;> exact ⟨rfl, rfl, rfl⟩

theorem inOrder_abandoned {b : Broker} {records : List Proxy} (h : b.InOrder records)
    (m : Matching) : (abandoned b m).InOrder records := by
  rw [abandoned]
  split
  · exact h.setMailbox rfl
  · exact h

/-- Every change keeps what holds in reachable states. -/
theorem Sound.change {setup : Setup} {e : Event} {o : Option Outcome} {s' : History} (h : s.Sound)
    (hc : Change setup s e o s') : s'.Sound := by
  -- A proxy that is handed out was pooled, and so it was entered.
  have hknown {nat proxy b} (hb : s.broker.borrow nat = (some proxy, b)) : proxy ∈ s.records :=
    (h.order.agrees.of_pooled (h.order.agrees.pooled_of_borrow hb)).2.2
  cases hc with
  | idle goesOn => exact h
  | unknown absent => exact h
  | registered poll => exact ⟨h.order.register poll, fun hn => (h.known hn).append _, h.free⟩
  | refused checked => exact h
  | denied checked borrowed => exact h.setBroker ((h.order.borrow borrowed).counters _)
  | pushed checked borrowed mode =>
    exact (h.setBroker (h.order.borrow borrowed)).wait (hknown borrowed)
  | parked checked borrowed mode posted =>
    exact (h.setBroker ((h.order.borrow borrowed).setMailbox (Mailbox.closed_post posted))).wait
      (hknown borrowed)
  | bounced checked borrowed mode posted =>
    exact h.setBroker ((h.order.borrow borrowed).concludeMatch ..)
  | awaited entered => exact h.wait (List.mem_of_getElem? entered)
  | polledAtOnce entered taken =>
    exact h.setBroker ((h.order.takeOffer taken).endPoll (List.mem_of_getElem? entered) _)
  | polled glances waits taken =>
    exact (h.setBroker ((h.order.takeOffer taken).endPoll (h.known waits) _)).endCall _
  | pollExpired waits nothing => exact (h.setBroker (h.order.endPoll (h.known waits) _)).endCall _
  | answered sid answer => exact h.setBroker (h.order.submitAnswer sid answer)
  | noticed cid action addr => exact h.setBroker (h.order.notify cid action addr)
  | rescaledNothing => exact h
  | rescaled relocated => exact h.setBroker ((h.order.relocate relocated).concludeRescale ..)
  | moving relocated moved => exact (h.setBroker (h.order.relocate relocated)).wait trivial
  | replied waits pushed => exact (h.setBroker (h.order.concludeMatch ..)).endCall _
  | collected glances waits parked found =>
    have hchecked := h.order.setMailbox (Mailbox.closed_check found)
    exact (h.setBroker (hchecked.concludeMatch ..)).endCall _
  | expired waits silent =>
    exact (h.setBroker ((inOrder_abandoned h.order _).concludeMatch ..)).endCall _
  | settled waits sent others => exact (h.setBroker (h.order.counters _)).setCall waits trivial
  | settledLast waits sent last =>
    exact (h.setBroker ((h.order.counters _).concludeRescale ..)).endCall _

end

theorem run_sound (setup : Setup) (events : List Event) : (run setup events).Sound :=
  run_induction sound_start (fun s e h => h.change (step_change setup s e)) events

/-! ## Pools and directory -/

/-- The pools and the directory never drift apart: what a pool holds at an address is
the current record of the address, and its mailbox is open; and a current record whose
mailbox is open is in the pool of its class, and only there. -/
theorem pools_match_directory (setup : Setup) (events : List Event) (a : Address) :
    let b := (run setup events).broker
    (∀ proxy, proxy.addr = a → b.pools.unrestricted.Holds proxy ∨ b.pools.restricted.Holds proxy →
      b.directory.host? a = some proxy ∧ (b.mailbox proxy).closed = false) ∧
    (∀ proxy, b.directory.host? a = some proxy → (b.mailbox proxy).closed = false →
      (b.pools.unrestricted.Holds proxy ↔ proxy.nat = .unrestricted) ∧
      (b.pools.restricted.Holds proxy ↔ proxy.nat ≠ .unrestricted)) := by
  intro b
  have h : b.Agrees (run setup events).records := (run_sound setup events).order.agrees
  -- Which of the two pools holds a record is told by its class.
  have hu := Pools.holds_ofClass_iff h.sorted .unrestricted
  have hr := Pools.holds_ofClass_iff h.sorted .restricted
  simp only [Pools.ofClass, true_iff, reduceCtorEq, false_iff] at hu hr
  constructor
  · rintro proxy rfl hheld
    have hpooled : b.pools.proxy? proxy.addr = some proxy := by
      rcases hheld with hin | hin
      · exact ((hu proxy).mp hin).1
      · exact ((hr proxy).mp hin).1
    obtain ⟨hcur, hopen, -⟩ := h.of_pooled hpooled
    exact ⟨hcur, by simpa [Broker.isOpen] using hopen⟩
  · intro proxy hcur hclosed
    obtain rfl := (h.current hcur).1
    have hpooled : b.pools.proxy? proxy.addr = some proxy := by
      rw [h.pooled, hcur, Option.filter_some_pos (by simp [Broker.isOpen, hclosed])]
    exact ⟨by rw [hu, and_iff_right hpooled], by rw [hr, and_iff_right hpooled]⟩

/-! ## Sessions and lists of clients -/

/-- A client is listed under a host exactly while its session is bound to the host, and
once; no list is empty. And a rescale that has cleared a host finds its list gone when
it comes to drop it. -/
theorem client_lists_exact (setup : Setup) (events : List Event) :
    let b := (run setup events).broker
    (∀ host cid, cid ∈ b.sessions.ids host ↔
      ∃ session, b.sessions.get? cid = some session ∧ session.host = host) ∧
    (∀ host, (b.sessions.ids host).Nodup) ∧
    (∀ host, b.sessions.byHost.get? host ≠ some []) ∧
    (∀ before host after r r',
      Relocation.clearHosts before (Relocation.start b (before ++ host :: after)) = (r, 0) →
      Relocation.moveSessions host (r.sessions.ofHost host) r = (r', 0) →
        r'.sessions.dropHost host = ([], r'.sessions)) := by
  intro b
  have h : b.InOrder (run setup events).records := (run_sound setup events).order
  refine ⟨fun host cid => h.exact.listed, h.exact.once, h.exact.nonempty, ?_⟩
  intro before host after r r' hclear hmove
  have hhost : host ∈ before ++ host :: after := by simp
  -- The hosts before this one are cleared by moves, which keep what the loop relies on.
  have hstart := Relocation.ready_start h.agrees.sorted h.exact (before ++ host :: after)
  have hmoves := Relocation.clearHosts_moves before (fun _ hm => List.mem_append_left _ hm) hstart
  rw [hclear] at hmoves
  have hdrop := Relocation.dropHost_after hhost (hstart.moves hmoves)
  rw [hmove] at hdrop
  exact hdrop rfl

/-- Three hosts poll; two clients are matched, with the first and the second. -/
def twoMatched : List Event :=
  let poll (sid : String) (addr : Address) : Event :=
    .register ⟨sid, "standalone", .unrestricted, addr, 0, true⟩
  let request (cid : String) : Event := .startMatch ⟨cid, .restricted, "", "a=candidate:1"⟩
  [poll "s1" (.v4 10 0 0 1), request "c1", .reply 0 (.ok "ANSWER"),
    poll "s2" (.v4 10 0 0 2), request "c2", .reply 1 (.ok "ANSWER"), poll "s3" (.v4 10 0 0 3)]

/-- The first two hosts retire: the list of the second names its client until it is
cleared, and nobody when it is dropped. -/
theorem client_list_free_when_dropped :
    let b := (run ⟨Settings.standard, Catalog.builtin⟩ twoMatched).broker
    let first : Address := .v4 10 0 0 1
    let second : Address := .v4 10 0 0 2
    let cleared := Relocation.clearHosts [first] (Relocation.start b ([first] ++ [second]))
    let moved := Relocation.moveSessions second (cleared.1.sessions.ofHost second) cleared.1
    cleared = (cleared.1, 0) ∧ moved = (moved.1, 0) ∧ cleared.1.sessions.ids second = ["c2"] ∧
      moved.1.sessions.dropHost second = ([], moved.1.sessions) := by
  intro b first second cleared moved
  have hclear : cleared = (cleared.1, 0) := by decide +kernel
  have hmove : moved = (moved.1, 0) := by decide +kernel
  have hlisted : cleared.1.sessions.ids second = ["c2"] := by decide +kernel
  obtain ⟨-, -, -, hdrop⟩ := client_lists_exact ⟨Settings.standard, Catalog.builtin⟩ twoMatched
  exact ⟨hclear, hmove, hlisted, hdrop [first] second [] cleared.1 moved.1 hclear hmove⟩

end History

end RelayBroker
