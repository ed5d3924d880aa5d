/-
  RelayBroker.Proofs.Traffic.Run

  Runs of a broker from the empty state. An `Event` starts a call, or lets a call that
  waits go on; events come in any order, and one that fits no call changes nothing. A
  `History` is the traffic so far with the records that its polls made: only a record
  that was entered can be awaited.

  What a step can do is said once, by `Change`; `step_change` is the only place where
  the operations on the traffic are taken apart.
-/

import Mathlib.Data.List.Induction
import RelayBroker.Broker.Traffic

namespace RelayBroker

deriving instance DecidableEq for Outcome

/-- A rescale has nothing to do, ends at once because it moves nobody, or waits for the
instructions of its moves. -/
theorem Traffic.startRescale_cases (t : Traffic) (retiring incoming : List Address) :
    (retiring = [] ∧ incoming = [] ∧
      t.startRescale retiring incoming = (.done (.rescaled (.ok ⟨0, [], 0⟩)), t)) ∨
    (∃ stranded b, t.broker.relocate retiring = ([], stranded, b) ∧
      t.startRescale retiring incoming =
        (.done (.rescaled (b.concludeRescale retiring.length [] stranded 0).1),
          { t with broker := (b.concludeRescale retiring.length [] stranded 0).2 })) ∨
    ∃ migrations stranded b, t.broker.relocate retiring = (migrations, stranded, b) ∧
      migrations ≠ [] ∧
      t.startRescale retiring incoming = { t with broker := b }.wait
        (.moving ⟨retiring.length, migrations, stranded, List.range migrations.length, 0⟩) := by
  rw [startRescale]
  split
  · next hnothing =>
    rw [Bool.and_eq_true, List.isEmpty_iff, List.isEmpty_iff] at hnothing
    exact .inl ⟨hnothing.1, hnothing.2, rfl⟩
  · -- Whether instructions have to be sent depends on the moves alone.
    obtain ⟨migrations, stranded, b, hrel⟩ :
        ∃ migrations stranded b, t.broker.relocate retiring = (migrations, stranded, b) :=
      ⟨_, _, _, rfl⟩
    simp only [hrel]
    split
    · next hnone =>
      rw [List.isEmpty_iff] at hnone
      subst hnone
      exact .inr (.inl ⟨_, _, rfl, rfl⟩)
    · next hsome =>
      exact .inr (.inr ⟨_, _, _, rfl, fun hnil => hsome (List.isEmpty_iff.mpr hnil), rfl⟩)

/-- A broker with its calls, and the records that were entered, in order. -/
structure History where
  traffic : Traffic
  records : List Proxy

namespace History

/-- What can happen next to a broker and its calls. -/
inductive Event where
  /-- A proxy polls. -/
  | register (poll : Broker.Announcement)
  /-- The record of a poll, by its number, is awaited. -/
  | await (poll : Nat)
  | startMatch (request : ClientRequest)
  | submitAnswer (sid answer : String)
  | notify (cid : String) (action : SessionAction) (addr : Address)
  | rescale (retiring incoming : List Address)
  /-- The proxy to which a waiting match pushed its offer replies. -/
  | reply (call : Nat) (r : Except BrokerError String)
  /-- An instruction of a waiting rescale is settled. -/
  | settle (call position : Nat) (delivered : Bool)
  /-- A waiting call looks whether it can go on. -/
  | wake (call : Nat)
  /-- The time of a waiting call is up. -/
  | expire (call : Nat)

/-- The call that an event lets go on. -/
def Event.call? : Event → Option Nat
  | .reply call _ | .settle call _ _ | .wake call | .expire call => some call
  | _ => none

/-- Nothing has happened yet. -/
def start : History := ⟨Traffic.empty, []⟩

/-! ## Parts of a history -/

abbrev broker (s : History) : Broker := s.traffic.broker

/-- The call that waits under a number. -/
def call? (s : History) (call : Nat) : Option Call :=
  s.traffic.calls.get? call

def setBroker (s : History) (b : Broker) : History :=
  { s with traffic := { s.traffic with broker := b } }

/-- Lets a call wait. -/
def wait (s : History) (call : Call) : History :=
  { s with traffic := (s.traffic.wait call).2 }

/-- Puts another call under the number of one that waits. -/
def setCall (s : History) (call : Nat) (c : Call) : History :=
  { s with traffic := { s.traffic with calls := s.traffic.calls.insert call c } }

/-- Ends a waiting call. -/
def endCall (s : History) (call : Nat) : History :=
  { s with traffic := { s.traffic with calls := s.traffic.calls.erase call } }

/-! ## Steps -/

/-- How a call ended that was just started, if it ended at once. -/
def outcome? : Progress → Option Outcome
  | .done outcome => some outcome
  | .waiting _ => none

/-- What an event does; gives the outcome of the call that it ends, if it ends one. -/
def step (setup : Setup) (s : History) : Event → Option Outcome × History
  | .register poll =>
    let (proxy, t) := s.traffic.register poll
    (none, ⟨t, s.records ++ [proxy]⟩)
  | .await poll =>
    match s.records[poll]? with
    | none => (none, s)
    | some proxy =>
      let (progress, t) := s.traffic.startPoll proxy
      (outcome? progress, { s with traffic := t })
  | .startMatch request =>
    let (progress, t) := s.traffic.startMatch setup request
    (outcome? progress, { s with traffic := t })
  | .submitAnswer sid answer => (none, { s with traffic := (s.traffic.submitAnswer sid answer).2 })
  | .notify cid action addr => (none, { s with traffic := (s.traffic.notify cid action addr).2 })
  | .rescale retiring incoming =>
    let (progress, t) := s.traffic.startRescale retiring incoming
    (outcome? progress, { s with traffic := t })
  | .reply call r =>
    let (outcome, t) := s.traffic.reply call r
    (outcome, { s with traffic := t })
  | .settle call position delivered =>
    let (outcome, t) := s.traffic.settleTransfer call position delivered
    (outcome, { s with traffic := t })
  | .wake call =>
    let (outcome, t) := s.traffic.wake call
    (outcome, { s with traffic := t })
  | .expire call =>
    let (outcome, t) := s.traffic.expire call
    (outcome, { s with traffic := t })

/-- A run from the empty broker. -/
def run (setup : Setup) (events : List Event) : History :=
  events.foldl (fun s e => (s.step setup e).2) start

theorem run_append (setup : Setup) (events : List Event) (e : Event) :
    run setup (events ++ [e]) = ((run setup events).step setup e).2 := by
  rw [run, List.foldl_append]
  rfl

/-- What holds at the start and is kept by every step holds after every run. -/
theorem run_induction {setup : Setup} {P : History → Prop} (hstart : P start)
    (hstep : ∀ s e, P s → P (s.step setup e).2) (events : List Event) : P (run setup events) := by
  induction events using List.reverseRecOn with
  | nil => exact hstart
  | append_singleton events e ih =>
    rw [run_append]
    exact hstep _ e ih

/-! ## What a step can do -/

/-- What comes back from a proxy to which an offer was pushed. -/
def replyOf : Except BrokerError String → Broker.Reply
  | .ok answer => .answered answer
  | .error e => .failed e

/-- The broker after a match has given up its ticket, if it has one. -/
def abandoned (b : Broker) (m : Matching) : Broker :=
  match m.ticket with
  | some ticket => b.abandonTicket m.proxy ticket
  | none => b

/-- An event that lets a waiting call look for what it waits for. -/
inductive Glances (call : Nat) : Event → Prop
  | wake : Glances call (.wake call)
  | expire : Glances call (.expire call)

theorem Glances.call? {call : Nat} {e : Event} (h : Glances call e) : e.call? = some call := by
  cases h <;> rfl

/-- The offer of a request for which a bridge was found. -/
def offerOf (request : ClientRequest) (bridge : Bridge) : Offer :=
  ⟨request.nat.name, request.offer, bridge.fingerprint.text, request.cid⟩

/-- A rescale after one of its instructions is settled. -/
def settleOne (m : Moving) (position : Nat) (delivered : Bool) : Moving :=
  { m with
    underWay := m.underWay.erase position
    failed := if delivered then m.failed else m.failed + 1 }

/-- The changes that an event can make, with the outcome of the call that it ends. -/
inductive Change (setup : Setup) (s : History) : Event → Option Outcome → History → Prop
  /-- The event fits no call that waits, or there is nothing to do yet. -/
  | idle {e call} (goesOn : e.call? = some call) : Change setup s e none s
  /-- No such record was entered. -/
  | unknown {poll} (absent : s.records[poll]? = none) : Change setup s (.await poll) none s
  | registered (poll) :
      Change setup s (.register poll) none
        ⟨(s.traffic.register poll).2, s.records ++ [(s.traffic.register poll).1]⟩
  /-- The request of a client does not pass the checks. -/
  | refused {request e} (checked : Broker.checkRequest setup.catalog request = .error e) :
      Change setup s (.startMatch request) (some (.matched (.error e))) s
  /-- No pooled proxy can serve the client. -/
  | denied {request bridge b} (checked : Broker.checkRequest setup.catalog request = .ok bridge)
      (borrowed : s.broker.borrow request.nat = (none, b)) :
      Change setup s (.startMatch request) (some (.matched (.error .noCapacity)))
        (s.setBroker { b with counters := b.counters.clientDenied request.nat })
  | pushed {request bridge proxy b}
      (checked : Broker.checkRequest setup.catalog request = .ok bridge)
      (borrowed : s.broker.borrow request.nat = (some proxy, b))
      (mode : setup.settings.mode = .push) :
      Change setup s (.startMatch request) none
        ((s.setBroker b).wait (.matching ⟨request, proxy, offerOf request bridge, none⟩))
  | parked {request bridge proxy b ticket box}
      (checked : Broker.checkRequest setup.catalog request = .ok bridge)
      (borrowed : s.broker.borrow request.nat = (some proxy, b))
      (mode : setup.settings.mode = .mailbox)
      (posted : (b.mailbox proxy).post (offerOf request bridge) = .ok (ticket, box)) :
      Change setup s (.startMatch request) none
        ((s.setBroker (b.setMailbox proxy box)).wait
          (.matching ⟨request, proxy, offerOf request bridge, some ticket⟩))
  /-- The mailbox of the borrowed proxy takes no offer. -/
  | bounced {request bridge proxy b e}
      (checked : Broker.checkRequest setup.catalog request = .ok bridge)
      (borrowed : s.broker.borrow request.nat = (some proxy, b))
      (mode : setup.settings.mode = .mailbox)
      (posted : (b.mailbox proxy).post (offerOf request bridge) = .error e) :
      Change setup s (.startMatch request)
        (some (.matched (b.concludeMatch request proxy (.failed e)).1))
        (s.setBroker (b.concludeMatch request proxy (.failed e)).2)
  | awaited {poll proxy} (entered : s.records[poll]? = some proxy) :
      Change setup s (.await poll) none (s.wait (.polling proxy))
  /-- An offer is parked when a record is awaited. -/
  | polledAtOnce {poll proxy offer b} (entered : s.records[poll]? = some proxy)
      (taken : s.broker.takeOffer proxy = (some offer, b)) :
      Change setup s (.await poll) (some (.polled (b.endPoll proxy (some offer)).1))
        (s.setBroker (b.endPoll proxy (some offer)).2)
  | polled {call e proxy offer b} (glances : Glances call e)
      (waits : s.call? call = some (.polling proxy))
      (taken : s.broker.takeOffer proxy = (some offer, b)) :
      Change setup s e (some (.polled (b.endPoll proxy (some offer)).1))
        ((s.setBroker (b.endPoll proxy (some offer)).2).endCall call)
  | pollExpired {call proxy} (waits : s.call? call = some (.polling proxy))
      (nothing : (s.broker.takeOffer proxy).1 = none) :
      Change setup s (.expire call) (some (.polled (s.broker.endPoll proxy none).1))
        ((s.setBroker (s.broker.endPoll proxy none).2).endCall call)
  | answered (sid answer) :
      Change setup s (.submitAnswer sid answer) none
        (s.setBroker (s.broker.submitAnswer sid answer).2)
  | noticed (cid action addr) :
      Change setup s (.notify cid action addr) none
        (s.setBroker (s.broker.notify cid action addr).2)
  /-- There is nothing to retire and nothing to announce. -/
  | rescaledNothing :
      Change setup s (.rescale [] []) (some (.rescaled (.ok ⟨0, [], 0⟩))) s
  /-- A rescale that moves no session ends at once. -/
  | rescaled {retiring incoming stranded b}
      (relocated : s.broker.relocate retiring = ([], stranded, b)) :
      Change setup s (.rescale retiring incoming)
        (some (.rescaled (b.concludeRescale retiring.length [] stranded 0).1))
        (s.setBroker (b.concludeRescale retiring.length [] stranded 0).2)
  | moving {retiring incoming migrations stranded b}
      (relocated : s.broker.relocate retiring = (migrations, stranded, b))
      (moved : migrations ≠ []) :
      Change setup s (.rescale retiring incoming) none
        ((s.setBroker b).wait
          (.moving ⟨retiring.length, migrations, stranded, List.range migrations.length, 0⟩))
  /-- The proxy to which an offer was pushed replies. -/
  | replied {call m r} (waits : s.call? call = some (.matching m)) (pushed : m.ticket = none) :
      Change setup s (.reply call r)
        (some (.matched (s.broker.concludeMatch m.request m.proxy (replyOf r)).1))
        ((s.setBroker (s.broker.concludeMatch m.request m.proxy (replyOf r)).2).endCall call)
  /-- A match finds the answer under its ticket. -/
  | collected {call e m ticket answer box} (glances : Glances call e)
      (waits : s.call? call = some (.matching m)) (parked : m.ticket = some ticket)
      (found : (s.broker.mailbox m.proxy).check ticket = (.answer answer, box)) :
      Change setup s e
        (some (.matched ((s.broker.setMailbox m.proxy box).concludeMatch m.request m.proxy
          (.answered answer)).1))
        ((s.setBroker ((s.broker.setMailbox m.proxy box).concludeMatch m.request m.proxy
          (.answered answer)).2).endCall call)
  | expired {call m} (waits : s.call? call = some (.matching m))
      (silent : ∀ ticket text, m.ticket = some ticket →
        ((s.broker.mailbox m.proxy).check ticket).1 ≠ .answer text) :
      Change setup s (.expire call)
        (some (.matched ((abandoned s.broker m).concludeMatch m.request m.proxy .timedOut).1))
        ((s.setBroker ((abandoned s.broker m).concludeMatch m.request m.proxy
          .timedOut).2).endCall call)
  /-- An instruction is settled, and others are under way. -/
  | settled {call position delivered m} (waits : s.call? call = some (.moving m))
      (sent : position ∈ m.underWay) (others : (settleOne m position delivered).underWay ≠ []) :
      Change setup s (.settle call position delivered) none
        ((s.setBroker (s.broker.countTransfer delivered)).setCall call
          (.moving (settleOne m position delivered)))
  /-- The last instruction is settled. -/
  | settledLast {call position delivered m} (waits : s.call? call = some (.moving m))
      (sent : position ∈ m.underWay) (last : (settleOne m position delivered).underWay = []) :
      Change setup s (.settle call position delivered)
        (some (.rescaled ((s.broker.countTransfer delivered).concludeRescale m.retired m.migrations
          m.stranded (settleOne m position delivered).failed).1))
        ((s.setBroker ((s.broker.countTransfer delivered).concludeRescale m.retired m.migrations
          m.stranded (settleOne m position delivered).failed).2).endCall call)

variable (setup : Setup) (s : History)

theorem startMatch_change (request : ClientRequest) :
    Change setup s (.startMatch request) (s.step setup (.startMatch request)).1
      (s.step setup (.startMatch request)).2 := by
  -- The cases are those of the match itself: the checks, the proxy that is borrowed, and how
  -- its offer goes out.
  simp only [step, Traffic.startMatch, Broker.openMatch]
  cases hcheck : Broker.checkRequest setup.catalog request with
  | error e => exact .refused hcheck
  | ok bridge =>
    obtain ⟨proxy, b, hborrow⟩ : ∃ proxy b, s.broker.borrow request.nat = (proxy, b) :=
      ⟨_, _, rfl⟩
    cases proxy with
    | none =>
      simp only [hborrow]
      exact .denied hcheck hborrow
    | some proxy =>
      simp only [hborrow]
      cases hmode : setup.settings.mode with
      | push => exact .pushed hcheck hborrow hmode
      | mailbox =>
        simp only [Broker.postOffer]
        cases hpost : (b.mailbox proxy).post (offerOf request bridge) with
        | error e =>
          simp only [offerOf] at hpost
          simp only [hpost]
          exact .bounced hcheck hborrow hmode hpost
        | ok posted =>
          obtain ⟨ticket, box⟩ := posted
          simp only [offerOf] at hpost
          simp only [hpost]
          exact .parked hcheck hborrow hmode hpost

theorem await_change (poll : Nat) :
    Change setup s (.await poll) (s.step setup (.await poll)).1 (s.step setup (.await poll)).2 := by
  simp only [step]
  split
  · next habsent => exact .unknown habsent
  · next proxy hentered =>
    simp only [Traffic.startPoll]
    -- Only the first of the polls of a record looks for an offer at once.
    split
    · split
      · next offer b htaken => exact .polledAtOnce hentered htaken
      · exact .awaited hentered
    · exact .awaited hentered

theorem rescale_change (retiring incoming : List Address) :
    Change setup s (.rescale retiring incoming) (s.step setup (.rescale retiring incoming)).1
      (s.step setup (.rescale retiring incoming)).2 := by
  rw [step]
  rcases s.traffic.startRescale_cases retiring incoming with ⟨rfl, rfl, heq⟩ |
    ⟨stranded, b, relocated, heq⟩ | ⟨migrations, stranded, b, relocated, moved, heq⟩
  · rw [heq]
    exact .rescaledNothing
  · rw [heq]
    exact .rescaled relocated
  · rw [heq]
    exact .moving relocated moved

theorem reply_change (call : Nat) (r : Except BrokerError String) :
    Change setup s (.reply call r) (s.step setup (.reply call r)).1
      (s.step setup (.reply call r)).2 := by
  simp only [step, Traffic.reply]
  split
  · next m hwaits =>
    split
    · exact .idle rfl
    · -- Only a match without a ticket waits for the reply of its proxy.
      next hpushed =>
      have hnone : m.ticket = none := by simpa using hpushed
      cases r <;> exact .replied hwaits hnone
  · exact .idle rfl

theorem settle_change (call position : Nat) (delivered : Bool) :
    Change setup s (.settle call position delivered)
      (s.step setup (.settle call position delivered)).1
      (s.step setup (.settle call position delivered)).2 := by
  simp only [step, Traffic.settleTransfer]
  split
  · next m hwaits =>
    split
    · -- An instruction that is under way is settled once; another one is nothing to this rescale.
      next hsent =>
      rw [List.contains_iff_mem] at hsent
      split
      · next hlast => exact .settledLast hwaits hsent (List.isEmpty_iff.mp hlast)
      · next hothers => exact .settled hwaits hsent fun hnil => hothers (List.isEmpty_iff.mpr hnil)
    · exact .idle rfl
  · exact .idle rfl

/-- What an event does that lets a call glance at what it waits for. -/
theorem wake_change {call : Nat} {e : Event} (glances : Glances call e) :
    Change setup s e (s.traffic.wake call).1 { s with traffic := (s.traffic.wake call).2 } := by
  rw [Traffic.wake]
  split
  · next m hwaits =>
    split
    · exact .idle glances.call?
    · next ticket hticket =>
      split
      · next hfound => exact .collected glances hwaits hticket hfound
      · exact .idle glances.call?
  · next proxy hwaits =>
    split
    · split
      · next htaken => exact .polled glances hwaits htaken
      · exact .idle glances.call?
    · exact .idle glances.call?
  · exact .idle glances.call?

/-- A match that goes on waiting has found no answer. -/
theorem silent_of_wake {call : Nat} {m : Matching} (hwaits : s.call? call = some (.matching m))
    (hwake : (s.traffic.wake call).1 = none) (ticket : Nat) (text : String)
    (hticket : m.ticket = some ticket) :
    ((s.broker.mailbox m.proxy).check ticket).1 ≠ .answer text := by
  intro hfound
  obtain ⟨box, hcheck⟩ : ∃ box, (s.broker.mailbox m.proxy).check ticket = (.answer text, box) :=
    ⟨_, Prod.ext hfound rfl⟩
  rw [Traffic.wake, show s.traffic.calls.get? call = _ from hwaits] at hwake
  simp only [hticket, hcheck] at hwake
  cases hwake

/-- A poll whose turn it is and that goes on waiting has found no offer. -/
theorem nothing_of_wake {call : Nat} {proxy : Proxy}
    (hwaits : s.call? call = some (.polling proxy)) (hnext : s.traffic.isNext call proxy)
    (hwake : (s.traffic.wake call).1 = none) : (s.broker.takeOffer proxy).1 = none := by
  cases htaken : (s.broker.takeOffer proxy).1 with
  | none => rfl
  | some offer =>
    obtain ⟨b, htake⟩ : ∃ b, s.broker.takeOffer proxy = (some offer, b) :=
      ⟨_, Prod.ext htaken rfl⟩
    rw [Traffic.wake, show s.traffic.calls.get? call = _ from hwaits] at hwake
    simp only [hnext, if_true, htake] at hwake
    cases hwake

theorem expire_change (call : Nat) :
    Change setup s (.expire call) (s.step setup (.expire call)).1
      (s.step setup (.expire call)).2 := by
  -- What came at the last moment ends the call as if it had been woken.
  have hwake := wake_change setup s (@Glances.expire call)
  simp only [step, Traffic.expire]
  split
  · next outcome t heq =>
    rw [heq] at hwake
    exact hwake
  · next t heq =>
    have hnone : (s.traffic.wake call).1 = none := by rw [heq]
    split
    · next m hwaits => exact .expired hwaits (silent_of_wake s hwaits hnone)
    · next proxy hwaits =>
      split
      · next hnext => exact .pollExpired hwaits (nothing_of_wake s hwaits hnext hnone)
      · exact .idle rfl
    · exact .idle rfl

/-- What a step does is one of the changes. -/
theorem step_change (e : Event) : Change setup s e (s.step setup e).1 (s.step setup e).2 := by
  cases e with
  | register poll => exact .registered poll
  | await poll => exact await_change setup s poll
  | startMatch request => exact startMatch_change setup s request
  | submitAnswer sid answer => exact .answered sid answer
  | notify cid action addr => exact .noticed cid action addr
  | rescale retiring incoming => exact rescale_change setup s retiring incoming
  | reply call r => exact reply_change setup s call r
  | settle call position delivered => exact settle_change setup s call position delivered
  | wake call => exact wake_change setup s .wake
  | expire call => exact expire_change setup s call

/-- A rescale has nothing to do, ends at once, or waits with the moves of its loop. -/
theorem Change.rescale_cases {setup : Setup} {s s' : History} {o : Option Outcome}
    {retiring incoming : List Address} (hc : Change setup s (.rescale retiring incoming) o s') :
    (retiring = [] ∧ o = some (.rescaled (.ok ⟨0, [], 0⟩)) ∧ s' = s) ∨
    (∃ stranded b, s.broker.relocate retiring = ([], stranded, b) ∧
      o = some (.rescaled (b.concludeRescale retiring.length [] stranded 0).1) ∧
      s' = s.setBroker (b.concludeRescale retiring.length [] stranded 0).2) ∨
    (∃ migrations stranded b, s.broker.relocate retiring = (migrations, stranded, b) ∧
      migrations ≠ [] ∧ o = none ∧
      s' = (s.setBroker b).wait
        (.moving ⟨retiring.length, migrations, stranded, List.range migrations.length, 0⟩)) := by
  cases hc with
  | idle goesOn => cases goesOn
  | polled glances => cases glances
  | collected glances => cases glances
  | rescaledNothing => exact .inl ⟨rfl, rfl, rfl⟩
  | rescaled relocated => exact .inr (.inl ⟨_, _, relocated, rfl, rfl⟩)
  | moving relocated moved => exact .inr (.inr ⟨_, _, _, relocated, moved, rfl, rfl⟩)

end History

end RelayBroker
