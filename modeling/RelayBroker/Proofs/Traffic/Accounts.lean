/-
  RelayBroker.Proofs.Traffic.Accounts

  The counters as books. There is one account for each thing that is counted
  (`Account`), and what a history has on an account is what its counters say together with
  what the waiting calls still owe: a match that waits is yet to be counted, and so is a
  rescale, and each of its orders that is under way (`books`).

  Each step puts on each account what it is worth (`Change.books`): a request of a client that
  passes the checks, an outcome, a rescale, the moves that it makes, a poll. So the books of
  a run are the sum over its steps (`run_books`), and once nothing waits the counters alone
  are.

  Main statement: `every_outcome_counted_once`.
-/

import RelayBroker.Proofs.Broker.Refusals
import RelayBroker.Proofs.Table.Count
import RelayBroker.Proofs.Traffic.Succession
import RelayBroker.Proofs.Traffic.Trace

namespace RelayBroker

/-! ## Counters through the operations on the broker -/

/-- An error that stands neither for a denial nor for a timeout. -/
def BrokerError.IsFailure (e : BrokerError) : Prop :=
  e ≠ .noCapacity ∧ e ≠ .timeout

theorem BrokerError.IsSignaling.isFailure {e : BrokerError} (h : e.IsSignaling) : e.IsFailure := by
  obtain ⟨detail, rfl⟩ := h
  exact ⟨nofun, nofun⟩

/-- What is counted when a match for a client of a class ends, by its result. If failures are
`told` apart, they are not those that are counted otherwise. -/
inductive Counters.Closes (told : Prop) (nat : NatClass) (c : Counters) :
    Except BrokerError String → Counters → Prop
  | matched {answer} : Closes told nat c (.ok answer) c.clientMatched
  | denied : Closes told nat c (.error .noCapacity) (c.clientDenied nat)
  | timedOut : Closes told nat c (.error .timeout) c.clientTimeout
  | failed {e : BrokerError} (other : told → e.IsFailure) :
      Closes told nat c (.error e) c.clientFailure

namespace Broker

section
variable {b b' : Broker}

theorem counters_of_borrow {nat : NatClass} {proxy : Option Proxy}
    (hb : b.borrow nat = (proxy, b')) : b'.counters = b.counters := by
  obtain rfl : (b.borrow nat).2 = b' := congrArg Prod.snd hb
  rfl

theorem counters_giveBack (b : Broker) (proxy : Proxy) :
    (b.giveBack proxy).counters = b.counters := by
  rw [giveBack]
  split
  · rfl
  · split <;> rfl

theorem counters_endPoll (b : Broker) (proxy : Proxy) (polled : Option Offer) :
    (b.endPoll proxy polled).2.counters = b.counters := by
  simp only [endPoll, withdraw]
  split
  · split <;> rfl
  · rfl

theorem counters_of_takeOffer {proxy : Proxy} {offer : Option Offer}
    (ht : b.takeOffer proxy = (offer, b')) : b'.counters = b.counters := by
  obtain rfl : (b.takeOffer proxy).2 = b' := congrArg Prod.snd ht
  rfl

theorem counters_submitAnswer (b : Broker) (sid text : String) :
    (b.submitAnswer sid text).2.counters = b.counters := by
  rw [submitAnswer]
  split <;> rfl

theorem counters_of_relocate {retiring : List Address} {migrations : List Migration}
    {stranded : Nat} (hr : b.relocate retiring = (migrations, stranded, b')) :
    b'.counters = b.counters := by
  obtain rfl : (b.relocate retiring).2.2 = b' := by rw [hr]
  rw [relocate_eq]

theorem counters_concludeRescale (b : Broker) (retired : Nat) (migrations : List Migration)
    (stranded failed : Nat) :
    (b.concludeRescale retired migrations stranded failed).2.counters =
      b.counters.rescale (stranded = 0) := by
  rw [concludeRescale]
  split
  · next hleft => rw [decide_eq_false (Nat.ne_of_gt hleft)]
  · next hnone => rw [decide_eq_true (Nat.eq_zero_of_not_pos hnone)]

/-- A match that is concluded is counted by its result. -/
theorem closes_concludeMatch (b : Broker) (request : ClientRequest) (proxy : Proxy) (reply : Reply)
    {told : Prop} (honest : ∀ e, reply = .failed e → told → e.IsFailure) (nat : NatClass) :
    b.counters.Closes told nat (b.concludeMatch request proxy reply).1
      (b.concludeMatch request proxy reply).2.counters := by
  cases reply with
  | failed e =>
    simp only [concludeMatch, counters_giveBack]
    exact .failed (honest e rfl)
  | timedOut =>
    simp only [concludeMatch, counters_giveBack]
    exact .timedOut
  | answered answer =>
    simp only [concludeMatch, bindAnswered]
    cases b.directory.host? proxy.addr with
    | none => exact .failed fun _ => BrokerError.IsSignaling.isFailure ⟨_, rfl⟩
    | some current => exact .matched

end

end Broker

namespace History

/-! ## What steps are worth -/

/-- A request of a client that passes the checks. -/
def Event.isAccepted (setup : Setup) : Event → Bool
  | .startMatch request => (Broker.checkRequest setup.catalog request).isOk
  | _ => false

/-- A rescale with hosts to retire or to announce. -/
def Event.isRescale : Event → Bool
  | .rescale retiring incoming => !(retiring.isEmpty && incoming.isEmpty)
  | _ => false

def Event.isPoll : Event → Bool
  | .register _ => true
  | _ => false

/-- How many sessions a step moves. -/
def moved (s : History) : Event → Nat
  | .rescale retiring _ => (s.broker.relocate retiring).1.length
  | _ => 0

/-- The request of the match which an event starts or lets go on. -/
def request? (s : History) : Event → Option ClientRequest
  | .startMatch request => some request
  | .reply call _ | .wake call | .expire call =>
    match s.call? call with
    | some (.matching m) => some m.request
    | _ => none
  | _ => none

/-- A match has ended with an answer. -/
def isAnswered : Option Outcome → Bool
  | some (.matched (.ok _)) => true
  | _ => false

/-- A match has ended with an error. -/
def isError (error : BrokerError) (o : Option Outcome) : Bool :=
  o = some (.matched (.error error))

/-- A client of a class asks for a proxy. -/
def asks (s : History) (e : Event) (kind : NatClass → Bool) : Bool :=
  (s.request? e).any fun request => kind request.nat

/-- What is counted. -/
inductive Account where
  | accepted
  | answered
  | deniedRestricted
  | deniedUnrestricted
  | timedOut
  | rescales
  | transfers
  | polls
  | kinds
deriving DecidableEq

/-- What the counters have on an account. -/
def Account.counted (c : Counters) : Account → Nat
  | accepted => c.matched + c.deniedRestricted + c.deniedUnrestricted + c.timeouts + c.failures
  | answered => c.matched
  | deniedRestricted => c.deniedRestricted
  | deniedUnrestricted => c.deniedUnrestricted
  | timedOut => c.timeouts
  | rescales => c.rescalesCompleted + c.rescalesPartial
  | transfers => c.transfersSent + c.transfersFailed
  | polls => c.pollsWithPattern + c.pollsWithoutPattern
  | kinds => c.polls.weight id

/-- What a waiting call is yet to be counted for. -/
def Account.owed : Account → Call → Nat
  | accepted, .matching _ => 1
  | rescales, .moving _ => 1
  | transfers, .moving m => m.underWay.length
  | _, _ => 0

/-- What the end of a match is worth for a client of a class, with the match itself. -/
def Account.closing (nat : NatClass) (r : Except BrokerError String) : Account → Nat
  | accepted => 1
  | answered => (isAnswered (some (.matched r))).toNat
  | deniedRestricted => (isError .noCapacity (some (.matched r)) && nat ≠ .unrestricted).toNat
  | deniedUnrestricted => (isError .noCapacity (some (.matched r)) && nat = .unrestricted).toNat
  | timedOut => (isError .timeout (some (.matched r))).toNat
  | rescales | transfers | polls | kinds => 0

/-- What a step is worth. -/
def Account.worth (setup : Setup) (s : History) (e : Event) (o : Option Outcome) : Account → Nat
  | accepted => (e.isAccepted setup).toNat
  | answered => (isAnswered o).toNat
  | deniedRestricted => (isError .noCapacity o && s.asks e (· ≠ .unrestricted)).toNat
  | deniedUnrestricted => (isError .noCapacity o && s.asks e (· = .unrestricted)).toNat
  | timedOut => (isError .timeout o).toNat
  | rescales => e.isRescale.toNat
  | transfers => s.moved e
  | polls | kinds => e.isPoll.toNat

/-- The accounts of matches that end with a certain error. -/
def Account.TellsError : Account → Prop
  | deniedRestricted | deniedUnrestricted | timedOut => True
  | accepted | answered | rescales | transfers | polls | kinds => False

/-- What a history has on an account. -/
def books (s : History) (a : Account) : Nat :=
  a.counted s.broker.counters + s.traffic.calls.weight a.owed

/-! ## Entries -/

section
variable {c c' : Counters} (a : Account)

/-- A match that ends is entered by its result. -/
theorem counted_of_closes {nat : NatClass} {r : Except BrokerError String}
    (h : c.Closes a.TellsError nat r c') : a.counted c' = a.counted c + a.closing nat r := by
  cases h with
  | matched =>
    cases a <;> simp [Account.counted, Account.closing, Counters.clientMatched, isAnswered, isError]
    omega
  | denied =>
    cases nat <;> cases a <;>
      simp [Account.counted, Account.closing, Counters.clientDenied, isAnswered, isError] <;> omega
  | timedOut =>
    cases a <;> simp [Account.counted, Account.closing, Counters.clientTimeout, isAnswered, isError]
    omega
  | @failed error other =>
    cases a with
    | deniedRestricted | deniedUnrestricted | timedOut =>
      obtain ⟨capacity, inTime⟩ := other trivial
      simp [Account.counted, Account.closing, Counters.clientFailure, isError, capacity, inTime]
    | accepted =>
      simp only [Account.counted, Account.closing, Counters.clientFailure]
      omega
    | answered | rescales | transfers | polls | kinds => rfl

/-- A rescale that ends is entered, whether it is complete or not. -/
theorem counted_rescale (complete : Bool) :
    a.counted (c.rescale complete) = a.counted c + if a = .rescales then 1 else 0 := by
  cases complete <;> cases a <;> simp [Account.counted, Counters.rescale] <;> omega

/-- An order that is settled is entered, whether it was complied with or not. -/
theorem counted_transfer (delivered : Bool) :
    a.counted (c.transfer delivered) = a.counted c + if a = .transfers then 1 else 0 := by
  cases delivered <;> cases a <;> simp [Account.counted, Counters.transfer] <;> omega

/-- A poll is entered by its pattern and under its kind. -/
theorem counted_poll (type : String) (nat : NatClass) (pattern : Bool) :
    a.counted (c.poll type nat pattern) =
      a.counted c + if a = .polls ∨ a = .kinds then 1 else 0 := by
  have hkinds : (c.poll type nat pattern).polls.weight id = c.polls.weight id + 1 := by
    have hinsert := Table.weight_insert c.polls (Counters.pollKey type nat)
      ((c.polls.get? (Counters.pollKey type nat)).getD 0 + 1) id
    have hpolls : (c.poll type nat pattern).polls = c.polls.insert (Counters.pollKey type nat)
        ((c.polls.get? (Counters.pollKey type nat)).getD 0 + 1) := by
      cases pattern <;> rfl
    rw [hpolls]
    cases hget : c.polls.get? (Counters.pollKey type nat) with
    | none => simpa [hget] using hinsert
    | some n =>
      simp only [hget, Option.elim_some, Option.getD_some, id] at hinsert ⊢
      omega
  cases a with
  | kinds => simpa [Account.counted] using hkinds
  | polls => cases pattern <;> simp [Account.counted, Counters.poll] <;> omega
  | accepted | answered | deniedRestricted | deniedUnrestricted | timedOut | rescales | transfers =>
    cases pattern <;> rfl

/-- What a rescale owes that waits. -/
theorem owed_moving (m : Moving) :
    a.owed (.moving m) =
      (if a = .rescales then 1 else 0) + if a = .transfers then m.underWay.length else 0 := by
  cases a <;> simp [Account.owed]

/-- An order that is settled is owed no more. -/
theorem owed_settleOne {m : Moving} {position : Nat} (sent : position ∈ m.underWay)
    (delivered : Bool) :
    a.owed (.moving m) =
      a.owed (.moving (settleOne m position delivered)) + if a = .transfers then 1 else 0 := by
  have hpos : 0 < m.underWay.length := List.length_pos_of_mem sent
  have hfewer : (settleOne m position delivered).underWay.length = m.underWay.length - 1 :=
    List.length_erase_of_mem sent
  cases a with
  | transfers =>
    simp only [Account.owed, hfewer, if_true]
    omega
  | accepted | answered | deniedRestricted | deniedUnrestricted | timedOut | rescales | polls
  | kinds => rfl

end

/-! ## Calls in flight -/

section
variable {s : History}

theorem weight_wait (h : s.Sound) (c : Call) (w : Call → Nat) :
    (s.wait c).traffic.calls.weight w = s.traffic.calls.weight w + w c := by
  have hinsert := Table.weight_insert s.traffic.calls s.traffic.nextCall c w
  rw [show s.traffic.calls.get? s.traffic.nextCall = none from h.free _ (Nat.le_refl _)] at hinsert
  exact hinsert

theorem weight_endCall {n : Nat} {c : Call} (hc : s.call? n = some c) (w : Call → Nat) :
    (s.endCall n).traffic.calls.weight w + w c = s.traffic.calls.weight w := by
  have herase := Table.weight_erase s.traffic.calls n w
  rwa [show s.traffic.calls.get? n = some c from hc] at herase

theorem weight_setCall {n : Nat} {old : Call} (hold : s.call? n = some old) (c : Call)
    (w : Call → Nat) :
    (s.setCall n c).traffic.calls.weight w + w old = s.traffic.calls.weight w + w c := by
  have hinsert := Table.weight_insert s.traffic.calls n c w
  rwa [show s.traffic.calls.get? n = some old from hold] at hinsert

end

theorem counters_abandoned (b : Broker) (m : Matching) : (abandoned b m).counters = b.counters := by
  rw [abandoned]
  split <;> rfl

/-! ## Steps -/

section
variable {setup : Setup} {s s' : History} {e : Event} {o : Option Outcome} (a : Account)

theorem request?_of_glances {n : Nat} {m : Matching} (glances : Glances n e)
    (waits : s.call? n = some (.matching m)) : s.request? e = some m.request := by
  cases glances <;> simp only [request?, waits]

/-- A match that ends as soon as it has started is worth its end. -/
theorem worth_startMatch {request : ClientRequest} {bridge : Bridge}
    (checked : Broker.checkRequest setup.catalog request = .ok bridge)
    (r : Except BrokerError String) :
    a.worth setup s (.startMatch request) (some (.matched r)) = a.closing request.nat r := by
  have haccepted : Event.isAccepted setup (.startMatch request) = true := by
    simp only [Event.isAccepted, checked]
    rfl
  cases a <;> simp [Account.worth, Account.closing, haccepted, asks, request?, Event.isRescale,
    Event.isPoll, moved]

/-- A match that has waited is worth its end, but for its start. -/
theorem worth_closing {n : Nat} {request : ClientRequest} (goesOn : e.call? = some n)
    (asked : s.request? e = some request) (m : Matching) (r : Except BrokerError String) :
    a.worth setup s e (some (.matched r)) + a.owed (.matching m) = a.closing request.nat r := by
  cases e with
  | reply | wake | expire =>
    cases a <;> simp [Account.worth, Account.closing, Account.owed, asks, asked, Event.isAccepted,
      Event.isRescale, Event.isPoll, moved]
  | settle => cases asked
  | register | await | startMatch | submitAnswer | notify | rescale => cases goesOn

/-- What a step is worth that only lets a call go on, or lets it wait on. -/
theorem worth_eq_zero {n : Nat} (goesOn : e.call? = some n) (hanswer : isAnswered o = false)
    (hdenied : isError .noCapacity o = false) (htime : isError .timeout o = false) :
    a.worth setup s e o = 0 := by
  cases e with
  | reply | wake | expire | settle =>
    cases a <;> simp [Account.worth, hanswer, hdenied, htime, Event.isAccepted, Event.isRescale,
      Event.isPoll, moved]
  | register | await | startMatch | submitAnswer | notify | rescale => cases goesOn

/-- The books after a match that has waited. -/
theorem books_closed {n : Nat} {m : Matching} {r : Except BrokerError String} {b : Broker}
    (goesOn : e.call? = some n) (waits : s.call? n = some (.matching m))
    (asked : s.request? e = some m.request)
    (closes : s.broker.counters.Closes a.TellsError m.request.nat r b.counters) :
    ((s.setBroker b).endCall n).books a = s.books a + a.worth setup s e (some (.matched r)) := by
  have hcounted := counted_of_closes a closes
  have hworth : a.worth setup s e (some (.matched r)) + a.owed (.matching m) =
      a.closing m.request.nat r := worth_closing a goesOn asked m r
  have hweight := weight_endCall (s := s.setBroker b) waits a.owed
  have hcalls : (s.setBroker b).traffic.calls = s.traffic.calls := rfl
  rw [hcalls] at hweight
  rw [books, books, broker_endCall, broker_setBroker]
  omega

/-- The books after a match that has ended as soon as it has started. -/
theorem books_closed_at_once {request : ClientRequest} {bridge : Bridge} {b : Broker}
    (checked : Broker.checkRequest setup.catalog request = .ok bridge)
    {r : Except BrokerError String}
    (closes : s.broker.counters.Closes a.TellsError request.nat r b.counters) :
    (s.setBroker b).books a =
      s.books a + a.worth setup s (.startMatch request) (some (.matched r)) := by
  have hcounted := counted_of_closes a closes
  have hcalls : (s.setBroker b).traffic.calls = s.traffic.calls := rfl
  rw [books, books, broker_setBroker, hcalls, worth_startMatch a checked]
  omega

/-- The books after a match that has started. -/
theorem books_opened (h : s.Sound) {request : ClientRequest} {bridge : Bridge} {b : Broker}
    (checked : Broker.checkRequest setup.catalog request = .ok bridge)
    (order : b.InOrder s.records) (hcounters : b.counters = s.broker.counters) (m : Matching) :
    ((s.setBroker b).wait (.matching m)).books a =
      s.books a + a.worth setup s (.startMatch request) none := by
  have hweight := weight_wait (h.setBroker order) (.matching m) a.owed
  have hcalls : (s.setBroker b).traffic.calls = s.traffic.calls := rfl
  have hworth : a.worth setup s (.startMatch request) none = a.owed (.matching m) := by
    cases a <;> simp [Account.worth, Account.owed, Event.isAccepted, checked, isAnswered, isError,
      Event.isRescale, Event.isPoll, moved, Except.isOk, Except.toBool]
  rw [books, books, hweight, hcalls, broker_wait, broker_setBroker, hcounters, hworth]
  omega

/-- The books after a poll that has waited. -/
theorem books_polled {n : Nat} {proxy : Proxy} {b : Broker} {offer : Option Offer}
    (goesOn : e.call? = some n) (waits : s.call? n = some (.polling proxy))
    (hcounters : b.counters = s.broker.counters) :
    ((s.setBroker b).endCall n).books a = s.books a + a.worth setup s e (some (.polled offer)) := by
  have hweight := weight_endCall (s := s.setBroker b) waits a.owed
  have hcalls : (s.setBroker b).traffic.calls = s.traffic.calls := rfl
  have howed : a.owed (.polling proxy) = 0 := by cases a <;> rfl
  rw [howed, hcalls, Nat.add_zero] at hweight
  rw [books, books, hweight, broker_endCall, broker_setBroker, hcounters,
    worth_eq_zero a goesOn rfl rfl rfl, Nat.add_zero]

/-- A rescale with hosts is worth itself and its moves. -/
theorem worth_rescale {retiring incoming : List Address} {migrations : List Migration}
    {stranded : Nat} {b : Broker} (nonempty : Event.rescale retiring incoming ≠ .rescale [] [])
    (relocated : s.broker.relocate retiring = (migrations, stranded, b))
    (notMatched : ∀ r, o ≠ some (.matched r)) :
    a.worth setup s (.rescale retiring incoming) o =
      (if a = .rescales then 1 else 0) + if a = .transfers then migrations.length else 0 := by
  have hrescale : Event.isRescale (.rescale retiring incoming) = true := by
    cases retiring with
    | cons => rfl
    | nil =>
      cases incoming with
      | cons => rfl
      | nil => exact absurd rfl nonempty
  have hmoved : s.moved (.rescale retiring incoming) = migrations.length := by
    simp only [moved, relocated]
  have hanswered : isAnswered o = false := by
    unfold isAnswered
    split
    · exact absurd rfl (notMatched _)
    · rfl
  cases a <;> simp [Account.worth, hrescale, hmoved, hanswered, isError, notMatched,
    Event.isAccepted, Event.isPoll]

/-- The books after a step that is worth nothing. -/
theorem books_kept (hcounters : s'.broker.counters = s.broker.counters)
    (hcalls : s'.traffic.calls.weight a.owed = s.traffic.calls.weight a.owed)
    (hworth : a.worth setup s e o = 0) : s'.books a = s.books a + a.worth setup s e o := by
  rw [books, books, hcounters, hcalls, hworth, Nat.add_zero]

/-- A request that is refused is worth nothing. -/
theorem worth_refused {request : ClientRequest} {error : BrokerError}
    (checked : Broker.checkRequest setup.catalog request = .error error) :
    a.worth setup s (.startMatch request) (some (.matched (.error error))) = 0 := by
  -- The status of what is refused is that of neither a denial nor a timeout.
  have hstatus := Broker.checkRequest_error checked
  have hdenied : error ≠ .noCapacity := by
    rintro rfl
    cases hstatus
  have htime : error ≠ .timeout := by
    rintro rfl
    cases hstatus
  cases a <;> simp [Account.worth, Event.isAccepted, checked, isAnswered, isError, hdenied, htime,
    Event.isRescale, Event.isPoll, moved, Except.isOk, Except.toBool]

/-- The books after a poll has entered its record. -/
theorem books_registered (poll : Broker.Announcement) :
    History.books ⟨(s.traffic.register poll).2, s.records ++ [(s.traffic.register poll).1]⟩ a =
      s.books a + a.worth setup s (.register poll) none := by
  have hcounted := counted_poll (c := s.broker.counters) a poll.type poll.nat poll.pattern
  have hworth : a.worth setup s (.register poll) none =
      if a = .polls ∨ a = .kinds then 1 else 0 := by
    cases a <;> rfl
  have hcounters : (s.broker.register poll).2.counters =
      s.broker.counters.poll poll.type poll.nat poll.pattern := rfl
  have hafter : History.books ⟨(s.traffic.register poll).2,
      s.records ++ [(s.traffic.register poll).1]⟩ a =
      a.counted (s.broker.register poll).2.counters + s.traffic.calls.weight a.owed := rfl
  rw [hafter, hcounters, hcounted, hworth, books]
  omega

/-- The books after a rescale that has ended as soon as it has started. -/
theorem books_rescaled {retiring incoming : List Address} {stranded : Nat} {b : Broker}
    (nonempty : Event.rescale retiring incoming ≠ .rescale [] [])
    (relocated : s.broker.relocate retiring = ([], stranded, b)) :
    let concluded := b.concludeRescale retiring.length [] stranded 0
    (s.setBroker concluded.2).books a = s.books a +
      a.worth setup s (.rescale retiring incoming) (some (.rescaled concluded.1)) := by
  intro concluded
  have hcounted := counted_rescale (c := b.counters) a (stranded = 0)
  rw [Broker.counters_of_relocate relocated] at hcounted
  have hcalls : (s.setBroker concluded.2).traffic.calls = s.traffic.calls := rfl
  rw [books, books, broker_setBroker, Broker.counters_concludeRescale,
    Broker.counters_of_relocate relocated, hcounted, hcalls,
    worth_rescale a nonempty relocated (by simp), List.length_nil, ite_self]
  omega

/-- The books after a rescale has sent its orders: it owes itself and each of them. -/
theorem books_moving (h : s.Sound) {retiring incoming : List Address}
    {migrations : List Migration} {stranded : Nat} {b : Broker}
    (nonempty : Event.rescale retiring incoming ≠ .rescale [] [])
    (relocated : s.broker.relocate retiring = (migrations, stranded, b)) :
    let m : Moving :=
      ⟨retiring.length, migrations, stranded, List.range migrations.length, 0⟩
    ((s.setBroker b).wait (.moving m)).books a =
      s.books a + a.worth setup s (.rescale retiring incoming) none := by
  intro m
  have hweight := weight_wait (h.setBroker (h.order.relocate relocated)) (.moving m) a.owed
  have hcalls : (s.setBroker b).traffic.calls = s.traffic.calls := rfl
  rw [owed_moving, List.length_range, hcalls] at hweight
  rw [books, books, hweight, broker_wait, broker_setBroker,
    Broker.counters_of_relocate relocated, worth_rescale a nonempty relocated (by simp)]
  omega

/-- The books after an order is settled, others being under way: it is counted now, and owed no
more. -/
theorem books_settled {n position : Nat} {delivered : Bool} {m : Moving}
    (waits : s.call? n = some (.moving m)) (sent : position ∈ m.underWay) :
    ((s.setBroker (s.broker.countTransfer delivered)).setCall n
        (.moving (settleOne m position delivered))).books a =
      s.books a + a.worth setup s (.settle n position delivered) none := by
  have hcounted := counted_transfer (c := s.broker.counters) a delivered
  have hweight := weight_setCall (s := s.setBroker (s.broker.countTransfer delivered)) waits
    (.moving (settleOne m position delivered)) a.owed
  have hcalls : (s.setBroker (s.broker.countTransfer delivered)).traffic.calls =
      s.traffic.calls := rfl
  have hcounters : (s.broker.countTransfer delivered).counters =
      s.broker.counters.transfer delivered := rfl
  rw [hcalls, owed_settleOne a sent delivered] at hweight
  rw [books, books, broker_setCall, broker_setBroker, hcounters, hcounted,
    worth_eq_zero a rfl rfl rfl rfl]
  omega

/-- The books after the last order is settled: it is counted now, and so is the rescale. -/
theorem books_settledLast {n position : Nat} {delivered : Bool} {m : Moving}
    (waits : s.call? n = some (.moving m)) (sent : position ∈ m.underWay)
    (last : (settleOne m position delivered).underWay = []) :
    let concluded := (s.broker.countTransfer delivered).concludeRescale m.retired m.migrations
      m.stranded (settleOne m position delivered).failed
    ((s.setBroker concluded.2).endCall n).books a = s.books a +
      a.worth setup s (.settle n position delivered) (some (.rescaled concluded.1)) := by
  intro concluded
  have htransfer := counted_transfer (c := s.broker.counters) a delivered
  have hrescale := counted_rescale (c := s.broker.counters.transfer delivered) a (m.stranded = 0)
  have hcounters : (s.broker.countTransfer delivered).counters =
      s.broker.counters.transfer delivered := rfl
  -- What it has owed was this order and itself.
  have howed := owed_settleOne a sent delivered
  rw [owed_moving a (settleOne m position delivered), last, List.length_nil, ite_self] at howed
  have hweight := weight_endCall (s := s.setBroker concluded.2) waits a.owed
  have hcalls : (s.setBroker concluded.2).traffic.calls = s.traffic.calls := rfl
  rw [hcalls] at hweight
  rw [books, books, broker_endCall, broker_setBroker, Broker.counters_concludeRescale, hcounters,
    hrescale, htransfer, worth_eq_zero a rfl rfl rfl rfl]
  omega

/-- Each step puts on each account what it is worth. -/
theorem Change.books (hc : Change setup s e o s') (h : s.Sound) (nonempty : e ≠ .rescale [] [])
    (honest : a.TellsError → ∀ n error, e = .reply n (.error error) → error.IsFailure) :
    s'.books a = s.books a + a.worth setup s e o := by
  cases hc with
  | idle goesOn => exact books_kept a rfl rfl (worth_eq_zero a goesOn rfl rfl rfl)
  | unknown absent => exact books_kept a rfl rfl (by cases a <;> rfl)
  | answered sid answer =>
    exact books_kept a (Broker.counters_submitAnswer ..) rfl (by cases a <;> rfl)
  | noticed cid action addr => exact books_kept a rfl rfl (by cases a <;> rfl)
  | rescaledNothing => exact absurd rfl nonempty
  | @awaited _ proxy entered =>
    have howed : a.owed (.polling proxy) = 0 := by cases a <;> rfl
    refine books_kept a rfl ?_ (by cases a <;> rfl)
    rw [weight_wait h, howed, Nat.add_zero]
  | polledAtOnce entered taken =>
    refine books_kept a ?_ rfl (by cases a <;> rfl)
    exact (Broker.counters_endPoll ..).trans (Broker.counters_of_takeOffer taken)
  | polled glances waits taken =>
    exact books_polled a glances.call? waits
      ((Broker.counters_endPoll ..).trans (Broker.counters_of_takeOffer taken))
  | pollExpired waits nothing => exact books_polled a rfl waits (Broker.counters_endPoll ..)
  | refused checked => exact books_kept a rfl rfl (worth_refused a checked)
  | registered poll => exact books_registered a poll
  | @denied request bridge b checked borrowed =>
    have hcounters := Broker.counters_of_borrow borrowed
    refine books_closed_at_once a checked ?_
    rw [← hcounters]
    exact .denied
  | pushed checked borrowed mode =>
    exact books_opened a h checked (h.order.borrow borrowed) (Broker.counters_of_borrow borrowed) _
  | parked checked borrowed mode posted =>
    have hcounters := Broker.counters_of_borrow borrowed
    exact books_opened a h checked
      ((h.order.borrow borrowed).setMailbox (Mailbox.closed_post posted)) hcounters _
  | @bounced request bridge proxy b error checked borrowed mode posted =>
    have hfailure : error.IsFailure := (Mailbox.post_error posted).isFailure
    refine books_closed_at_once a checked ?_
    rw [← Broker.counters_of_borrow borrowed]
    exact Broker.closes_concludeMatch _ _ _ (.failed _)
      (fun _ hfailed _ => Broker.Reply.failed.inj hfailed ▸ hfailure) _
  | @replied n m r waits pushed =>
    refine books_closed a rfl waits (by simp only [request?, waits]) ?_
    refine Broker.closes_concludeMatch _ _ _ _ (fun error hfailed told => ?_) _
    cases r with
    | ok answer => cases hfailed
    | error error' =>
      cases hfailed
      exact honest told n _ rfl
  | collected glances waits parked found =>
    exact books_closed a glances.call? waits (request?_of_glances glances waits)
      (Broker.closes_concludeMatch (s.broker.setMailbox _ _) _ _ (.answered _) nofun _)
  | @expired n m waits silent =>
    refine books_closed a rfl waits (request?_of_glances .expire waits) ?_
    rw [← counters_abandoned s.broker m]
    exact Broker.closes_concludeMatch _ _ _ .timedOut nofun _
  | rescaled relocated => exact books_rescaled a nonempty relocated
  | moving relocated moved => exact books_moving a h nonempty relocated
  | settled waits sent others => exact books_settled a waits sent
  | settledLast waits sent last => exact books_settledLast a waits sent last

end

/-! ## Runs -/

/-- The steps of a run are its events. -/
theorem map_snd_trace (setup : Setup) (events : List Event) :
    (trace setup events).map Prod.snd = events := by
  induction events using List.reverseRecOn with
  | nil => rfl
  | append_singleton events e ih =>
    rw [trace_append, List.map_append, ih]
    rfl

theorem step_books (setup : Setup) (s : History) (h : s.Sound) (e : Event) (a : Account)
    (honest : a.TellsError → ∀ n error, e = .reply n (.error error) → error.IsFailure) :
    (s.step setup e).2.books a = s.books a + a.worth setup s e (s.step setup e).1 := by
  by_cases hnothing : e = .rescale [] []
  · -- A rescale without hosts is not one of those that are counted.
    subst hnothing
    have hworth : a.worth setup s (.rescale [] []) (some (.rescaled (.ok ⟨0, [], 0⟩))) = 0 := by
      cases a <;> rfl
    exact (congrArg (s.books a + ·) hworth).symm
  · exact (step_change setup s e).books a h hnothing honest

/-- What a run has on an account is the worth of its steps. -/
theorem run_books (setup : Setup) (events : List Event) (a : Account)
    (honest : a.TellsError → ∀ n error, .reply n (.error error) ∈ events → error.IsFailure) :
    (run setup events).books a =
      ((trace setup events).map fun x => a.worth setup x.1 x.2 (x.1.step setup x.2).1).sum := by
  induction events using List.reverseRecOn with
  | nil => cases a <;> rfl
  | append_singleton events e ih =>
    have hbefore := ih fun told n error hmem => honest told n error (List.mem_append_left _ hmem)
    have hstep := step_books setup (run setup events) (run_sound setup events) e a
      fun told n error he =>
        honest told n error (List.mem_append_right _ (he ▸ List.mem_singleton_self _))
    rw [run_append, hstep, hbefore, trace_append, List.map_append, List.sum_append,
      List.map_singleton, List.sum_singleton]

/-- When no call waits, the counters alone say what the steps of a run were worth. -/
theorem counted_of_idle (setup : Setup) (events : List Event)
    (idle : ∀ n, (run setup events).call? n = none) (a : Account)
    (honest : a.TellsError → ∀ n error, .reply n (.error error) ∈ events → error.IsFailure) :
    a.counted (run setup events).broker.counters =
      ((trace setup events).map fun x => a.worth setup x.1 x.2 (x.1.step setup x.2).1).sum := by
  have howed : (run setup events).traffic.calls.weight a.owed = 0 :=
    Table.weight_eq_zero fun n c hn => by
      rw [show (run setup events).traffic.calls.get? n = none from idle n] at hn
      cases hn
  rw [← run_books setup events a honest, books, howed, Nat.add_zero]

theorem sum_map_toNat {α : Type} (l : List α) (p : α → Bool) :
    (l.map fun x => (p x).toNat).sum = l.countP p := by
  induction l with
  | nil => rfl
  | cons x l ih =>
    rw [List.map_cons, List.sum_cons, ih, List.countP_cons, Nat.add_comm]
    cases p x <;> rfl

/-- What is said of the events of a run is said of its steps. -/
theorem countP_events (setup : Setup) (events : List Event) (p : Event → Bool) :
    ((trace setup events).map fun x => (p x.2).toNat).sum = events.countP p := by
  rw [sum_map_toNat]
  conv_rhs => rw [← map_snd_trace setup events, List.countP_map]
  rfl

/-- **The counters account for every outcome once.** When no call waits, the five outcomes of
clients add up to the requests that have passed the checks, and the answers to those that were
answered; the rescales to those that had hosts to retire or to announce, and the transfers to
the moves that they have made; the polls by kind add up to those with and without a pattern, and
these to the polls. If no proxy replies with an error that is none of its own, the denials are
the matches that have ended for want of a proxy, by the class of the client, and the timeouts
those that have ended so. -/
theorem every_outcome_counted_once (setup : Setup) (events : List Event)
    (idle : ∀ n, (run setup events).call? n = none) :
    let c := (run setup events).broker.counters
    let steps := trace setup events
    let outcome (x : History × Event) := (x.1.step setup x.2).1
    (c.matched + c.deniedRestricted + c.deniedUnrestricted + c.timeouts + c.failures =
      events.countP (Event.isAccepted setup)) ∧
    c.matched = steps.countP (fun x => isAnswered (outcome x)) ∧
    ((∀ n error, .reply n (.error error) ∈ events → error.IsFailure) →
      c.deniedRestricted = steps.countP (fun x =>
        isError .noCapacity (outcome x) && x.1.asks x.2 (· ≠ .unrestricted)) ∧
      c.deniedUnrestricted = steps.countP (fun x =>
        isError .noCapacity (outcome x) && x.1.asks x.2 (· = .unrestricted)) ∧
      c.timeouts = steps.countP fun x => isError .timeout (outcome x)) ∧
    c.rescalesCompleted + c.rescalesPartial = events.countP Event.isRescale ∧
    c.transfersSent + c.transfersFailed = (steps.map fun x => x.1.moved x.2).sum ∧
    (c.pollsSorted.map Prod.snd).sum = c.pollsWithPattern + c.pollsWithoutPattern ∧
    c.pollsWithPattern + c.pollsWithoutPattern = events.countP Event.isPoll := by
  intro c steps outcome
  have hcounted := counted_of_idle setup events idle
  have hpolls : c.pollsWithPattern + c.pollsWithoutPattern = events.countP Event.isPoll :=
    (hcounted .polls nofun).trans (countP_events setup events _)
  refine ⟨?_, ?_, fun honest => ⟨?_, ?_, ?_⟩, ?_, ?_, ?_, hpolls⟩
  · exact (hcounted .accepted nofun).trans (countP_events setup events _)
  · exact (hcounted .answered nofun).trans (sum_map_toNat ..)
  · exact (hcounted .deniedRestricted fun _ => honest).trans (sum_map_toNat ..)
  · exact (hcounted .deniedUnrestricted fun _ => honest).trans (sum_map_toNat ..)
  · exact (hcounted .timedOut fun _ => honest).trans (sum_map_toNat ..)
  · exact (hcounted .rescales nofun).trans (countP_events setup events _)
  · exact hcounted .transfers nofun
  · -- The order of the kinds does not matter.
    have hkinds := (hcounted .kinds nofun).trans (countP_events setup events Event.isPoll)
    have hperm := (List.mergeSort_perm c.polls.entries fun a b => a.1 ≤ b.1).map Prod.snd
    rw [hpolls, ← hkinds, Counters.pollsSorted, hperm.sum_nat]
    rfl

/-- A client comes before any proxy; two proxies poll; one client is answered and another one is
not; then the first proxy is retired, and its client is handed over. -/
def oneOfEach : List Event :=
  let client (cid : String) : Event := .startMatch ⟨cid, .unrestricted, "", "a=candidate:1"⟩
  let poll (sid : String) (last : UInt8) (pattern : Bool) : Event :=
    .register ⟨sid, "standalone", .unrestricted, .v4 10 0 0 last, 0, pattern⟩
  [client "c0", poll "s1" 1 true, poll "s2" 2 false, client "c1", .reply 0 (.ok "ANSWER"),
    client "c2", .expire 1, .rescale [.v4 10 0 0 1] [], .settle 2 0 true]

theorem one_of_each_counted :
    let setup : Setup := ⟨Settings.standard, Catalog.builtin⟩
    let c := (run setup oneOfEach).broker.counters
    (∀ n, (run setup oneOfEach).call? n = none) ∧
      c.matched + c.deniedRestricted + c.deniedUnrestricted + c.timeouts + c.failures = 3 ∧
      c.matched = 1 ∧ c.deniedRestricted = 0 ∧ c.deniedUnrestricted = 1 ∧ c.timeouts = 1 ∧
      c.rescalesCompleted + c.rescalesPartial = 1 ∧ c.transfersSent + c.transfersFailed = 1 ∧
      (c.pollsSorted.map Prod.snd).sum = c.pollsWithPattern + c.pollsWithoutPattern ∧
      c.pollsWithPattern + c.pollsWithoutPattern = 2 := by
  intro setup c
  have hempty : (run setup oneOfEach).traffic.calls = Table.empty := by decide +kernel
  have idle : ∀ n, (run setup oneOfEach).call? n = none := fun n => by
    rw [call?, hempty]
    rfl
  have honest : ∀ n error, .reply n (.error error) ∈ oneOfEach → error.IsFailure := by
    intro n error hmem
    simp [oneOfEach] at hmem
  obtain ⟨hall, hmatched, herrors, hrescales, htransfers, hkinds, hpolls⟩ :=
    every_outcome_counted_once setup oneOfEach idle
  obtain ⟨hrestricted, hunrestricted, htimeouts⟩ := herrors honest
  refine ⟨idle, hall.trans ?_, hmatched.trans ?_, hrestricted.trans ?_, hunrestricted.trans ?_,
    htimeouts.trans ?_, hrescales.trans ?_, htransfers.trans ?_, hkinds, hpolls.trans ?_⟩
  all_goals decide +kernel

end History

end RelayBroker
