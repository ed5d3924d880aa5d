/-
  RelayBroker.Broker.Traffic

  A broker with the calls that wait: matches that wait for an answer, polls that wait
  for an offer, and rescales that wait for their instructions to be settled. Each
  operation runs from one wait to the next in one piece; in which order waiting calls
  go on is up to whoever drives the traffic.
-/

import RelayBroker.Broker.Matching
import RelayBroker.Broker.Notices
import RelayBroker.Broker.Polling
import RelayBroker.Broker.Rescale

namespace RelayBroker

/-! ## Calls -/

/-- A match that waits for the answer of its proxy. -/
structure Matching where
  request : ClientRequest
  proxy : Proxy
  offer : Offer
  /-- The ticket from the mailbox of the record; none if the offer was pushed. -/
  ticket : Option Nat
deriving DecidableEq, Repr

/-- A rescale that waits for its instructions to be settled. -/
structure Moving where
  retired : Nat
  migrations : List Migration
  stranded : Nat
  /-- The positions of the migrations whose instructions are under way. -/
  underWay : List Nat
  failed : Nat
deriving DecidableEq, Repr

/-- A call that waits. -/
inductive Call where
  | matching (m : Matching)
  | polling (proxy : Proxy)
  | moving (m : Moving)
deriving DecidableEq, Repr

/-- How a call ended. -/
inductive Outcome where
  | matched (r : Except BrokerError String)
  | polled (offer : Option Offer)
  | rescaled (r : Except BrokerError RescaleReport)

/-- A call ended at once, or waits under a number. -/
inductive Progress where
  | done (outcome : Outcome)
  | waiting (call : Nat)

/-- A broker and the calls that wait, by number. -/
structure Traffic where
  broker : Broker
  calls : Table Nat Call
  /-- The number of the next call that waits. -/
  nextCall : Nat
deriving DecidableEq

namespace Traffic

/-- A broker that was just started. -/
def empty : Traffic := ⟨Broker.empty, Table.empty, 0⟩

instance : Inhabited Traffic := ⟨empty⟩

/-- Lets a call wait. -/
def wait (t : Traffic) (call : Call) : Progress × Traffic :=
  (.waiting t.nextCall,
    { t with calls := t.calls.insert t.nextCall call, nextCall := t.nextCall + 1 })

/-- Ends a waiting call. -/
def finish (t : Traffic) (call : Nat) (outcome : Outcome) (b : Broker) : Option Outcome × Traffic :=
  (some outcome, { t with broker := b, calls := t.calls.erase call })

/-- Whether no other poll of the record waits since before the call `call`. Polls of
one record look into its mailbox one after the other. -/
def isNext (t : Traffic) (call : Nat) (proxy : Proxy) : Bool :=
  t.calls.entries.all fun
    | (earlier, .polling p) => p.poll ≠ proxy.poll || call ≤ earlier
    | _ => true

/-! ## Operations without a wait -/

/-- Enters a polling proxy. -/
def register (t : Traffic) (poll : Broker.Announcement) : Proxy × Traffic :=
  let (proxy, b) := t.broker.register poll
  (proxy, { t with broker := b })

/-- Hands an answer to whoever waits for it. -/
def submitAnswer (t : Traffic) (sid answer : String) : Bool × Traffic :=
  let (delivered, b) := t.broker.submitAnswer sid answer
  (delivered, { t with broker := b })

/-- Applies a notice of a host about a client. -/
def notify (t : Traffic) (cid : String) (action : SessionAction) (addr : Address) :
    Bool × Traffic :=
  let (applied, b) := t.broker.notify cid action addr
  (applied, { t with broker := b })

/-- Hands out a proxy without a match. -/
def borrow (t : Traffic) (nat : NatClass) : Option Proxy × Traffic :=
  let (proxy, b) := t.broker.borrow nat
  (proxy, { t with broker := b })

/-! ## Starting calls -/

/-- Starts a match: a proxy is borrowed, and its offer is parked or is to be pushed. -/
def startMatch (t : Traffic) (setup : Setup) (request : ClientRequest) : Progress × Traffic :=
  match t.broker.openMatch setup.catalog request with
  | (.error e, b) => (.done (.matched (.error e)), { t with broker := b })
  | (.ok (proxy, offer), b) =>
    match setup.settings.mode with
    | .push => { t with broker := b }.wait (.matching ⟨request, proxy, offer, none⟩)
    | .mailbox =>
      match b.postOffer proxy offer with
      | (.ok ticket, b) =>
        { t with broker := b }.wait (.matching ⟨request, proxy, offer, some ticket⟩)
      | (.error e, b) =>
        -- The mailbox takes no offer, and so there is nothing to wait for.
        let (r, b) := b.concludeMatch request proxy (.failed e)
        (.done (.matched r), { t with broker := b })

/-- Starts to wait for an offer; one that is parked ends the poll at once, unless
another poll of the record waits. -/
def startPoll (t : Traffic) (proxy : Proxy) : Progress × Traffic :=
  if t.isNext t.nextCall proxy then
    match t.broker.takeOffer proxy with
    | (some offer, b) =>
      let (offer, b) := b.endPoll proxy (some offer)
      (.done (.polled offer), { t with broker := b })
    | (none, _) => t.wait (.polling proxy)
  else t.wait (.polling proxy)

/-- Starts a rescale: hosts are retired and sessions moved; instructions to hand over
the clients are to be sent. -/
def startRescale (t : Traffic) (retiring incoming : List Address) : Progress × Traffic :=
  if retiring.isEmpty && incoming.isEmpty then (.done (.rescaled (.ok ⟨0, [], 0⟩)), t)
  else
    let (migrations, stranded, b) := t.broker.relocate retiring
    if migrations.isEmpty then
      -- Without a client to hand over there is nothing to wait for.
      let (r, b) := b.concludeRescale retiring.length migrations stranded 0
      (.done (.rescaled r), { t with broker := b })
    else
      { t with broker := b }.wait
        (.moving ⟨retiring.length, migrations, stranded, List.range migrations.length, 0⟩)

/-! ## Going on with calls -/

/-- The proxy to which an offer was pushed replies. -/
def reply (t : Traffic) (call : Nat) (r : Except BrokerError String) : Option Outcome × Traffic :=
  match t.calls.get? call with
  | some (.matching m) =>
    if m.ticket.isSome then (none, t)
    else
      let reply := match r with
        | .ok answer => .answered answer
        | .error e => .failed e
      let (r, b) := t.broker.concludeMatch m.request m.proxy reply
      t.finish call (.matched r) b
  | _ => (none, t)

/-- An instruction to hand over a client is settled. -/
def settleTransfer (t : Traffic) (call position : Nat) (delivered : Bool) :
    Option Outcome × Traffic :=
  match t.calls.get? call with
  | some (.moving m) =>
    if m.underWay.contains position then
      let b := t.broker.countTransfer delivered
      let underWay := m.underWay.erase position
      let failed := if delivered then m.failed else m.failed + 1
      if underWay.isEmpty then
        let (r, b) := b.concludeRescale m.retired m.migrations m.stranded failed
        t.finish call (.rescaled r) b
      else
        (none, { t with
          broker := b, calls := t.calls.insert call (.moving { m with underWay, failed }) })
    else (none, t)
  | _ => (none, t)

/-- A match whose ticket was answered takes the answer; a poll for which an offer is
parked takes it. -/
def wake (t : Traffic) (call : Nat) : Option Outcome × Traffic :=
  match t.calls.get? call with
  | some (.matching m) =>
    match m.ticket with
    | none => (none, t)
    | some ticket =>
      match (t.broker.mailbox m.proxy).check ticket with
      | (.answer answer, box) =>
        let b := t.broker.setMailbox m.proxy box
        let (r, b) := b.concludeMatch m.request m.proxy (.answered answer)
        t.finish call (.matched r) b
      | _ => (none, t)
  | some (.polling proxy) =>
    if t.isNext call proxy then
      match t.broker.takeOffer proxy with
      | (some offer, b) =>
        let (offer, b) := b.endPoll proxy (some offer)
        t.finish call (.polled offer) b
      | (none, _) => (none, t)
    else (none, t)
  | _ => (none, t)

/-- The time of a match or a poll is up. What has come before that still counts, and
the time of a poll only runs once no earlier poll of the record waits. -/
def expire (t : Traffic) (call : Nat) : Option Outcome × Traffic :=
  match t.wake call with
  -- What a call waits for may have come at the last moment.
  | (some outcome, t) => (some outcome, t)
  | (none, _) =>
    match t.calls.get? call with
    | some (.matching m) =>
      let b := match m.ticket with
        | some ticket => t.broker.abandonTicket m.proxy ticket
        | none => t.broker
      let (r, b) := b.concludeMatch m.request m.proxy .timedOut
      t.finish call (.matched r) b
    | some (.polling proxy) =>
      if t.isNext call proxy then
        let (offer, b) := t.broker.endPoll proxy none
        t.finish call (.polled offer) b
      else (none, t)
    | _ => (none, t)

/-! ## Standstill -/

/-- Lets the calls of a list go on that can, once each; gives those that ended. -/
def wakeAll : List Nat → Traffic → List (Nat × Outcome) × Traffic
  | [], t => ([], t)
  | call :: calls, t =>
    match t.wake call with
    | (some outcome, t) =>
      let (ended, t) := wakeAll calls t
      ((call, outcome) :: ended, t)
    | (none, t) => wakeAll calls t

/-- Lets every call go on that can, the oldest first; gives those that ended. A call
that ends lets no other one go on, so once through suffices. -/
def settle (t : Traffic) : List (Nat × Outcome) × Traffic :=
  wakeAll (t.calls.entries.map Prod.fst).reverse t

end Traffic

end RelayBroker
