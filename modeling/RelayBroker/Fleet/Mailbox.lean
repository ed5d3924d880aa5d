/-
  RelayBroker.Fleet.Mailbox

  Where an offer waits for the next poll of a proxy and where the answer comes back.
  A mailbox serves one poll: it holds one offer, and once closed it takes no more.

  Whoever posts an offer gets a ticket and waits for an answer on it. An answer goes
  to the ticket of the last offer posted, unless it was answered or given up.
-/

import RelayBroker.Error

namespace RelayBroker

/-- What a client offers to a proxy. -/
structure Offer where
  natType : String
  sdp : String
  fingerprint : String
  cid : String
deriving DecidableEq, Repr

/-- How far the wait on an offer has come. -/
inductive Ticket where
  | waiting
  | answered (answer : String)
  /-- The answer was taken. -/
  | spent
  /-- Nobody waits any more. -/
  | abandoned
deriving DecidableEq, Repr

/-- The mailbox of one poll. -/
structure Mailbox where
  /-- The offer that no poll has picked up. -/
  parked : Option Offer
  /-- The ticket to which the next answer goes. -/
  slot : Option Nat
  closed : Bool
  /-- The tickets in the order in which they were given. -/
  tickets : List Ticket
deriving DecidableEq, Repr

namespace Mailbox

def empty : Mailbox := ⟨none, none, false, []⟩

instance : Inhabited Mailbox := ⟨empty⟩

/-- Whether somebody waits for an answer. -/
def awaitsAnswer (m : Mailbox) : Bool :=
  match m.slot with
  | some k => m.tickets[k]? = some .waiting
  | none => false

/-- Parks an offer and gives the ticket for it. -/
def post (m : Mailbox) (offer : Offer) : Except BrokerError (Nat × Mailbox) :=
  if m.closed then .error (.signaling "proxy is no longer polling")
  else if m.awaitsAnswer then .error (.signaling "proxy already has an offer in flight")
  else if m.parked.isSome then .error (.signaling "proxy mailbox is full")
  else
    let k := m.tickets.length
    .ok (k, { m with parked := some offer, slot := some k, tickets := m.tickets ++ [.waiting] })

/-- Picks up the offer that is parked. -/
def take (m : Mailbox) : Option Offer × Mailbox :=
  (m.parked, { m with parked := none })

/-- Takes no more offers, and gives back one that no poll has picked up. -/
def close (m : Mailbox) : Option Offer × Mailbox :=
  (m.parked, { m with parked := none, closed := true })

/-- Hands an answer to whoever waits for it; tells whether somebody did. -/
def answer (m : Mailbox) (text : String) : Bool × Mailbox :=
  match m.slot with
  | none => (false, m)
  | some k =>
    if m.tickets[k]? = some .waiting then
      (true, { m with slot := none, tickets := m.tickets.set k (.answered text) })
    -- Whoever waited has left; the answer is lost and the slot is free.
    else (false, { m with slot := none })

/-- Gives up the wait on a ticket. -/
def abandon (m : Mailbox) (ticket : Nat) : Mailbox :=
  { m with tickets := m.tickets.set ticket .abandoned }

/-- What a glance at a ticket shows. -/
inductive Glance where
  | nothingYet
  | answer (text : String)
  /-- The answer was taken before, or none can come. -/
  | over
  | abandoned
deriving DecidableEq, Repr

/-- Looks at a ticket and takes the answer if it has come. -/
def check (m : Mailbox) (ticket : Nat) : Glance × Mailbox :=
  match m.tickets[ticket]? with
  | some .waiting => (if m.slot = some ticket then .nothingYet else .over, m)
  | some (.answered text) => (.answer text, { m with tickets := m.tickets.set ticket .spent })
  | some .spent => (.over, m)
  | some .abandoned => (.abandoned, m)
  | none => (.over, m)

/-- What the wait on a ticket comes to. A glance at a ticket on which no answer can come
ends the wait with a failure. -/
def Glance.ending? : Glance → Option (Except BrokerError String)
  | .answer text => some (.ok text)
  | .over => some (.error (.signaling "proxy dropped the offer"))
  | .nothingYet | .abandoned => none

end Mailbox

end RelayBroker
