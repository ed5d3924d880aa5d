/-
  RelayBroker.Broker.Polling

  The end of a poll that waited for an offer. It ends once: its mailbox is closed and
  the record leaves the pools. Without an offer the record leaves the directory too;
  with one it stays there until the answer comes.
-/

import RelayBroker.Broker.Basic

namespace RelayBroker.Broker

/-- Picks up the offer that is parked for a record. -/
def takeOffer (b : Broker) (proxy : Proxy) : Option Offer × Broker :=
  let (offer, m) := (b.mailbox proxy).take
  (offer, b.setMailbox proxy m)

/-- Closes the mailbox of a record, and gives back an offer that was not picked up. -/
def closeMailbox (b : Broker) (proxy : Proxy) : Option Offer × Broker :=
  let (leftover, m) := (b.mailbox proxy).close
  (leftover, b.setMailbox proxy m)

/-- Takes a record out of the pools, and without an offer out of the directory, if it
is still the current one of its host. -/
def withdraw (b : Broker) (proxy : Proxy) (gotOffer : Bool) : Broker :=
  if b.directory.isCurrent proxy then
    let b := { b with pools := (b.pools.remove proxy.addr).2 }
    if gotOffer then b else { b with directory := (b.directory.removeHost proxy.addr).2 }
  else b

/-- Ends the poll of a record with what it picked up. -/
def endPoll (b : Broker) (proxy : Proxy) (polled : Option Offer) : Option Offer × Broker :=
  let (leftover, b) := b.closeMailbox proxy
  -- An offer that came after the poll gave up, but before the mailbox closed, counts.
  let offer := polled.or leftover
  (offer, b.withdraw proxy offer.isSome)

end RelayBroker.Broker
