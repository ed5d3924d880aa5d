/-
  RelayBroker.Broker.Matching

  Bringing a client together with a proxy: the request is checked and a proxy is
  borrowed; then the proxy gets the offer, and what comes back concludes the match.
-/

import RelayBroker.Broker.Basic

namespace RelayBroker

/-- What a client asks for. -/
structure ClientRequest where
  cid : String
  nat : NatClass
  fingerprint : String
  offer : String
deriving DecidableEq, Repr

/-! ## Session descriptions -/

/-- Whether `word` occurs in a text. -/
def occursIn (word : List Char) : List Char → Bool
  | [] => word.isEmpty
  | c :: cs => word.isPrefixOf (c :: cs) || occursIn word cs

/-- Whether a session description names a candidate for a connection. -/
def hasCandidate (sdp : String) : Bool :=
  occursIn "a=candidate".toList sdp.toList

/-- Refuses a session description without a candidate. -/
def checkDescription (sdp : String) : Except BrokerError Unit :=
  if hasCandidate sdp then .ok () else .error (.badRequest "SDP contains no candidate")

namespace Broker

/-! ## Opening a match -/

/-- Hands out the best proxy for a client of a class. -/
def borrow (b : Broker) (nat : NatClass) : Option Proxy × Broker :=
  let (proxy, pools) := b.pools.borrow nat
  (proxy, { b with pools })

/-- Checks a request: the offer has to name a candidate, and the relay has to be
listed. -/
def checkRequest (catalog : Catalog) (request : ClientRequest) : Except BrokerError Bridge := do
  checkDescription request.offer
  catalog.resolve request.fingerprint

/-- Checks a request and borrows a proxy for it; gives the proxy and the offer to be
made. -/
def openMatch (b : Broker) (catalog : Catalog) (request : ClientRequest) :
    Except BrokerError (Proxy × Offer) × Broker :=
  match checkRequest catalog request with
  | .error e => (.error e, b)
  | .ok bridge =>
    match b.borrow request.nat with
    | (none, b) =>
      (.error .noCapacity, { b with counters := b.counters.clientDenied request.nat })
    | (some proxy, b) =>
      (.ok (proxy, ⟨request.nat.name, request.offer, bridge.fingerprint.text, request.cid⟩), b)

/-- Parks an offer in the mailbox of a record and gives the ticket for it. -/
def postOffer (b : Broker) (proxy : Proxy) (offer : Offer) : Except BrokerError Nat × Broker :=
  match (b.mailbox proxy).post offer with
  | .error e => (.error e, b)
  | .ok (ticket, m) => (.ok ticket, b.setMailbox proxy m)

/-- Gives up the wait on a ticket. -/
def abandonTicket (b : Broker) (proxy : Proxy) (ticket : Nat) : Broker :=
  b.setMailbox proxy ((b.mailbox proxy).abandon ticket)

/-! ## Concluding a match -/

/-- Gives back the client that a failed match put on a record, unless the record was
retired or replaced since. A record whose poll has ended is forgotten instead. -/
def giveBack (b : Broker) (proxy : Proxy) : Broker :=
  -- A record that was retired or replaced has taken its load with it.
  if !b.directory.isCurrent proxy then b
  else if (b.mailbox proxy).closed then
    { b with directory := (b.directory.removeHost proxy.addr).2 }
  else { b with pools := (b.pools.release proxy.addr).2 }

/-- Binds a client to the host that answered. A newer poll of the host carries the
session as well; a host that was retired does not. -/
def bindAnswered (b : Broker) (request : ClientRequest) (proxy : Proxy) : Option Broker :=
  match b.directory.host? proxy.addr with
  | none => none
  | some _ => some { b with
      directory := (b.directory.consume proxy).2
      sessions := b.sessions.bind request.cid request.nat proxy.addr }

/-- What came of an offer. -/
inductive Reply where
  | answered (answer : String)
  | failed (error : BrokerError)
  | timedOut
deriving DecidableEq, Repr

/-- Concludes a match by what came of the offer. -/
def concludeMatch (b : Broker) (request : ClientRequest) (proxy : Proxy) :
    Reply → Except BrokerError String × Broker
  | .answered answer =>
    match b.bindAnswered request proxy with
    | some b => (.ok answer, { b with counters := b.counters.clientMatched })
    | none =>
      (.error (.signaling "proxy retired during handshake"),
        { b with counters := b.counters.clientFailure })
  | .failed e =>
    let b := b.giveBack proxy
    (.error e, { b with counters := b.counters.clientFailure })
  | .timedOut =>
    let b := b.giveBack proxy
    (.error .timeout, { b with counters := b.counters.clientTimeout })

end Broker

end RelayBroker
