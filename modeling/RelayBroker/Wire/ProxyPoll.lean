/-
  RelayBroker.Wire.ProxyPoll

  The poll of a proxy and what it is told: an offer to answer, or that there is
  none, and in both cases the relay to use.
-/

import RelayBroker.Json.Writer
import RelayBroker.Wire.Decode

namespace RelayBroker.Wire

/-! ## The poll -/

/-- The poll of a proxy. -/
structure ProxyPoll where
  sid : String
  version : String
  type : String
  nat : String
  clients : Nat
  relayPattern : Option String
deriving DecidableEq, Repr

namespace ProxyPoll

/-- How a poll is written. -/
def shape : Json.Shape ProxyPoll where
  name := "ProxyPollRequest"
  blank := ⟨"", "", "", "", 0, none⟩
  fields := [
    .string "Sid" true fun s poll => { poll with sid := s },
    .string "Version" false fun s poll => { poll with version := s },
    .string "Type" false fun s poll => { poll with type := s },
    .string "NAT" false fun s poll => { poll with nat := s },
    .count "Clients" fun n poll => { poll with clients := n },
    .string? "AcceptedRelayPattern" fun s poll => { poll with relayPattern := s }]

/-- Reads a poll, which has to name a session. -/
def decode (body : Octets) : Except BrokerError ProxyPoll := do
  let poll ← decodeBody "proxy poll" shape body
  if poll.sid = "" then throw (.badRequest "proxy poll without session id")
  return poll

/-- The type under which the proxy is counted. -/
def effectiveType (poll : ProxyPoll) : String :=
  if poll.type = "" then "unknown" else poll.type

end ProxyPoll

/-! ## The reply -/

/-- What a polling proxy is told. -/
structure ProxyReply where
  status : String
  offer : String
  nat : String
  relayUrl : String
deriving DecidableEq, Repr

namespace ProxyReply

/-- No client is waiting. -/
def noMatch (relayUrl : String) : ProxyReply :=
  ⟨"no match", "", "", relayUrl⟩

/-- A client of the class `nat` made `offer`. -/
def matched (offer nat relayUrl : String) : ProxyReply :=
  ⟨"client match", offer, nat, relayUrl⟩

/-- How a reply is written. -/
def shape : Json.Shape ProxyReply where
  name := "ProxyPollResponse"
  blank := ⟨"", "", "", ""⟩
  fields := [
    .string "Status" true fun s reply => { reply with status := s },
    .string "Offer" false fun s reply => { reply with offer := s },
    .string "NAT" false fun s reply => { reply with nat := s },
    .string "RelayURL" false fun s reply => { reply with relayUrl := s }]

/-- Writes a reply. -/
def encode (reply : ProxyReply) : Octets :=
  Json.writeObject [("Status", .text reply.status), ("Offer", .text reply.offer),
    ("NAT", .text reply.nat), ("RelayURL", .text reply.relayUrl)]

end ProxyReply

end RelayBroker.Wire
