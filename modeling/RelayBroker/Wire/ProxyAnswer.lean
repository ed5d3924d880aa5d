/-
  RelayBroker.Wire.ProxyAnswer

  The answer of a proxy to an offer, and what the proxy is told: whether the client
  was still there.
-/

import RelayBroker.Json.Writer
import RelayBroker.Wire.Decode

namespace RelayBroker.Wire

/-- The answer of a proxy. -/
structure ProxyAnswer where
  version : String
  sid : String
  answer : String
deriving DecidableEq, Repr

namespace ProxyAnswer

/-- How an answer is written. -/
def shape : Json.Shape ProxyAnswer where
  name := "AnswerRequest"
  blank := ⟨"", "", ""⟩
  fields := [
    .string "Version" false fun s message => { message with version := s },
    .string "Sid" true fun s message => { message with sid := s },
    .string "Answer" true fun s message => { message with answer := s }]

/-- Reads an answer, which must not be empty. -/
def decode (body : Octets) : Except BrokerError ProxyAnswer := do
  let message ← decodeBody "answer" shape body
  if message.answer = "" then throw (.badRequest "empty answer")
  return message

end ProxyAnswer

/-- What an answering proxy is told. -/
structure AnswerReply where
  status : String
deriving DecidableEq, Repr

namespace AnswerReply

/-- Whether the answer was delivered. -/
def of (delivered : Bool) : AnswerReply :=
  ⟨if delivered then "success" else "client gone"⟩

/-- How a reply is written. -/
def shape : Json.Shape AnswerReply where
  name := "AnswerResponse"
  blank := ⟨""⟩
  fields := [.string "Status" true fun s _ => ⟨s⟩]

/-- Writes a reply. -/
def encode (reply : AnswerReply) : Octets :=
  Json.writeObject [("Status", .text reply.status)]

end AnswerReply

end RelayBroker.Wire
