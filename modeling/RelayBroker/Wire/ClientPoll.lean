/-
  RelayBroker.Wire.ClientPoll

  The poll of a client, a version line followed by a JSON object, and the reply,
  which holds an answer or an error and leaves out what is empty.
-/

import RelayBroker.Json.Writer
import RelayBroker.Text.Blank
import RelayBroker.Wire.Decode

namespace RelayBroker.Wire

/-! ## The poll -/

/-- The poll of a client. -/
structure ClientPoll where
  offer : String
  nat : String
  fingerprint : String
  cid : String
deriving DecidableEq, Repr

namespace ClientPoll

/-- The version that is spoken. -/
def version : String := "1.0"

/-- How the object of a poll is written. -/
def shape : Json.Shape ClientPoll where
  name := "ClientPollRequest"
  blank := ⟨"", "", "", ""⟩
  fields := [
    .string "offer" false fun s poll => { poll with offer := s },
    .string "nat" false fun s poll => { poll with nat := s },
    .string "fingerprint" false fun s poll => { poll with fingerprint := s },
    .string "cid" false fun s poll => { poll with cid := s }]

/-- The octets before the first line feed and those after it. -/
def splitLine? (body : Octets) : Option (Octets × Octets) :=
  match body.span (· ≠ 0x0A) with
  | (_, []) => none
  | (line, _ :: rest) => some (line, rest)

/-- Reads a poll. -/
def decode (body : Octets) : Except BrokerError ClientPoll :=
  match splitLine? body with
  | none => .error (.badRequest "client poll without version line")
  | some (line, rest) =>
    match Text.ofUtf8? line with
    | none => .error (.badRequest "client poll version is not utf-8")
    | some line =>
      let spoken := Text.trim line
      if spoken = version then decodeBody "client poll" shape rest
      else .error (.badRequest ("unsupported client poll version " ++ spoken))

/-- Writes a poll. -/
def encode (poll : ClientPoll) : Octets :=
  Text.utf8 (version ++ "\n") ++
    Json.writeObject [("offer", .text poll.offer), ("nat", .text poll.nat),
      ("fingerprint", .text poll.fingerprint), ("cid", .text poll.cid)]

end ClientPoll

/-! ## The reply -/

/-- What a client is told; an empty text stands for none. -/
structure ClientReply where
  answer : String
  error : String
deriving DecidableEq, Repr

namespace ClientReply

/-- The answer of a proxy. -/
def ofAnswer (answer : String) : ClientReply := ⟨answer, ""⟩

/-- Why there is no answer. -/
def ofError (error : String) : ClientReply := ⟨"", error⟩

/-- How a reply is written. -/
def shape : Json.Shape ClientReply where
  name := "ClientPollResponse"
  blank := ⟨"", ""⟩
  fields := [
    .string "answer" false fun s reply => { reply with answer := s },
    .string "error" false fun s reply => { reply with error := s }]

/-- Writes a reply. -/
def encode (reply : ClientReply) : Octets :=
  Json.writeObject <|
    [("answer", reply.answer), ("error", reply.error)].filterMap fun (name, text) =>
      if text = "" then none else some (name, .text text)

end ClientReply

end RelayBroker.Wire
