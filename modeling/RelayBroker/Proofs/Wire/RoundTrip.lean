/-
  RelayBroker.Proofs.Wire.RoundTrip

  Messages that are read back as they were written. Every field of these messages is a
  text, so that a message is what its members fill; a reply to a client may leave out
  fields, which are empty then. The poll of a client stands behind a line with the version,
  and the first line feed is the end of that line.

  Main statement: `messages_read_back`.
-/

import RelayBroker.Http.Service
import RelayBroker.Proofs.Json.ReadBack

namespace RelayBroker

namespace Wire

open Json

/-! ## The poll of a client -/

namespace ClientPoll

/-- The first line feed is the one behind the version. -/
theorem splitLine?_version (rest : Octets) :
    splitLine? (Text.utf8 (version ++ "\n") ++ rest) = some (Text.utf8 version, rest) := rfl

/-- The object behind the version is read back. -/
theorem decode_object (poll : ClientPoll) :
    Json.decode shape (writeObject [("offer", .text poll.offer), ("nat", .text poll.nat),
      ("fingerprint", .text poll.fingerprint), ("cid", .text poll.cid)]) = .ok poll :=
  decode_writeObject
    (.cons (stores_text rfl _ _) <| .cons (stores_text rfl _ _) <|
      .cons (stores_text rfl _ _) <| .cons (stores_text rfl _ _) <| .nil poll)
    (by simp) (by simp [shape, Field.string, Field.of])

theorem decode_encode (poll : ClientPoll) : decode poll.encode = .ok poll := by
  have hspoken : Text.trim version = version := by decide +kernel
  rw [decode, encode, splitLine?_version]
  simp only [Text.ofUtf8?_utf8, hspoken, if_true]
  exact congrArg (Except.mapError _) poll.decode_object

/-- A poll starts with the version, and so with no brace. -/
theorem head?_encode (poll : ClientPoll) : poll.encode.head? = some 0x31 := rfl

end ClientPoll

/-! ## Replies -/

/-- All fields of a reply to a proxy are written. -/
theorem ProxyReply.decode_encode (reply : ProxyReply) :
    Json.decode shape reply.encode = .ok reply :=
  decode_writeObject
    (.cons (stores_text rfl _ _) <| .cons (stores_text rfl _ _) <|
      .cons (stores_text rfl _ _) <| .cons (stores_text rfl _ _) <| .nil reply)
    (by simp) (by simp [shape, Field.string, Field.of])

theorem AnswerReply.decode_encode (reply : AnswerReply) :
    Json.decode shape reply.encode = .ok reply :=
  decode_writeObject (.cons (stores_text rfl _ _) <| .nil reply) (by simp)
    (by simp [shape, Field.string, Field.of])

/-- What is left out of a reply to a client is empty, as it is before anything is read. -/
theorem ClientReply.decode_encode (reply : ClientReply) :
    Json.decode shape reply.encode = .ok reply := by
  obtain ⟨answer, error⟩ := reply
  have hoptional : ∀ names : List String, ∀ f ∈ shape.fields, f.required → f.name ∈ names := by
    simp [shape, Field.string, Field.of]
  -- Which fields are written depends on which of them are empty.
  by_cases hanswer : answer = ""
  · by_cases herror : error = ""
    · subst hanswer herror
      exact decode_writeObject (.nil _) (by simp) (hoptional _)
    · subst hanswer
      have hwrite : encode ⟨"", error⟩ = writeObject [("error", .text error)] := by
        simp [encode, herror]
      rw [hwrite]
      exact decode_writeObject (.cons (stores_text rfl _ _) <| .nil _) (by simp) (hoptional _)
  · by_cases herror : error = ""
    · subst herror
      have hwrite : encode ⟨answer, ""⟩ = writeObject [("answer", .text answer)] := by
        simp [encode, hanswer]
      rw [hwrite]
      exact decode_writeObject (.cons (stores_text rfl _ _) <| .nil _) (by simp) (hoptional _)
    · have hwrite : encode ⟨answer, error⟩ =
          writeObject [("answer", .text answer), ("error", .text error)] := by
        simp [encode, hanswer, herror]
      rw [hwrite]
      exact decode_writeObject
        (.cons (stores_text rfl _ _) <| .cons (stores_text rfl _ _) <| .nil _) (by simp)
        (hoptional _)

end Wire

namespace Service

open Wire

/-- **Messages are read back as they were written**, whatever characters their texts have.
The poll of a client is not taken for a bare description either: it starts with no brace, and
the broker starts the match that the poll asks for. -/
theorem messages_read_back :
    (∀ poll : ClientPoll, ClientPoll.decode poll.encode = .ok poll ∧
      poll.encode.head? ≠ some 0x7B ∧
      ∀ (s : Service) (setup : Setup) (peer : Address) (request : Http.Request),
        s.handleClient setup peer { request with body := poll.encode } =
          let (progress, traffic) := s.traffic.startMatch setup
            ⟨poll.cid, NatClass.parse poll.nat, poll.fingerprint, poll.offer⟩
          .ok (Form.handling setup .clientPoll progress, { s with traffic })) ∧
    (∀ reply : ProxyReply, Json.decode ProxyReply.shape reply.encode = .ok reply) ∧
    (∀ reply : ClientReply, Json.decode ClientReply.shape reply.encode = .ok reply) ∧
    (∀ reply : AnswerReply, Json.decode AnswerReply.shape reply.encode = .ok reply) := by
  refine ⟨fun poll => ?_, ProxyReply.decode_encode, ClientReply.decode_encode,
    AnswerReply.decode_encode⟩
  have hbrace : poll.encode.head? ≠ some 0x7B := by
    rw [poll.head?_encode]
    decide
  refine ⟨poll.decode_encode, hbrace, ?_⟩
  intro s setup peer request
  rw [handleClient, if_neg hbrace, handleClientPoll, poll.decode_encode]
  rfl

end Service

end RelayBroker
