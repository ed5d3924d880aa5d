/-
  RelayBroker.Proofs.Http.Dialects

  The two dialects of clients come to the same. A bare description is checked on its own and
  numbered before its match is started; a poll is decoded, and its match does the checking. A
  bare description names no bridge, so both start the same match, or the match of the poll is
  refused without a trace (`handle_bare`, `handle_poll`). The call that waits is the same
  match whatever else happens (`Change.call?_stays`), and it ends with one outcome
  (`outcomeOf_matched`), which the dialects tell in ways that can be told from each other
  (`corresponds_of_served`).

  Main statement: `dialects_agree`.
-/

import Mathlib.Data.List.TakeDrop
import Mathlib.Data.Option.Defs
import RelayBroker.Proofs.Http.Rejection
import RelayBroker.Proofs.Text.Lines
import RelayBroker.Proofs.Traffic.Attendance
import RelayBroker.Proofs.Traffic.Completion
import RelayBroker.Proofs.Wire.RoundTrip

namespace RelayBroker

/-! ## A match that waits -/

namespace History

section
variable {setup : Setup} {s s' : History} {e : Event} {o : Option Outcome} {n : Nat} {m : Matching}

/-- What is no concern of a waiting call leaves it as it is. -/
theorem Change.call?_stays (hc : Change setup s e o s') {c : Call} (hn : s.call? n = some c)
    (hlt : n < s.traffic.nextCall) (hother : e.call? ≠ some n) : s'.call? n = some c := by
  have hended {call : Nat} (b : Broker) (hcall : e.call? = some call) :
      ((s.setBroker b).endCall call).call? n = some c := by
    rw [call?_endCall, if_neg]
    · exact hn
    · rintro rfl
      exact hother hcall
  have hwaits (b : Broker) (new : Call) : ((s.setBroker b).wait new).call? n = some c :=
    (call?_wait_of_lt (s := s.setBroker b) hlt new).trans hn
  cases hc with
  | idle | unknown | registered | refused | denied | bounced | polledAtOnce | answered | noticed
  | rescaledNothing | rescaled => exact hn
  | pushed | parked | moving => exact hwaits _ _
  | awaited => exact (call?_wait_of_lt hlt _).trans hn
  | polled glances | collected glances => exact hended _ glances.call?
  | pollExpired | replied | expired | settledLast => exact hended _ rfl
  | @settled call =>
    rw [call?_setCall, if_neg]
    · exact hn
    · rintro rfl
      exact hother rfl

/-- Whatever comes, a match that waits ends as a match, and is not refused. -/
theorem outcomeOf_matched {later : List Event} {outcome : Outcome}
    (hn : s.call? n = some (.matching m)) (hlt : n < s.traffic.nextCall)
    (honest : ∀ error, .reply n (.error error) ∈ later → error.IsSignaling)
    (ho : outcomeOf setup n later s = some outcome) :
    (∃ r, outcome = .matched r) ∧ Service.Served outcome := by
  induction later generalizing s with
  | nil => cases ho
  | cons e later ih =>
    have hc := step_change setup s e
    have honest' : ∀ error, .reply n (.error error) ∈ later → error.IsSignaling :=
      fun error hmem => honest error (List.mem_cons_of_mem _ hmem)
    by_cases goesOn : e.call? = some n
    · rcases hc.match_ends goesOn hn with ⟨hnone, hsame⟩ | ⟨b, reply, -, -, hends, -⟩
      · rw [outcomeOf_cons_of_not (by simp [hnone]), hsame] at ho
        exact ih hn hlt honest' ho
      · rw [outcomeOf_cons_of_ends goesOn hends] at ho
        obtain rfl := Option.some.inj ho
        refine ⟨⟨_, rfl⟩, Service.served_of_ended goesOn (fun error he => ?_) hends⟩
        exact honest error (he ▸ List.mem_cons_self)
    · rw [outcomeOf_cons_of_not fun h => goesOn h.1] at ho
      exact ih (hc.call?_stays hn hlt goesOn) (Nat.lt_of_lt_of_le hlt hc.nextCall_le) honest' ho

end

end History

namespace Traffic

section
variable {t : Traffic} {setup : Setup} {request : ClientRequest}

/-- A match that does not pass the checks leaves no trace. -/
theorem startMatch_refused {e : BrokerError}
    (h : Broker.checkRequest setup.catalog request = .error e) :
    t.startMatch setup request = (.done (.matched (.error e)), t) := by
  simp only [startMatch, Broker.openMatch, h]

theorem startMatch_matched {outcome : Outcome}
    (h : (t.startMatch setup request).1 = .done outcome) : ∃ r, outcome = .matched r := by
  have hc := History.startMatch_change setup ⟨t, []⟩ request
  simp only [History.step, h, History.outcome?] at hc
  generalize (t.startMatch setup request).2 = t' at hc
  cases hc with
  | refused | denied | bounced => exact ⟨_, rfl⟩
  | polled glances => cases glances
  | collected glances => cases glances

/-- A match that does not end at once waits under the number that was next. -/
theorem startMatch_waits {call : Nat} (h : (t.startMatch setup request).1 = .waiting call) :
    (∃ m, (t.startMatch setup request).2.calls.get? call = some (.matching m)) ∧
      call < (t.startMatch setup request).2.nextCall := by
  have hwait (t : Traffic) (m : Matching) (hcall : (t.wait (.matching m)).1 = .waiting call) :
      (∃ m', (t.wait (.matching m)).2.calls.get? call = some (.matching m')) ∧
        call < (t.wait (.matching m)).2.nextCall := by
    obtain rfl : t.nextCall = call := Progress.waiting.inj hcall
    refine ⟨⟨m, ?_⟩, Nat.lt_succ_self _⟩
    exact (Table.get?_insert ..).trans (if_pos rfl)
  rw [startMatch] at h ⊢
  rcases hopen : t.broker.openMatch setup.catalog request with ⟨e | ⟨proxy, offer⟩, b⟩
  · simp only [hopen] at h
    cases h
  · cases hmode : setup.settings.mode with
    | push =>
      simp only [hopen, hmode] at h ⊢
      exact hwait _ _ h
    | mailbox =>
      rcases hpost : b.postOffer proxy offer with ⟨e | ticket, b'⟩
      · simp only [hopen, hmode, hpost] at h
        cases h
      · simp only [hopen, hmode, hpost] at h ⊢
        exact hwait _ _ h

end

end Traffic

/-! ## The first character of a poll -/

theorem Wire.ClientPoll.line_of_split {body line rest : Octets}
    (h : splitLine? body = some (line, rest)) : line = body.takeWhile (· ≠ 0x0A) := by
  rw [splitLine?, List.span_eq_takeWhile_dropWhile] at h
  split at h
  · cases h
  · next heq =>
    rw [← (Prod.mk.inj (Option.some.inj h)).1]
    exact (congrArg Prod.fst heq).symm

/-- A poll does not start with a brace, since its first line has the version alone. -/
theorem Wire.ClientPoll.not_brace_of_decode {body : Octets} {poll : ClientPoll}
    (h : decode body = .ok poll) : body.head? ≠ some 0x7B := by
  intro hbrace
  rw [decode] at h
  split at h
  · cases h
  next line rest hsplit =>
  split at h
  · cases h
  next text hread =>
  dsimp only at h
  split at h
  · next hspoken =>
    -- The brace would be in front of the line too, and would stay there without its blanks.
    have hline : line.head? = some 0x7B := by
      obtain ⟨octets, rfl⟩ := List.head?_eq_some_iff.mp hbrace
      rw [line_of_split hsplit]
      rfl
    rw [← Text.utf8_of_ofUtf8? hread, Text.utf8_eq_encode] at hline
    obtain ⟨cs, hcs⟩ : ∃ cs, text.toList = '\x7b' :: cs :=
      List.head?_eq_some_iff.mp ((Text.head?_encode (by decide)).mp hline)
    have htrim : (Text.trim text).toList.head? = some '\x7b' := by
      rw [Text.trim, String.toList_ofList, hcs, Text.head?_trimChars (by decide)]
    rw [hspoken] at htrim
    revert htrim
    decide
  · cases h

namespace Service

open Http

/-! ## Two ways to ask for a match -/

/-- A client sends a request whose body is not too long. -/
structure SentByClient (setup : Setup) (request : Request) : Prop where
  method : request.method = "POST"
  path : request.path = "/client"
  fits : request.body.length ≤ setup.settings.maxBodySize

/-- The header in which a bare client tells its class. -/
def classHeader : String := "Snowflake-NAT-Type"

/-- The id that the next bare client is given. -/
def bareCid (s : Service) (peer : Address) : String :=
  "legacy-" ++ peer.canonical.text ++ "-" ++ toString s.bareClients

/-- The match that a bare description asks for: it has the class of the header, if one is read
there, and names no bridge. -/
def bareMatch (s : Service) (peer : Address) (text : String) (bare : Request) : ClientRequest :=
  ⟨s.bareCid peer, NatClass.parse ((bare.header? classHeader).getD ""), "", text⟩

section
variable {setup : Setup} {text : String} {bare poll : Request}

theorem handle_client (s : Service) (peer : Address) (h : SentByClient setup poll) :
    s.handle setup peer poll =
      match s.handleClient setup peer.canonical poll with
      | .ok handled => handled
      | .error e => (.respond (refusal e), s) := by
  have hfits : ¬ setup.settings.maxBodySize < poll.body.length := Nat.not_lt.mpr h.fits
  simp only [handle, h.method, h.path, Route.ofPath?, hfits, handleRoute]
  cases s.handleClient setup peer.canonical poll <;> rfl

theorem handle_bare (s : Service) (peer : Address) (h : SentByClient setup bare)
    (hbody : bare.body = Text.utf8 text) (hbrace : text.toList.head? = some '\x7b') :
    s.handle setup peer bare =
      match checkDescription text with
      | .error e => (.respond (refusal e), s)
      | .ok () =>
        let (progress, t) := s.traffic.startMatch setup (s.bareMatch peer text bare)
        (Form.bareClient.handling setup progress, ⟨t, s.bareClients + 1⟩) := by
  have hhead : bare.body.head? = some 0x7B := by
    rw [hbody, Text.utf8_eq_encode]
    exact (Text.head?_encode (by decide)).mpr hbrace
  have hunknown : NatClass.unknown = NatClass.parse "" := by decide +kernel
  rw [handle_client s peer h, handleClient, if_pos hhead, handleBareClient, hbody,
    Text.ofUtf8Lossy_utf8, bareMatch, classHeader]
  cases checkDescription text with
  | error e => rfl
  | ok u =>
    -- A header that is not there, or is not read, stands for the class of the empty text.
    cases bare.header? "Snowflake-NAT-Type" with
    | none =>
      simp only [Option.getD_none, ← hunknown]
      rfl
    | some tag => rfl

theorem handle_poll (s : Service) (peer : Address) (h : SentByClient setup poll)
    {message : Wire.ClientPoll} (hbody : Wire.ClientPoll.decode poll.body = .ok message) :
    s.handle setup peer poll =
      let (progress, t) := s.traffic.startMatch setup
        ⟨message.cid, NatClass.parse message.nat, message.fingerprint, message.offer⟩
      (Form.clientPoll.handling setup progress, { s with traffic := t }) := by
  have hbrace := Wire.ClientPoll.not_brace_of_decode hbody
  rw [handle_client s peer h, handleClient, if_neg hbrace, handleClientPoll, hbody]
  rfl

end

/-! ## Telling one outcome -/

/-- What one dialect tells is what the other one tells: an answer as it is or in a document,
an error of the request in the same words, and any other error by its status or in a
document. -/
structure Corresponds (bare poll : Response) : Prop where
  answered : ∀ answer, answer ≠ "" →
    (bare.status = 200 ∧ bare.body = Text.utf8 answer ↔
      poll.status = 200 ∧ poll.body = Json.writeObject [("answer", .text answer)])
  malformed : bare.status = 400 ↔ poll.status = 400
  same : bare.status = 400 → bare = poll
  failed : ∀ error,
    (bare.status ≠ 200 ∧ bare.status ≠ 400 ∧ bare.body = Text.utf8 error ↔
      poll.status = 200 ∧ poll.body = Json.writeObject [("error", .text error)])

theorem encode_ofAnswer {answer : String} (h : answer ≠ "") :
    (Wire.ClientReply.ofAnswer answer).encode = Json.writeObject [("answer", .text answer)] := by
  simp [Wire.ClientReply.encode, Wire.ClientReply.ofAnswer, h]

theorem encode_ofError {error : String} (h : error ≠ "") :
    (Wire.ClientReply.ofError error).encode = Json.writeObject [("error", .text error)] := by
  simp [Wire.ClientReply.encode, Wire.ClientReply.ofError, h]

theorem encode_inj {a b : Wire.ClientReply} : a.encode = b.encode ↔ a = b := by
  refine ⟨fun h => ?_, congrArg _⟩
  have hread := a.decode_encode
  rw [h, b.decode_encode] at hread
  exact (Except.ok.inj hread).symm

theorem decode_error (error : String) :
    Json.decode Wire.ClientReply.shape (Json.writeObject [("error", .text error)]) =
      .ok (.ofError error) :=
  Json.decode_writeObject (.cons (Json.stores_text rfl _ _) <| .nil _) (by simp)
    (by simp [Wire.ClientReply.shape, Json.Field.string, Json.Field.of])

/-- What is told as an error is the reply that has this error. -/
theorem eq_ofError {reply : Wire.ClientReply} {error : String}
    (h : reply.encode = Json.writeObject [("error", .text error)]) : reply = .ofError error := by
  have hread := reply.decode_encode
  rw [h, decode_error] at hread
  exact (Except.ok.inj hread).symm

/-- An answer is not told as an error, not even as an empty one. -/
theorem encode_ofAnswer_ne (answer error : String) :
    (Wire.ClientReply.ofAnswer answer).encode ≠ Json.writeObject [("error", .text error)] := by
  intro h
  have hsame := eq_ofError h
  obtain rfl : answer = "" := congrArg Wire.ClientReply.answer hsame
  obtain rfl : "" = error := congrArg Wire.ClientReply.error hsame
  revert h
  decide

theorem message_ne_empty (e : BrokerError) : e.message ≠ "" := by
  have hfront (front rest : String) (h : front ≠ "") : front ++ rest ≠ "" := by
    simp [h]
  cases e with
  | badRequest | internal | unknownBridge | signaling | config => exact hfront _ _ (by decide)
  | partialMigration => exact hfront _ _ (hfront _ _ (hfront _ _ (by decide)))
  | noCapacity | timeout => decide +kernel

theorem status_ne_ok (e : BrokerError) : e.status ≠ 200 := by
  cases e <;> simp [BrokerError.status]

/-- An answer is told in both dialects. -/
theorem corresponds_answer (answer : String) :
    Corresponds (.document (Text.utf8 answer))
      (.document (Wire.ClientReply.ofAnswer answer).encode) where
  answered other hother := by
    rw [← encode_ofAnswer hother]
    refine and_congr Iff.rfl (Text.utf8_inj.trans (Iff.trans ?_ encode_inj.symm))
    exact ⟨congrArg _, congrArg Wire.ClientReply.answer⟩
  malformed := iff_of_false nofun nofun
  same := nofun
  failed error := iff_of_false (fun h => h.1 rfl) fun h => encode_ofAnswer_ne answer error h.2

/-- A malformed request is told alike. -/
theorem corresponds_malformed (detail : String) :
    Corresponds (refusal (.badRequest detail)) (refusal (.badRequest detail)) where
  answered _ _ := iff_of_false (fun h => nomatch h.1) fun h => nomatch h.1
  malformed := Iff.rfl
  same _ := rfl
  failed _ := iff_of_false (fun h => h.2.1 rfl) fun h => nomatch h.1

/-- Any other error is told by its status, or in a document. -/
theorem corresponds_error {e : BrokerError} (h : e.status ≠ 400) :
    Corresponds (refusal e) (.document (Wire.ClientReply.ofError e.message).encode) where
  answered answer hanswer := by
    refine iff_of_false (fun htold => status_ne_ok e htold.1) fun htold => ?_
    have hsame := htold.2
    rw [← encode_ofAnswer hanswer] at hsame
    exact hanswer (congrArg Wire.ClientReply.answer (encode_inj.mp hsame)).symm
  malformed := iff_of_false h nofun
  same htold := absurd htold h
  failed error := by
    constructor
    · rintro ⟨-, -, htold⟩
      obtain rfl : e.message = error := Text.utf8_inj.mp htold
      exact ⟨rfl, encode_ofError (message_ne_empty e)⟩
    · rintro ⟨-, htold⟩
      have hwords : e.message = error := congrArg Wire.ClientReply.error (eq_ofError htold)
      exact ⟨status_ne_ok e, h, congrArg Text.utf8 hwords⟩

/-- An outcome that is no refusal is told in both dialects. -/
theorem corresponds_of_served {r : Except BrokerError String} (h : Served (.matched r)) :
    Corresponds (bareReply r) (clientReply r) := by
  cases r with
  | ok answer => exact corresponds_answer answer
  | error e =>
    have hstatus : e.status ≠ 400 := h e rfl
    have hreply : clientReply (.error e) =
        .document (Wire.ClientReply.ofError e.message).encode := by
      cases e with
      | badRequest => exact absurd rfl hstatus
      | noCapacity | timeout | internal | unknownBridge | partialMigration | signaling | config =>
        rfl
    rw [hreply]
    exact corresponds_error hstatus

/-! ## The two dialects -/

/-- The response to a request, at once or when one of the events that come ends its call. -/
def Handling.response? (setup : Setup) (s : History) (later : List History.Event) :
    Handling → Option Response
  | .respond r => some r
  | .await call form => (History.outcomeOf setup call later s).map (form.respond setup)

/-- What a call needs does not depend on how its outcome is told. -/
theorem needs_handling (setup : Setup) (form form' : Form) (progress : Progress) (t : Traffic) :
    (form.handling setup progress).needs setup t =
      (form'.handling setup progress).needs setup t := by
  cases progress <;> rfl

/-- What comes of a match that was started is told in both dialects, whenever it ends. -/
theorem response?_corresponds {t : Traffic} {setup : Setup} {request : ClientRequest}
    {bridge : Bridge} (checked : Broker.checkRequest setup.catalog request = .ok bridge)
    (records : List Proxy) {later : List History.Event}
    (honest : ∀ call error, .reply call (.error error) ∈ later → error.IsSignaling) :
    let (progress, t') := t.startMatch setup request
    Option.Rel Corresponds
      ((Form.bareClient.handling setup progress).response? setup ⟨t', records⟩ later)
      ((Form.clientPoll.handling setup progress).response? setup ⟨t', records⟩ later) := by
  cases hprogress : (t.startMatch setup request).1 with
  | done outcome =>
    obtain ⟨r, rfl⟩ := Traffic.startMatch_matched hprogress
    rcases startMatch_done hprogress with ⟨e, hrefused, -⟩ | hserved
    · cases checked.symm.trans hrefused
    · simp only [hprogress]
      exact .some (corresponds_of_served hserved)
  | waiting call =>
    obtain ⟨⟨m, hwaits⟩, hlt⟩ := Traffic.startMatch_waits hprogress
    simp only [hprogress, Form.handling, Handling.response?]
    cases hends : History.outcomeOf setup call later ⟨(t.startMatch setup request).2, records⟩ with
    | none => exact .none
    | some outcome =>
      obtain ⟨⟨r, rfl⟩, hserved⟩ :=
        History.outcomeOf_matched (s := ⟨_, records⟩) hwaits hlt (honest call) hends
      exact .some (corresponds_of_served hserved)

/-- A bare description, and the poll that asks for the same match: it has the offer and the
class of the bare client, names no bridge, and has the id that this client is given. -/
structure SameMatch (s : Service) (setup : Setup) (peer : Address) (text : String)
    (bare poll : Request) : Prop where
  bareSent : SentByClient setup bare
  pollSent : SentByClient setup poll
  brace : text.toList.head? = some '\x7b'
  bareBody : bare.body = Text.utf8 text
  pollBody : Wire.ClientPoll.decode poll.body =
    .ok ⟨text, (bare.header? classHeader).getD "", "", s.bareCid peer⟩

theorem checkDescription_cases (text : String) :
    checkDescription text = .error (.badRequest "SDP contains no candidate") ∨
      checkDescription text = .ok () := by
  rw [checkDescription]
  split
  · exact .inr rfl
  · exact .inl rfl

/-- **The two dialects agree.** A bare description and the poll that asks for the same match
leave the same traffic, with all stores, mailboxes, counters and waiting calls, and for both the
same offer is sent. Whatever events come then, as long as proxies fail by the exchange alone,
both are responded to or neither is, and the responses correspond. -/
theorem dialects_agree (s : Service) (setup : Setup) (peer host : Address) (text : String)
    (bare poll : Request) (same : s.SameMatch setup peer text bare poll) (records : List Proxy)
    (later : List History.Event)
    (honest : ∀ call error, .reply call (.error error) ∈ later → error.IsSignaling) :
    let viaBare := s.handle setup peer bare
    let viaPoll := s.handle setup host poll
    viaBare.2.traffic = viaPoll.2.traffic ∧
    viaBare.1.needs setup viaBare.2.traffic = viaPoll.1.needs setup viaPoll.2.traffic ∧
    Option.Rel Corresponds
      (viaBare.1.response? setup ⟨viaBare.2.traffic, records⟩ later)
      (viaPoll.1.response? setup ⟨viaPoll.2.traffic, records⟩ later) := by
  intro viaBare viaPoll
  have hbare : viaBare = _ := handle_bare s peer same.bareSent same.bareBody same.brace
  have hpoll : viaPoll = _ := handle_poll s host same.pollSent same.pollBody
  rcases checkDescription_cases text with hcheck | hcheck
  · -- The bare description is refused at once, and the match of the poll is.
    have hrefused : Broker.checkRequest setup.catalog (s.bareMatch peer text bare) =
        .error (.badRequest "SDP contains no candidate") := by
      rw [Broker.checkRequest]
      exact congrArg (· >>= _) hcheck
    have hstart : s.traffic.startMatch setup (s.bareMatch peer text bare) = _ :=
      Traffic.startMatch_refused hrefused
    rw [bareMatch] at hstart
    rw [hstart] at hpoll
    rw [hcheck] at hbare
    rw [hbare, hpoll]
    exact ⟨rfl, rfl, .some (corresponds_malformed _)⟩
  · have hchecked := checkRequest_bare hcheck setup.catalog (s.bareCid peer)
      (NatClass.parse ((bare.header? classHeader).getD ""))
    have hresponse := response?_corresponds (t := s.traffic) hchecked records honest
    rw [hcheck] at hbare
    rw [hbare, hpoll]
    exact ⟨rfl, needs_handling .., hresponse⟩

/-! ### One request in both dialects -/

/-- A service with one proxy of a class. -/
def withProxy (nat : NatClass) : Service :=
  ⟨(Traffic.empty.register ⟨"s1", "standalone", nat, .v4 10 0 0 1, 0, true⟩).2, 0⟩

/-- A bare description with a class in its header. -/
def bareRequest (text tag : String) : Request :=
  ⟨"POST", "/client", [(classHeader, Text.utf8 tag)], Text.utf8 text⟩

/-- A poll with an offer and a class. -/
def pollRequest (text tag cid : String) : Request :=
  ⟨"POST", "/client", [], (Wire.ClientPoll.mk text tag "" cid).encode⟩

theorem find?_bareRequest (text tag : String) :
    (bareRequest text tag).headers.find? (fun h => h.1.toLower = classHeader.toLower) =
      some (classHeader, Text.utf8 tag) :=
  List.find?_cons_of_pos (decide_eq_true rfl)

/-- The header is read if all its octets are visible ones. -/
theorem header?_bareRequest (text tag : String) :
    (bareRequest text tag).header? classHeader =
      if (Text.utf8 tag).all Request.isVisible then some tag else none := by
  rw [Request.header?, find?_bareRequest]
  dsimp only
  split
  · next hvisible => rw [Text.utf8_inj.mp (Request.utf8_of_visible hvisible)]
  · rfl

theorem path_of_client {request : Request} (h : request.target = "/client") :
    request.path = "/client" := by
  rw [Request.path, h]
  decide +kernel

/-- The proxy answers, and both clients are told. -/
theorem answer_told_in_both :
    let s := withProxy .unrestricted
    let setup : Setup := ⟨Settings.standard, Catalog.builtin⟩
    let peer : Address := .v4 10 0 0 9
    let bare := bareRequest "\x7ba=candidate:1" "Restricted"
    let poll := pollRequest "\x7ba=candidate:1" "Restricted" "legacy-10.0.0.9-0"
    let later : List History.Event := [.reply 0 (.ok "ANSWER")]
    let viaBare := s.handle setup peer bare
    let viaPoll := s.handle setup peer poll
    s.SameMatch setup peer "\x7ba=candidate:1" bare poll ∧
      viaBare.1.response? setup ⟨viaBare.2.traffic, []⟩ later =
        some (.document (Text.utf8 "ANSWER")) ∧
      ∃ r, viaPoll.1.response? setup ⟨viaPoll.2.traffic, []⟩ later = some r ∧
        r.status = 200 ∧ r.body = Json.writeObject [("answer", .text "ANSWER")] := by
  intro s setup peer bare poll later viaBare viaPoll
  have hcid : s.bareCid peer = "legacy-10.0.0.9-0" := by decide +kernel
  have hheader : bare.header? classHeader = some "Restricted" := by
    rw [header?_bareRequest, if_pos (by decide +kernel)]
  have hsame : s.SameMatch setup peer "\x7ba=candidate:1" bare poll := {
    bareSent := ⟨rfl, path_of_client rfl, by decide +kernel⟩
    pollSent := ⟨rfl, path_of_client rfl, by decide +kernel⟩
    brace := by decide +kernel
    bareBody := rfl
    pollBody := by
      rw [hheader, hcid]
      exact Wire.ClientPoll.decode_encode _ }
  have hbare : viaBare.1.response? setup ⟨viaBare.2.traffic, []⟩ later =
      some (.document (Text.utf8 "ANSWER")) := by
    have hhandled : viaBare = _ := handle_bare s peer hsame.bareSent hsame.bareBody hsame.brace
    rw [hhandled, bareMatch, hheader]
    decide +kernel
  obtain ⟨-, -, hrel⟩ :=
    dialects_agree s setup peer peer _ bare poll hsame [] later (by simp [later])
  rw [hbare] at hrel
  obtain ⟨r, hpoll, hcorresponds⟩ : ∃ r, viaPoll.1.response? setup ⟨viaPoll.2.traffic, []⟩ later =
      some r ∧ Corresponds (.document (Text.utf8 "ANSWER")) r := by
    generalize viaPoll.1.response? setup ⟨viaPoll.2.traffic, []⟩ later = response at hrel ⊢
    cases hrel with
    | some hcorresponds => exact ⟨_, rfl, hcorresponds⟩
  exact ⟨hsame, hbare, r, hpoll, (hcorresponds.answered "ANSWER" (by decide)).mp ⟨rfl, rfl⟩⟩

/-- A class that is no header text is none to a bare client, though a poll may have it: a blank
outside ASCII is taken off in front of the word in a poll, and makes the header unreadable. So
where the only proxy is for unrestricted clients, the one is denied and the other one served. -/
theorem unreadable_class_counts_as_none :
    let s := withProxy .restricted
    let setup : Setup := ⟨Settings.standard, Catalog.builtin⟩
    let peer : Address := .v4 10 0 0 9
    let text := "\x7ba=candidate:1"
    let tag := "\u00a0unrestricted"
    let bare := bareRequest text tag
    let poll := pollRequest text tag (s.bareCid peer)
    let viaBare := s.handle setup peer bare
    let viaPoll := s.handle setup peer poll
    SentByClient setup bare ∧ SentByClient setup poll ∧ text.toList.head? = some '\x7b' ∧
      bare.body = Text.utf8 text ∧ bare.firstHeader? classHeader = some (Text.utf8 tag) ∧
      Wire.ClientPoll.decode poll.body = .ok ⟨text, tag, "", s.bareCid peer⟩ ∧
      viaBare.2.traffic ≠ viaPoll.2.traffic ∧
      viaBare.1.needs setup viaBare.2.traffic ≠ viaPoll.1.needs setup viaPoll.2.traffic ∧
      viaBare.1.response? setup ⟨viaBare.2.traffic, []⟩ [.reply 0 (.ok "ANSWER")] =
        some (refusal .noCapacity) ∧
      viaPoll.1.response? setup ⟨viaPoll.2.traffic, []⟩ [.reply 0 (.ok "ANSWER")] =
        some (.document (Wire.ClientReply.ofAnswer "ANSWER").encode) := by
  intro s setup peer text tag bare poll viaBare viaPoll
  have hcid : s.bareCid peer = "legacy-10.0.0.9-0" := by decide +kernel
  have hbareSent : SentByClient setup bare := ⟨rfl, path_of_client rfl, by decide +kernel⟩
  have hpollSent : SentByClient setup poll := ⟨rfl, path_of_client rfl, by decide +kernel⟩
  have hbrace : text.toList.head? = some '\x7b' := by decide +kernel
  have hdecode : Wire.ClientPoll.decode poll.body = .ok ⟨text, tag, "", s.bareCid peer⟩ :=
    Wire.ClientPoll.decode_encode _
  have hheader : bare.header? classHeader = none := by
    rw [header?_bareRequest, if_neg (by decide +kernel)]
  have hsent : bare.firstHeader? classHeader = some (Text.utf8 tag) := by
    rw [Request.firstHeader?, find?_bareRequest]
    rfl
  have hbare : viaBare = _ := handle_bare s peer hbareSent rfl hbrace
  have hpoll : viaPoll = _ := handle_poll s peer hpollSent hdecode
  rw [bareMatch, hheader, hcid] at hbare
  rw [hcid] at hpoll
  refine ⟨hbareSent, hpollSent, hbrace, rfl, hsent, hdecode, ?_⟩
  rw [hbare, hpoll]
  exact ⟨by decide +kernel, by decide +kernel, by decide +kernel, by decide +kernel⟩

end Service

end RelayBroker
