/-
  RelayBroker.Proofs.Http.Dispatch

  What a request does to the service. Each route decodes and checks first, and what it does then
  is one of few things: it starts one call, enters a proxy, hands in an answer or a notice, or
  does nothing (`Dispatched`). In front of the routes nothing is done at all (`handle_cases`).

  Main statements: `handleRoute_dispatched`, `handle_cases`.
-/

import RelayBroker.Http.Service

namespace RelayBroker

/-- What comes after a check is done only if the check has passed. -/
theorem ok_of_bind {ε α β : Type} {x : Except ε α} {f : α → Except ε β} {b : β}
    (h : x >>= f = .ok b) : ∃ a, x = .ok a ∧ f a = .ok b := by
  cases x with
  | error e => cases h
  | ok a => exact ⟨a, rfl, h⟩

namespace Service

open Http

/-- A call is started, with what came of it. -/
inductive Started (setup : Setup) (t : Traffic) : Progress × Traffic → Prop
  | matching (request : ClientRequest) : Started setup t (t.startMatch setup request)
  | polling (poll : Broker.Announcement) :
      Started setup t ((t.register poll).2.startPoll (t.register poll).1)
  | moving (retiring incoming : List Address) : Started setup t (t.startRescale retiring incoming)

/-- What a request of a participant is responded to with, or waits for, and what it leaves of
the service. -/
inductive Dispatched (setup : Setup) (s : Service) : Handling → Service → Prop
  | unauthorized : Dispatched setup s (.respond (.text 401 "unauthorized")) s
  | registered (poll : Broker.Announcement) (push : setup.settings.mode = .push) :
      Dispatched setup s (.respond (proxyReply setup.relayUrl none))
        { s with traffic := (s.traffic.register poll).2 }
  | answered (sid text : String) :
      Dispatched setup s
        (.respond (.document (Wire.AnswerReply.of (s.traffic.submitAnswer sid text).1).encode))
        { s with traffic := (s.traffic.submitAnswer sid text).2 }
  | noticed (cid : String) (action : SessionAction) (addr : Address) :
      Dispatched setup s (.respond (.text 200 ""))
        { s with traffic := (s.traffic.notify cid action addr).2 }
  | started (form : Form) {progress : Progress} {t : Traffic}
      (start : Started setup s.traffic (progress, t)) :
      Dispatched setup s (form.handling setup progress) { s with traffic := t }
  /-- A bare client, whose request is known to pass the checks, is given a number. -/
  | numbered {request : ClientRequest} {bridge : Bridge}
      (checked : Broker.checkRequest setup.catalog request = .ok bridge) :
      Dispatched setup s
        (Form.bareClient.handling setup (s.traffic.startMatch setup request).1)
        ⟨(s.traffic.startMatch setup request).2, s.bareClients + 1⟩

/-! ## Routes -/

section
variable {s s' : Service} {setup : Setup} {peer : Address} {request : Request} {body : Octets}
  {handling : Handling}

theorem dispatched_proxyPoll (h : s.handleProxyPoll setup peer body = .ok (handling, s')) :
    Dispatched setup s handling s' := by
  rw [handleProxyPoll] at h
  obtain ⟨poll, -, h⟩ := ok_of_bind h
  cases mode : setup.settings.mode with
  | push =>
    simp only [mode] at h
    cases h
    exact .registered _ mode
  | mailbox =>
    simp only [mode] at h
    cases h
    exact .started _ (.polling _)

/-- A bare description that passes the check passes all of them, since it names no bridge. -/
theorem checkRequest_bare {offer : String} (h : checkDescription offer = .ok ()) (catalog : Catalog)
    (cid : String) (nat : NatClass) :
    Broker.checkRequest catalog ⟨cid, nat, "", offer⟩ = .ok catalog.default := by
  have hblank : Text.trim "" = "" := by decide +kernel
  simp only [Broker.checkRequest, h, bind, Except.bind, Catalog.resolve, hblank, if_true]

theorem dispatched_bareClient (h : s.handleBareClient setup peer request = .ok (handling, s')) :
    Dispatched setup s handling s' := by
  rw [handleBareClient] at h
  obtain ⟨⟨⟩, checked, h⟩ := ok_of_bind h
  cases h
  exact .numbered (checkRequest_bare checked ..)

theorem dispatched_clientPoll (h : s.handleClientPoll setup body = .ok (handling, s')) :
    Dispatched setup s handling s' := by
  rw [handleClientPoll] at h
  obtain ⟨poll, -, h⟩ := ok_of_bind h
  cases h
  exact .started _ (.matching _)

theorem dispatched_answer (h : s.handleAnswer body = .ok (handling, s')) :
    Dispatched setup s handling s' := by
  rw [handleAnswer] at h
  obtain ⟨message, -, h⟩ := ok_of_bind h
  obtain ⟨⟨⟩, -, h⟩ := ok_of_bind h
  cases h
  exact .answered _ _

theorem dispatched_change (h : s.handleChange peer body = .ok (handling, s')) :
    Dispatched setup s handling s' := by
  rw [handleChange] at h
  obtain ⟨change, -, h⟩ := ok_of_bind h
  cases known : SessionAction.parse? change.action with
  | none =>
    simp only [known] at h
    cases h
  | some action =>
    simp only [known] at h
    cases h
    exact .noticed _ _ _

theorem handleRescale_of_not_authorized (h : isAuthorized setup request = false) :
    s.handleRescale setup request = .ok (.respond (.text 401 "unauthorized"), s) := by
  simp only [handleRescale, h]
  rfl

theorem dispatched_rescale (h : s.handleRescale setup request = .ok (handling, s')) :
    Dispatched setup s handling s' := by
  cases authorized : isAuthorized setup request with
  | false =>
    rw [handleRescale_of_not_authorized authorized] at h
    cases h
    exact .unauthorized
  | true =>
    simp only [handleRescale, authorized, Bool.not_true, Bool.false_eq_true, if_false] at h
    obtain ⟨order, -, h⟩ := ok_of_bind h
    cases h
    exact .started _ (.moving _ _)

theorem handleRoute_dispatched {route : Route}
    (h : s.handleRoute setup peer request route = .ok (handling, s')) :
    Dispatched setup s handling s' := by
  cases route <;> rw [handleRoute] at h
  case proxy => exact dispatched_proxyPoll h
  case answer => exact dispatched_answer h
  case change => exact dispatched_change h
  case rescale => exact dispatched_rescale h
  case client =>
    rw [handleClient] at h
    split at h
    · exact dispatched_bareClient h
    · exact dispatched_clientPoll h

end

/-! ## Requests -/

section
variable (s : Service) (setup : Setup) (peer : Address) (request : Request)

/-- A request is answered without a change, or by the route at its path. -/
theorem handle_cases :
    (∃ r, s.handle setup peer request = (.respond r, s)) ∨
      ∃ route, Route.ofPath? request.path = some route ∧
        s.handleRoute setup peer.canonical request route =
          .ok (s.handle setup peer request) := by
  simp only [handle]
  split
  · exact .inl ⟨_, rfl⟩
  split
  · exact .inl ⟨_, rfl⟩
  split
  · exact .inl ⟨_, rfl⟩
  cases hroute : Route.ofPath? request.path with
  | none => exact .inl ⟨_, rfl⟩
  | some route =>
    dsimp only
    split
    · exact .inl ⟨_, rfl⟩
    split
    · exact .inl ⟨_, rfl⟩
    cases hhandled : s.handleRoute setup peer.canonical request route with
    | ok handled => exact .inr ⟨route, rfl, hhandled⟩
    | error e => exact .inl ⟨_, rfl⟩

/-- A request is answered without a change, or as its route dispatches it. -/
theorem handle_dispatched :
    (∃ r, s.handle setup peer request = (.respond r, s)) ∨
      Dispatched setup s (s.handle setup peer request).1 (s.handle setup peer request).2 :=
  (handle_cases s setup peer request).imp_right fun ⟨_, _, h⟩ => handleRoute_dispatched h

end

end Service

end RelayBroker
