/-
  RelayBroker.Proofs.Http.Rejection

  What a rejected request leaves behind: nothing. A request is checked before anything is
  done for it, and once something has been done it is told neither as malformed nor as out of
  place. So of what a route can do (`Dispatched`), only what leaves the service as it was comes
  with a response that rejects (`Dispatched.eq_of_rejects`), and a call that was started never
  ends with one (`served_of_ended`).

  Main statement: `rejected_leaves_no_trace`.
-/

import RelayBroker.Broker.Needs
import RelayBroker.Proofs.Broker.Refusals
import RelayBroker.Proofs.Http.Dispatch
import RelayBroker.Proofs.Text.Encoding
import RelayBroker.Proofs.Traffic.Run

namespace RelayBroker

/-! ## Headers -/

namespace Http.Request

/-- The octets of the first header of a name. -/
def firstHeader? (r : Request) (name : String) : Option Octets :=
  (r.headers.find? fun h => h.1.toLower = name.toLower).map Prod.snd

theorem toNat_ofNat_of_lt {n : Nat} (h : n < 128) : (Char.ofNat n).toNat = n := by
  have hvalid : n.isValidChar := .inl (by omega)
  rw [Char.ofNat, dif_pos hvalid]
  rfl

theorem utf8EncodeChar_of_visible {b : UInt8} (h : isVisible b = true) :
    String.utf8EncodeChar (Char.ofNat b.toNat) = [b] := by
  have hlt : b.toNat < 128 := by
    simp only [isVisible, Bool.or_eq_true, Bool.and_eq_true, decide_eq_true_eq] at h
    rcases h with rfl | ⟨-, hle⟩
    · decide
    · exact Nat.lt_of_le_of_lt (UInt8.le_iff_toNat_le.mp hle) (by decide)
  have hchar := toNat_ofNat_of_lt hlt
  rw [Text.utf8EncodeChar_ascii (by omega), hchar, UInt8.ofNat_toNat]

/-- What can be read as text is the form of the text that is read. -/
theorem utf8_of_visible {value : Octets} (h : value.all isVisible = true) :
    Text.utf8 (String.ofList (value.map fun (b : UInt8) => Char.ofNat b.toNat)) = value := by
  rw [Text.utf8_ofList]
  induction value with
  | nil => rfl
  | cons b value ih =>
    rw [List.all_cons, Bool.and_eq_true] at h
    rw [List.map_cons, Text.encode_cons, utf8EncodeChar_of_visible h.1, ih h.2]
    rfl

end Http.Request

/-! ## Responses that reject -/

/-- Malformed, not authorized, not found or not allowed. -/
def Http.Response.Rejects (r : Http.Response) : Prop :=
  r.status ∈ [400, 401, 404, 405]

instance (r : Http.Response) : Decidable r.Rejects :=
  inferInstanceAs (Decidable (r.status ∈ [400, 401, 404, 405]))

namespace Service

open Http

theorem not_rejects_document (body : Octets) : ¬ (Response.document body).Rejects := by
  simp [Response.Rejects, Response.document]

/-- What is neither malformed nor of an unknown bridge is not told as a rejection. -/
theorem not_rejects_refusal {e : BrokerError} (h : e.status ≠ 400) : ¬ (refusal e).Rejects := by
  have hstatus : (refusal e).status = e.status := rfl
  rw [Response.Rejects, hstatus]
  cases e <;> simp_all [BrokerError.status]

theorem not_rejects_proxyReply (relayUrl : String) (offer : Option Offer) :
    ¬ (proxyReply relayUrl offer).Rejects := by
  cases offer <;> exact not_rejects_document _

theorem not_rejects_clientReply {r : Except BrokerError String}
    (h : ∀ e, r = .error e → e.status ≠ 400) : ¬ (clientReply r).Rejects := by
  unfold clientReply
  split
  · exact not_rejects_document _
  · exact absurd rfl (h _ rfl)
  · exact not_rejects_document _

theorem not_rejects_bareReply {r : Except BrokerError String}
    (h : ∀ e, r = .error e → e.status ≠ 400) : ¬ (bareReply r).Rejects := by
  cases r with
  | ok answer => exact not_rejects_document _
  | error e => exact not_rejects_refusal (h e rfl)

/-! ## Outcomes -/

/-- The call was not refused. -/
def Served : Outcome → Prop
  | .matched r => ∀ e, r = .error e → e.status ≠ 400
  | .polled _ => True
  | .rescaled r => ∀ e, r = .error e → e.status ≠ 400

/-- No call that was not refused is told as a rejection. -/
theorem not_rejects_of_served {outcome : Outcome} (h : Served outcome) (setup : Setup)
    (form : Form) : ¬ (form.respond setup outcome).Rejects := by
  cases outcome with
  | matched r =>
    simp only [Form.respond]
    split
    · exact not_rejects_bareReply h
    · exact not_rejects_clientReply h
  | polled offer => exact not_rejects_proxyReply _ _
  | rescaled r =>
    cases r with
    | ok report => simp [Form.respond, rescaleReply, Response.Rejects, Response.text]
    | error e => exact not_rejects_refusal (h e rfl)

/-- A match that is concluded was not refused, if its proxy fails by the exchange alone. -/
theorem served_concludeMatch (b : Broker) (request : ClientRequest) (proxy : Proxy)
    (reply : Broker.Reply) (honest : ∀ e, reply = .failed e → e.IsSignaling) :
    Served (.matched (b.concludeMatch request proxy reply).1) := by
  intro e hends
  rcases Broker.concludeMatch_error hends with hfailed | rfl | hsignaling
  · simp [(honest e hfailed).status_eq]
  · decide
  · simp [hsignaling.status_eq]

theorem served_concludeRescale (b : Broker) (retired : Nat) (migrations : List Migration)
    (stranded failed : Nat) :
    Served (.rescaled (b.concludeRescale retired migrations stranded failed).1) := by
  intro e hends
  rw [Broker.concludeRescale_error hends]
  simp [BrokerError.status]

/-- A waiting call that ends was not refused, if a proxy fails by the exchange alone. -/
theorem served_of_ended {setup : Setup} {s : History} {e : History.Event} {o : Outcome} {n : Nat}
    (goesOn : e.call? = some n)
    (honest : ∀ error, e = .reply n (.error error) → error.IsSignaling)
    (ends : (s.step setup e).1 = some o) : Served o := by
  have hc := History.step_change setup s e
  generalize (s.step setup e).2 = s' at hc
  rw [ends] at hc
  cases hc with
  | refused | denied | bounced | polledAtOnce | rescaledNothing | rescaled => cases goesOn
  | polled | pollExpired => trivial
  | settledLast => exact served_concludeRescale _ _ _ _ _
  | collected => exact served_concludeMatch _ _ _ _ nofun
  | expired => exact served_concludeMatch _ _ _ _ nofun
  | @replied call m r =>
    obtain rfl := Option.some.inj goesOn
    refine served_concludeMatch _ _ _ _ fun error hfailed => ?_
    cases r with
    | ok answer => cases hfailed
    | error error' =>
      cases hfailed
      exact honest _ rfl

section
variable {t : Traffic} {setup : Setup} {outcome : Outcome}

/-- A match that ends at once was refused without a trace, or passed the checks and failed. -/
theorem startMatch_done {request : ClientRequest}
    (h : (t.startMatch setup request).1 = .done outcome) :
    (∃ e, Broker.checkRequest setup.catalog request = .error e ∧
      (t.startMatch setup request).2 = t) ∨ Served outcome := by
  have hc := History.startMatch_change setup ⟨t, []⟩ request
  simp only [History.step, h, History.outcome?] at hc
  generalize (t.startMatch setup request).2 = t' at hc
  cases hc with
  | refused checked => exact .inl ⟨_, checked, rfl⟩
  | polled glances => cases glances
  | collected glances => cases glances
  | denied =>
    refine .inr fun e he => ?_
    cases he
    decide
  | bounced checked borrowed mode posted =>
    have hfailed := Mailbox.post_error posted
    exact .inr (served_concludeMatch _ _ _ _ fun e he => Broker.Reply.failed.inj he ▸ hfailed)

theorem startPoll_done {proxy : Proxy} (h : (t.startPoll proxy).1 = .done outcome) :
    Served outcome := by
  simp only [Traffic.startPoll] at h
  split at h
  · split at h
    · cases h
      trivial
    · cases h
  · cases h

theorem startRescale_done {retiring incoming : List Address}
    (h : (t.startRescale retiring incoming).1 = .done outcome) : Served outcome := by
  rcases t.startRescale_cases retiring incoming with ⟨-, -, heq⟩ | ⟨stranded, b, -, heq⟩ |
    ⟨migrations, stranded, b, -, -, heq⟩
  · rw [heq] at h
    cases h
    intro e he
    cases he
  · rw [heq] at h
    cases h
    exact served_concludeRescale _ _ _ _ _
  · rw [heq] at h
    cases h

end

/-! ## Routes -/

section
variable {s s' : Service} {setup : Setup} {r : Response}

/-- What is responded at once is the outcome of a call that has ended at once. -/
theorem handling_eq_respond {form : Form} {progress : Progress}
    (h : form.handling setup progress = .respond r) :
    ∃ outcome, progress = .done outcome ∧ r = form.respond setup outcome := by
  cases progress with
  | done outcome =>
    cases h
    exact ⟨outcome, rfl, rfl⟩
  | waiting call => cases h

/-- A call that ends at once was refused without a trace, or was served. -/
theorem Started.done {t t' : Traffic} {outcome : Outcome}
    (h : Started setup t (.done outcome, t')) : t' = t ∨ Served outcome := by
  generalize hp : (Progress.done outcome, t') = p at h
  cases h with
  | matching request =>
    rcases startMatch_done (congrArg Prod.fst hp).symm with ⟨e, -, hsame⟩ | hserved
    · exact .inl ((congrArg Prod.snd hp).trans hsame)
    · exact .inr hserved
  | polling poll => exact .inr (startPoll_done (congrArg Prod.fst hp).symm)
  | moving retiring incoming => exact .inr (startRescale_done (congrArg Prod.fst hp).symm)

/-- A route that responds with a rejection leaves the service as it was. -/
theorem Dispatched.eq_of_rejects {handling : Handling} (h : Dispatched setup s handling s')
    (responds : handling = .respond r) (hr : r.Rejects) : s' = s := by
  cases h with
  | unauthorized => rfl
  | registered poll push =>
    cases responds
    exact absurd hr (not_rejects_proxyReply _ _)
  | answered sid text =>
    cases responds
    exact absurd hr (not_rejects_document _)
  | noticed cid action addr =>
    cases responds
    revert hr
    simp [Response.Rejects, Response.text]
  | started form start =>
    obtain ⟨outcome, rfl, rfl⟩ := handling_eq_respond responds
    rcases start.done with rfl | served
    · rfl
    · exact absurd hr (not_rejects_of_served served _ _)
  | numbered checked =>
    obtain ⟨outcome, hdone, rfl⟩ := handling_eq_respond responds
    rcases startMatch_done hdone with ⟨e, hrefused, -⟩ | served
    · cases checked.symm.trans hrefused
    · exact absurd hr (not_rejects_of_served served _ _)

end

/-! ## Authorization -/

section
variable {s : Service} {setup : Setup} {peer : Address} {request : Request}

/-- A header that is read as text was sent as that text. -/
theorem firstHeader?_of_header? {name text : String} (h : request.header? name = some text) :
    request.firstHeader? name = some (Text.utf8 text) := by
  rw [Request.header?] at h
  rw [Request.firstHeader?]
  cases hfind : request.headers.find? fun h => h.1.toLower = name.toLower with
  | none =>
    rw [hfind] at h
    cases h
  | some header =>
    obtain ⟨first, value⟩ := header
    simp only [hfind] at h
    split at h
    · next hvisible =>
      rw [← Option.some.inj h, Request.utf8_of_visible hvisible]
      rfl
    · cases h

theorem not_authorized {token : String} (htoken : setup.settings.rescaleToken = some token)
    (hheader : request.firstHeader? "Authorization" ≠ some (Text.utf8 ("Bearer " ++ token))) :
    isAuthorized setup request = false := by
  simp only [isAuthorized, htoken]
  exact decide_eq_false fun hsent => hheader (firstHeader?_of_header? hsent)

/-! ## Requests -/

theorem eq_of_rejects {r : Response} (h : (s.handle setup peer request).1 = .respond r)
    (hr : r.Rejects) : (s.handle setup peer request).2 = s := by
  rcases handle_dispatched s setup peer request with ⟨r', heq⟩ | hdispatched
  · rw [heq]
  · exact hdispatched.eq_of_rejects h hr

/-- Before the path of a participant is looked at, nothing is done. -/
theorem handle_unrouted (h : request.method = "OPTIONS" ∨ request.path = "/robots.txt" ∨
    request.path = "/debug") : ∃ r, s.handle setup peer request = (.respond r, s) := by
  simp only [handle]
  split
  · exact ⟨_, rfl⟩
  next hmethod =>
  split
  · exact ⟨_, rfl⟩
  next hrobots =>
  rw [if_pos ((h.resolve_left hmethod).resolve_left hrobots)]
  exact ⟨_, rfl⟩

/-- A rescale order without the token is answered without a change, whatever it says. -/
theorem handle_unauthorized (hpath : request.path = "/rescale")
    (h : isAuthorized setup request = false) :
    ∃ r, s.handle setup peer request = (.respond r, s) := by
  rcases handle_cases s setup peer request with hsame | ⟨route, hroute, hhandled⟩
  · exact hsame
  · obtain rfl : Route.rescale = route := by
      rw [hpath] at hroute
      exact Option.some.inj hroute
    rw [handleRoute, handleRescale_of_not_authorized h] at hhandled
    exact ⟨_, (Except.ok.inj hhandled).symm⟩

end

/-- The offers and the orders that are sent for a request, with the time for which it waits. -/
def Handling.needs (setup : Setup) (t : Traffic) : Handling → List Need
  | .respond _ => []
  | .await call _ => t.needs setup.settings call

/-- **A rejected request leaves no trace.** If a request is responded to with a rejection, the
service is what it was, with all stores, mailboxes, counters and clients' numbers, and nothing
was sent. If a call was started for it, then whenever that call ends, and whatever has happened
by then, the response is no rejection, as long as a proxy fails by the exchange alone. Requests
that are answered in front of the routes leave no trace either, and nor does an order to rescale
whose first authorization is not the token, whatever its body. -/
theorem rejected_leaves_no_trace (s : Service) (setup : Setup) (peer : Address)
    (request : Request) :
    let handled := s.handle setup peer request
    let Untouched := handled.2 = s ∧ handled.1.needs setup handled.2.traffic = []
    (∀ r, handled.1 = .respond r → r.Rejects → Untouched) ∧
    (∀ call form, handled.1 = .await call form → ∀ (later : History) e o, e.call? = some call →
      (∀ error, e = .reply call (.error error) → error.IsSignaling) →
      (later.step setup e).1 = some o → ¬ (form.respond setup o).Rejects) ∧
    (request.method = "OPTIONS" ∨ request.path = "/robots.txt" ∨ request.path = "/debug" →
      (∃ r, handled.1 = .respond r) ∧ Untouched) ∧
    (∀ token, setup.settings.rescaleToken = some token → request.path = "/rescale" →
      request.firstHeader? "Authorization" ≠ some (Text.utf8 ("Bearer " ++ token)) →
      Untouched) := by
  intro handled Untouched
  have huntouched (h : ∃ r, handled = (.respond r, s)) :
      (∃ r, handled.1 = .respond r) ∧ Untouched := by
    obtain ⟨r, heq⟩ := h
    have hneeds : handled.1.needs setup handled.2.traffic = [] := by
      rw [heq]
      rfl
    exact ⟨⟨r, by rw [heq]⟩, by rw [heq], hneeds⟩
  refine ⟨fun r hr hrejects => ?_, fun call form _ later e o goesOn honest ends => ?_,
    fun h => huntouched (handle_unrouted h), fun token htoken hpath hheader => ?_⟩
  · exact (huntouched ⟨r, Prod.ext hr (eq_of_rejects hr hrejects)⟩).2
  · exact not_rejects_of_served (served_of_ended goesOn honest ends) setup form
  · exact (huntouched (handle_unauthorized hpath (not_authorized htoken hheader))).2

/-- A broker with a proxy and a token. A description without a candidate is malformed, and an
order to retire the proxy bears another token: the proxy and its counters stay as they are. -/
theorem proxy_outlasts_rejections :
    let setup : Setup := ⟨{ Settings.standard with rescaleToken := some "secret" }, Catalog.builtin⟩
    let host : Address := .v4 10 0 0 1
    let s : Service :=
      ⟨(Traffic.empty.register ⟨"s1", "standalone", .unrestricted, host, 0, true⟩).2, 0⟩
    let malformed : Request := ⟨"POST", "/client", [], Text.utf8 "{}"⟩
    let order : Request := ⟨"POST", "/rescale", [("authorization", Text.utf8 "Bearer guess")],
      Text.utf8 "[[\"10.0.0.1\"],[]]"⟩
    (∃ r, (s.handle setup host malformed).1 = .respond r ∧ r.status = 400) ∧
      (s.handle setup host malformed).2 = s ∧ (s.handle setup host order).2 = s := by
  intro setup host s malformed order
  have hcandidate : hasCandidate (Text.ofUtf8Lossy malformed.body) = false := by decide +kernel
  have hbare : malformed.body.head? = some 0x7B := by decide +kernel
  have hfits : ¬ setup.settings.maxBodySize < malformed.body.length := by decide +kernel
  have hclient : malformed.path = "/client" := by decide +kernel
  have hroute : s.handleRoute setup host.canonical malformed .client =
      .error (.badRequest "SDP contains no candidate") := by
    rw [handleRoute, handleClient, if_pos hbare, handleBareClient, checkDescription, hcandidate]
    rfl
  have hmalformed : (s.handle setup host malformed).1 =
      .respond (refusal (.badRequest "SDP contains no candidate")) := by
    rw [handle, hclient]
    simp [Route.ofPath?, hfits, hroute, malformed]
  have hheader : order.firstHeader? "Authorization" ≠ some (Text.utf8 ("Bearer " ++ "secret")) := by
    intro hsent
    obtain ⟨header, hfind, hvalue⟩ := Option.map_eq_some_iff.mp hsent
    obtain rfl := List.mem_singleton.mp (List.mem_of_find?_eq_some hfind)
    revert hvalue
    decide +kernel
  have hpath : order.path = "/rescale" := by decide +kernel
  obtain ⟨hrejected, -⟩ := rejected_leaves_no_trace s setup host malformed
  obtain ⟨-, -, -, hunauthorized⟩ := rejected_leaves_no_trace s setup host order
  exact ⟨⟨_, hmalformed, rfl⟩, (hrejected _ hmalformed (by decide +kernel)).1,
    (hunauthorized "secret" rfl hpath hheader).1⟩

end Service

end RelayBroker
