/-
  RelayBroker.Proofs.Broker.Refusals

  Which errors the parts of the broker give. A request that does not pass the checks is
  refused as malformed, by the status 400. From then on nothing is refused: a mailbox that
  takes no offer, and a proxy that does not reply as it should, fail by the exchange with the
  proxy (`IsSignaling`), and a match ends with no other error but a timeout.
-/

import RelayBroker.Broker.Matching
import RelayBroker.Broker.Rescale
import RelayBroker.Http.ProxyClient

namespace RelayBroker

/-- A failure of the exchange with a proxy. -/
def BrokerError.IsSignaling (e : BrokerError) : Prop :=
  ∃ detail, e = .signaling detail

theorem BrokerError.IsSignaling.status_eq {e : BrokerError} (h : e.IsSignaling) :
    e.status = 500 := by
  obtain ⟨detail, rfl⟩ := h
  rfl

/-! ## Requests that do not pass the checks -/

theorem checkDescription_error {sdp : String} {e : BrokerError}
    (h : checkDescription sdp = .error e) : e.status = 400 := by
  rw [checkDescription] at h
  split at h
  · cases h
  · cases h
    rfl

theorem Fingerprint.parse_error {text : String} {e : BrokerError}
    (h : Fingerprint.parse text = .error e) : e.status = 400 := by
  rw [parse] at h
  cases hread : read text with
  | ok f =>
    rw [hread] at h
    cases h
  | error fault =>
    rw [hread] at h
    cases h
    rfl

theorem Catalog.resolve_error {catalog : Catalog} {raw : String} {e : BrokerError}
    (h : catalog.resolve raw = .error e) : e.status = 400 := by
  rw [resolve] at h
  split at h
  · cases h
  · cases hparse : Fingerprint.parse raw with
    | error e' =>
      rw [hparse] at h
      cases h
      exact Fingerprint.parse_error hparse
    | ok f =>
      rw [hparse] at h
      -- The bridge is not listed.
      have hlookup : catalog.lookup f = .error e := h
      rw [lookup] at hlookup
      split at hlookup
      · cases hlookup
      · cases hlookup
        rfl

theorem Broker.checkRequest_error {catalog : Catalog} {request : ClientRequest} {e : BrokerError}
    (h : checkRequest catalog request = .error e) : e.status = 400 := by
  rw [checkRequest] at h
  cases hcheck : checkDescription request.offer with
  | error e' =>
    rw [hcheck] at h
    cases h
    exact checkDescription_error hcheck
  | ok u =>
    simp only [hcheck, bind, Except.bind] at h
    exact Catalog.resolve_error h

/-! ## Mailboxes that take no offer -/

theorem Mailbox.post_error {m : Mailbox} {offer : Offer} {e : BrokerError}
    (h : m.post offer = .error e) : e.IsSignaling := by
  simp only [post] at h
  split at h
  · cases h
    exact ⟨_, rfl⟩
  · split at h
    · cases h
      exact ⟨_, rfl⟩
    · split at h
      · cases h
        exact ⟨_, rfl⟩
      · cases h

/-! ## Exchanges with a proxy -/

/-- However a proxy replies to an offer, what it fails with is no denial and no timeout. -/
theorem Http.ProxyClient.readAnswer_error {status : Nat} {body : Octets} {e : BrokerError}
    (h : readAnswer status body = .error e) : e.IsSignaling := by
  rw [readAnswer] at h
  split at h
  · cases h
    exact ⟨_, rfl⟩
  · split at h
    · cases h
      exact ⟨_, rfl⟩
    · split at h
      · cases h
        exact ⟨_, rfl⟩
      · split at h
        · cases h
          exact ⟨_, rfl⟩
        · cases h

/-- A match ends with the error of its proxy, for want of an answer, or because the host has
left. -/
theorem Broker.concludeMatch_error {b : Broker} {request : ClientRequest} {proxy : Proxy}
    {reply : Reply} {e : BrokerError} (h : (b.concludeMatch request proxy reply).1 = .error e) :
    reply = .failed e ∨ e = .timeout ∨ e.IsSignaling := by
  cases reply with
  | failed error =>
    cases h
    exact .inl rfl
  | timedOut =>
    cases h
    exact .inr (.inl rfl)
  | answered answer =>
    simp only [concludeMatch] at h
    split at h
    · cases h
    · cases h
      exact .inr (.inr ⟨_, rfl⟩)

/-- A rescale ends with no other error but that sessions are left. -/
theorem Broker.concludeRescale_error {b : Broker} {retired stranded failed : Nat}
    {migrations : List Migration} {e : BrokerError}
    (h : (b.concludeRescale retired migrations stranded failed).1 = .error e) :
    e = .partialMigration migrations.length stranded := by
  rw [concludeRescale] at h
  split at h
  · cases h
    rfl
  · cases h

end RelayBroker
