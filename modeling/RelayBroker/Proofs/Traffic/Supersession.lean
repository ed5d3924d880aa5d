/-
  RelayBroker.Proofs.Traffic.Supersession

  A record that is not the current one of its host any more, because the host has polled
  again, was retired or was forgotten, ends its calls without touching what came after
  it. The stores are indexed by host and by session id and not by record, so each way to
  end a call first compares the poll of its record with what it finds
  (`Directory.Superseded`): giving a client back and withdrawing a record ask for the
  current record of the host, and an answer strikes a session id only if it still stands
  for the same poll.

  Main statement: `superseded_disturbs_nothing`.
-/

import RelayBroker.Proofs.Traffic.Succession

namespace RelayBroker

/-- A record is neither the current one of its host nor the one that waits under its
session id. -/
structure Directory.Superseded (d : Directory) (proxy : Proxy) : Prop where
  notCurrent : d.isCurrent proxy = false
  waitsNowhere : d.consume proxy = (false, d)

namespace Broker

section
variable {b b' : Broker} {records : List Proxy} {proxy : Proxy}

/-- A record that is not in the directory under its host is not there under its session id
either, even if a later record has the same one. -/
theorem Agrees.superseded (h : b.Agrees records) (hd : b.directory.Coherent)
    (hp : proxy ∈ records) (hnot : b.directory.host? proxy.addr ≠ some proxy) :
    b.directory.Superseded proxy := by
  have hother : ∀ waiting, b.directory.session? proxy.sid = some waiting →
      waiting.poll ≠ proxy.poll := by
    intro waiting hwaits hpoll
    -- What waits is the current record of its host, so the two would be the same record.
    have hcurrent := hd.current hwaits
    have heq := h.eq_of_poll (h.current hcurrent).2 hp hpoll
    rw [heq] at hcurrent
    exact hnot hcurrent
  constructor
  · rw [Bool.eq_false_iff, ne_eq, h.isCurrent_iff hp]
    exact hnot
  · rw [Directory.consume]
    split
    · next waiting hwaits => rw [if_neg (hother waiting hwaits)]
    · rfl

theorem giveBack_of_superseded (h : b.directory.Superseded proxy) : b.giveBack proxy = b := by
  rw [giveBack, h.notCurrent]
  rfl

theorem withdraw_of_superseded (h : b.directory.Superseded proxy) (gotOffer : Bool) :
    b.withdraw proxy gotOffer = b := by
  rw [withdraw, h.notCurrent]
  rfl

/-- However the offer to a superseded record ends, neither pools nor directory change; and
the client is bound to the host if it was answered, but nobody else. -/
theorem concludeMatch_of_superseded (h : b.directory.Superseded proxy) (request : ClientRequest)
    (reply : Reply) :
    (b.concludeMatch request proxy reply).2.pools = b.pools ∧
      (b.concludeMatch request proxy reply).2.directory = b.directory ∧
      (b.concludeMatch request proxy reply).2.sessions =
        match (b.concludeMatch request proxy reply).1 with
        | .ok _ => b.sessions.bind request.cid request.nat proxy.addr
        | .error _ => b.sessions := by
  cases reply with
  | answered answer =>
    simp only [concludeMatch, bindAnswered]
    cases b.directory.host? proxy.addr with
    | none => exact ⟨rfl, rfl, rfl⟩
    | some current => exact ⟨rfl, congrArg Prod.snd h.waitsNowhere, rfl⟩
  | failed e =>
    simp only [concludeMatch, giveBack_of_superseded h]
    exact ⟨trivial, trivial, trivial⟩
  | timedOut =>
    simp only [concludeMatch, giveBack_of_superseded h]
    exact ⟨trivial, trivial, trivial⟩

/-- A superseded record closes its own mailbox, and that is all. -/
theorem endPoll_of_superseded (h : b.directory.Superseded proxy) (polled : Option Offer) :
    (b.endPoll proxy polled).2.SameStores b := by
  have hclosed : (b.closeMailbox proxy).2.directory.Superseded proxy := h
  rw [endPoll]
  simp only [withdraw_of_superseded hclosed]
  exact ⟨rfl, rfl, rfl⟩

end

end Broker

namespace History

/-- The sessions after a match has gone on: a match that ended well has bound its client to
the host of its proxy. -/
def sessionsAfter (m : Matching) (sessions : Sessions) : Option Outcome → Sessions
  | some (.matched (.ok _)) => sessions.bind m.request.cid m.request.nat m.proxy.addr
  | _ => sessions

section
variable {setup : Setup} {s s' : History} {e : Event} {o : Option Outcome} {proxy : Proxy}

/-- A match on a superseded record that goes on leaves pools and directory as they are, and
binds its client if it ends well. -/
theorem Change.match_of_superseded (hc : Change setup s e o s') {n : Nat} {m : Matching}
    (goesOn : e.call? = some n) (hn : s.call? n = some (.matching m))
    (h : s.broker.directory.Superseded m.proxy) :
    s'.broker.pools = s.broker.pools ∧ s'.broker.directory = s.broker.directory ∧
      s'.broker.sessions = sessionsAfter m s.broker.sessions o := by
  rcases hc.match_ends goesOn hn with ⟨rfl, rfl⟩ | ⟨b, reply, hsame, -, rfl, rfl⟩
  · exact ⟨rfl, rfl, rfl⟩
  · -- Giving up a ticket or taking an answer off it leaves the stores to the conclusion.
    have hb : b.directory.Superseded m.proxy := by rwa [hsame.directory]
    obtain ⟨hpools, hdirectory, hsessions⟩ :=
      Broker.concludeMatch_of_superseded hb m.request reply
    rw [broker_endCall, broker_setBroker, hpools, hdirectory, hsessions, hsame.pools,
      hsame.directory, hsame.sessions]
    refine ⟨rfl, rfl, ?_⟩
    cases (b.concludeMatch m.request m.proxy reply).1 <;> rfl

/-- The poll of a superseded record that goes on changes no store. -/
theorem Change.poll_of_superseded (hc : Change setup s e o s') {n : Nat}
    (goesOn : e.call? = some n) (hn : s.call? n = some (.polling proxy))
    (h : s.broker.directory.Superseded proxy) : s'.broker.SameStores s.broker := by
  -- The call that goes on is the poll, so no change of another kind of call is at hand.
  have hsame {call : Nat} {c : Call} (hcall : e.call? = some call) (hc : s.call? call = some c) :
      c = .polling proxy := by
    obtain rfl : call = n := Option.some.inj (hcall.symm.trans goesOn)
    exact Option.some.inj (hc.symm.trans hn)
  cases hc with
  | idle => exact .refl _
  | unknown | registered | refused | denied | pushed | parked | bounced | awaited | polledAtOnce
  | answered | noticed | rescaledNothing | rescaled | moving => cases goesOn
  | settled waits => cases hsame rfl waits
  | settledLast waits => cases hsame rfl waits
  | replied waits => cases hsame rfl waits
  | collected glances waits => cases hsame glances.call? waits
  | expired waits => cases hsame rfl waits
  | polled glances waits taken =>
    cases hsame glances.call? waits
    have htaken := Broker.sameStores_of_takeOffer taken
    rw [← htaken.directory] at h
    exact (Broker.endPoll_of_superseded h _).trans htaken
  | pollExpired waits nothing =>
    cases hsame rfl waits
    exact Broker.endPoll_of_superseded h none

/-- A superseded record can still be awaited, which changes no store either. -/
theorem Change.await_of_superseded {k : Nat} (hc : Change setup s (.await k) o s')
    (entered : s.records[k]? = some proxy) (h : s.broker.directory.Superseded proxy) :
    s'.broker.SameStores s.broker := by
  cases hc with
  | idle goesOn => cases goesOn
  | unknown => exact .refl _
  | awaited => exact .refl _
  | polled glances => cases glances
  | collected glances => cases glances
  | polledAtOnce entered' taken =>
    cases entered.symm.trans entered'
    have htaken := Broker.sameStores_of_takeOffer taken
    rw [← htaken.directory] at h
    exact (Broker.endPoll_of_superseded h _).trans htaken

end

/-- **A superseded poll cannot disturb its successor.** In every reachable state, a match
that waits on a record which is not the current one of its host goes on, or ends in any
way, without a change to pools and directory, and sessions change only if it is answered,
by binding its client to the host. The poll of such a record ends without a change to any
of them, whether it waits already or is only now awaited. -/
theorem superseded_disturbs_nothing (setup : Setup) (events : List Event) (proxy : Proxy)
    (superseded : (run setup events).broker.directory.host? proxy.addr ≠ some proxy) :
    let s := run setup events
    (∀ n m e, s.call? n = some (.matching m) → m.proxy = proxy → e.call? = some n →
      (s.step setup e).2.broker.pools = s.broker.pools ∧
      (s.step setup e).2.broker.directory = s.broker.directory ∧
      (s.step setup e).2.broker.sessions =
        sessionsAfter m s.broker.sessions (s.step setup e).1) ∧
    (∀ n e, s.call? n = some (.polling proxy) → e.call? = some n →
      (s.step setup e).2.broker.SameStores s.broker) ∧
    (∀ k, s.records[k]? = some proxy →
      (s.step setup (.await k)).2.broker.SameStores s.broker) := by
  intro s
  have hsound : s.Sound := run_sound setup events
  have hknown : proxy ∈ s.records → s.broker.directory.Superseded proxy := fun hp =>
    hsound.order.agrees.superseded (run_coherent setup events) hp superseded
  refine ⟨?_, ?_, ?_⟩
  · rintro n m e hn rfl goesOn
    have hrecord : m.proxy ∈ s.records := hsound.known hn
    exact (step_change setup s e).match_of_superseded goesOn hn (hknown hrecord)
  · intro n e hn goesOn
    have hrecord : proxy ∈ s.records := hsound.known hn
    exact (step_change setup s e).poll_of_superseded goesOn hn (hknown hrecord)
  · intro k hk
    have hrecord := List.mem_of_getElem? hk
    exact (step_change setup s (.await k)).await_of_superseded hk (hknown hrecord)

/-- While a poll waits and its record is matched with a client, the host polls again under
the same session id. -/
def polledAgain : List Event :=
  let poll : Event := .register ⟨"s1", "standalone", .unrestricted, .v4 10 0 0 1, 0, true⟩
  [poll, .await 0, .startMatch ⟨"c1", .unrestricted, "", "a=candidate:1"⟩, poll]

/-- The answer of the older poll binds the client to the host, and the load of the newer
record stays what it was; the older poll runs out without a trace. -/
theorem newer_poll_undisturbed :
    let setup : Setup := ⟨Settings.standard, Catalog.builtin⟩
    let host : Address := .v4 10 0 0 1
    let older : Proxy := ⟨0, "s1", "standalone", .unrestricted, host, 0⟩
    let newer : Proxy := ⟨1, "s1", "standalone", .unrestricted, host, 0⟩
    let s := run setup polledAgain
    let answer : Event := .reply 1 (.ok "ANSWER")
    s.broker.directory.host? older.addr ≠ some older ∧
      s.broker.directory.session? "s1" = some newer ∧
      s.broker.pools.load? host = some 0 ∧
      (s.step setup answer).1 = some (.matched (.ok "ANSWER")) ∧
      (s.step setup answer).2.broker.pools = s.broker.pools ∧
      (s.step setup answer).2.broker.directory = s.broker.directory ∧
      (s.step setup answer).2.broker.sessions = s.broker.sessions.bind "c1" .unrestricted host ∧
      (s.step setup (.expire 0)).1 = some (.polled none) ∧
      (s.step setup (.expire 0)).2.broker.SameStores s.broker := by
  intro setup host older newer s answer
  have superseded : s.broker.directory.host? older.addr ≠ some older := by decide +kernel
  have hwaits : s.broker.directory.session? "s1" = some newer := by decide +kernel
  have hload : s.broker.pools.load? host = some 0 := by decide +kernel
  have hmatch : s.call? 1 = some (.matching ⟨⟨"c1", .unrestricted, "", "a=candidate:1"⟩, older,
      ⟨"unrestricted", "a=candidate:1", "2B280B23E1107BB62ABFC40DDCC8824814F80A72", "c1"⟩,
      none⟩) := by decide +kernel
  have hpoll : s.call? 0 = some (.polling older) := by decide +kernel
  have hanswered : (s.step setup answer).1 = some (.matched (.ok "ANSWER")) := by decide +kernel
  have hended : (s.step setup (.expire 0)).1 = some (.polled none) := by decide +kernel
  obtain ⟨hmatches, hpolls, -⟩ :=
    superseded_disturbs_nothing setup polledAgain older superseded
  obtain ⟨hpools, hdirectory, hsessions⟩ := hmatches 1 _ answer hmatch rfl rfl
  have hstores := hpolls 0 (.expire 0) hpoll rfl
  rw [hanswered, sessionsAfter] at hsessions
  -- Left to itself, the unifier would compute the runs.
  refine ⟨superseded, hwaits, hload, hanswered, ?_, ?_, ?_, hended, ?_⟩
  · with_reducible exact hpools
  · with_reducible exact hdirectory
  · with_reducible exact hsessions
  · with_reducible exact hstores

end History

end RelayBroker
