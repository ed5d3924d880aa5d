/-
  RelayBroker.Proofs.Traffic.Succession

  How records succeed each other in the directory, over every run. A poll enters its
  record; every other step only lets records stop waiting and hosts be forgotten
  (`Change.directory`). So the current record of a host comes from its latest poll, and
  a host without one has none until it polls (`Change.host?_of_after`).

  And how a waiting match ends: by what comes back for its offer, in a broker that differs
  from the one of the step in its mailboxes at most (`Change.match_ends`).
-/

import RelayBroker.Proofs.Fleet.DirectoryIndexes
import RelayBroker.Proofs.Traffic.Reachable

namespace RelayBroker

namespace Broker

/-! ## The directory through the operations on the broker -/

theorem shrinks_giveBack (b : Broker) (proxy : Proxy) :
    b.directory.Shrinks (b.giveBack proxy).directory := by
  rw [giveBack]
  split
  · exact .refl
  · split
    · exact Directory.shrinks_removeHost _ _
    · exact .refl

theorem shrinks_concludeMatch (b : Broker) (request : ClientRequest) (proxy : Proxy)
    (reply : Reply) :
    b.directory.Shrinks (b.concludeMatch request proxy reply).2.directory := by
  cases reply with
  | answered answer =>
    simp only [concludeMatch, bindAnswered]
    cases b.directory.host? proxy.addr with
    | none => exact .refl
    | some current => exact Directory.shrinks_consume _ _
  | failed e => exact b.shrinks_giveBack proxy
  | timedOut => exact b.shrinks_giveBack proxy

theorem shrinks_endPoll (b : Broker) (proxy : Proxy) (polled : Option Offer) :
    b.directory.Shrinks (b.endPoll proxy polled).2.directory := by
  simp only [endPoll, withdraw]
  split
  · split
    · exact .refl
    · exact Directory.shrinks_removeHost _ _
  · exact .refl

theorem directory_relocate {b b' : Broker} {retiring : List Address} {migrations : List Migration}
    {stranded : Nat} (hr : b.relocate retiring = (migrations, stranded, b')) :
    b'.directory = b.directory.removeAll retiring := by
  obtain rfl : (b.relocate retiring).2.2 = b' := by rw [hr]
  rw [relocate_eq]

/-- A match with a host that is not in the directory fails, and binds nobody. -/
theorem concludeMatch_of_gone {b : Broker} {proxy : Proxy}
    (hgone : b.directory.host? proxy.addr = none) (request : ClientRequest) (reply : Reply) :
    (∃ error, (b.concludeMatch request proxy reply).1 = .error error) ∧
      (b.concludeMatch request proxy reply).2.sessions = b.sessions := by
  cases reply with
  | answered answer =>
    simp only [concludeMatch, bindAnswered, hgone]
    exact ⟨⟨_, rfl⟩, trivial⟩
  | failed e => exact ⟨⟨e, rfl⟩, sessions_giveBack ..⟩
  | timedOut => exact ⟨⟨_, rfl⟩, sessions_giveBack ..⟩

end Broker

namespace History

@[simp] theorem broker_setBroker (s : History) (b : Broker) : (s.setBroker b).broker = b := rfl

@[simp] theorem broker_wait (s : History) (c : Call) : (s.wait c).broker = s.broker := rfl

@[simp] theorem broker_setCall (s : History) (call : Nat) (c : Call) :
    (s.setCall call c).broker = s.broker := rfl

@[simp] theorem broker_endCall (s : History) (call : Nat) : (s.endCall call).broker = s.broker :=
  rfl

section
variable {setup : Setup} {s s' : History} {e : Event} {o : Option Outcome}

/-! ## Records that come and go -/

/-- A poll enters its record; nothing else that happens puts a record into the directory. -/
theorem Change.directory (hc : Change setup s e o s') :
    s.broker.directory.Shrinks s'.broker.directory ∨
      ∃ poll, e = .register poll ∧
        s'.broker.directory = (s.broker.directory.insert (s.broker.register poll).1).2 := by
  have hsame {d : Directory} (h : d = s.broker.directory) :
      s.broker.directory.Shrinks d ∨ ∃ poll, e = .register poll ∧
        d = (s.broker.directory.insert (s.broker.register poll).1).2 :=
    .inl (h ▸ .refl)
  cases hc with
  | registered poll => exact .inr ⟨poll, rfl, rfl⟩
  | idle | unknown | refused | rescaledNothing | awaited | noticed | settled => exact hsame rfl
  | denied checked borrowed =>
    have hdir := Broker.directory_of_borrow borrowed
    exact hsame hdir
  | pushed checked borrowed mode =>
    have hdir := Broker.directory_of_borrow borrowed
    exact hsame hdir
  | parked checked borrowed mode posted =>
    have hdir := Broker.directory_of_borrow borrowed
    exact hsame hdir
  | bounced checked borrowed mode posted =>
    left
    rw [← Broker.directory_of_borrow borrowed]
    exact Broker.shrinks_concludeMatch ..
  | polledAtOnce entered taken =>
    left
    rw [← (Broker.sameStores_of_takeOffer taken).directory]
    exact Broker.shrinks_endPoll ..
  | polled glances waits taken =>
    left
    rw [← (Broker.sameStores_of_takeOffer taken).directory]
    exact Broker.shrinks_endPoll ..
  | pollExpired waits nothing => exact .inl (Broker.shrinks_endPoll ..)
  | answered sid answer => exact hsame (Broker.sameStores_submitAnswer ..).directory
  | rescaled relocated =>
    have hdir := Broker.directory_relocate relocated
    refine .inl ?_
    rw [broker_setBroker, (Broker.sameStores_concludeRescale ..).directory, hdir]
    exact Directory.shrinks_removeAll _ _
  | moving relocated moved =>
    have hdir := Broker.directory_relocate relocated
    refine .inl ?_
    simp only [broker_wait, broker_setBroker, hdir]
    exact Directory.shrinks_removeAll _ _
  | replied waits pushed => exact .inl (Broker.shrinks_concludeMatch ..)
  | collected glances waits parked found =>
    exact .inl (Broker.shrinks_concludeMatch (s.broker.setMailbox _ _) ..)
  | @expired call m waits silent =>
    left
    rw [← (sameStores_abandoned s.broker m).directory]
    exact Broker.shrinks_concludeMatch ..
  | settledLast waits sent last =>
    exact hsame (Broker.sameStores_concludeRescale (s.broker.countTransfer _) ..).directory

/-- A current record was current before, unless it is that of a host that polls. -/
theorem Change.host?_of_after (hc : Change setup s e o s') {a : Address} {p : Proxy}
    (hcur : s'.broker.directory.host? a = some p) :
    s.broker.directory.host? a = some p ∨ ∃ poll, e = .register poll ∧ poll.addr = a := by
  rcases hc.directory with hshrinks | ⟨poll, rfl, hdir⟩
  · exact .inl (Directory.host?_of_shrinks hshrinks hcur)
  · rw [hdir, Directory.host?_insert] at hcur
    split at hcur
    · next ha => exact .inr ⟨poll, rfl, ha.symm⟩
    · exact .inl hcur

theorem Change.coherent (hc : Change setup s e o s') (h : s.broker.directory.Coherent) :
    s'.broker.directory.Coherent := by
  rcases hc.directory with hshrinks | ⟨poll, -, hdir⟩
  · exact h.shrinks hshrinks
  · rw [hdir]
    exact h.insert _

end

/-- The two indexes of the directory stay coherent over every run. -/
theorem run_coherent (setup : Setup) (events : List Event) :
    (run setup events).broker.directory.Coherent :=
  run_induction Directory.coherent_empty (fun s e h => (step_change setup s e).coherent h) events

/-! ## Matches that wait -/

section
variable {setup : Setup} {s s' : History} {e : Event} {o : Option Outcome}

/-- A match that waits after a step did so before, or has just started and borrowed its
proxy. -/
theorem Change.matching_of_after (hc : Change setup s e o s') {n : Nat} {m : Matching}
    (hn : s'.call? n = some (.matching m)) :
    s.call? n = some (.matching m) ∨
      ∃ request, e = .startMatch request ∧ (s.broker.borrow request.nat).1 = some m.proxy := by
  have hwait {b : Broker} {c : Call}
      (hcall : ((s.setBroker b).wait c).call? n = some (.matching m)) :
      c = .matching m ∨ s.call? n = some (.matching m) := by
    rw [call?_wait] at hcall
    split at hcall
    · exact .inl (Option.some.inj hcall)
    · exact .inr hcall
  have hend {b : Broker} {call : Nat}
      (hcall : ((s.setBroker b).endCall call).call? n = some (.matching m)) :
      s.call? n = some (.matching m) := by
    rw [call?_endCall] at hcall
    split at hcall
    · cases hcall
    · exact hcall
  cases hc with
  | idle | unknown | registered | refused | denied | bounced | polledAtOnce | answered | noticed
  | rescaledNothing | rescaled => exact .inl hn
  | pushed checked borrowed mode =>
    rcases hwait hn with heq | hbefore
    · cases heq
      exact .inr ⟨_, rfl, congrArg Prod.fst borrowed⟩
    · exact .inl hbefore
  | parked checked borrowed mode posted =>
    rcases hwait hn with heq | hbefore
    · cases heq
      exact .inr ⟨_, rfl, congrArg Prod.fst borrowed⟩
    · exact .inl hbefore
  | awaited entered =>
    rcases hwait (b := s.broker) hn with heq | hbefore
    · cases heq
    · exact .inl hbefore
  | moving relocated moved =>
    rcases hwait hn with heq | hbefore
    · cases heq
    · exact .inl hbefore
  | polled | pollExpired | replied | collected | expired | settledLast => exact .inl (hend hn)
  | settled waits sent others =>
    rw [call?_setCall] at hn
    split at hn
    · cases hn
    · exact .inl hn

/-- A waiting match goes on waiting, or ends by what came of its offer; if it is on a
ticket, it ends by no other answer than the one under the ticket. -/
theorem Change.match_ends (hc : Change setup s e o s') {n : Nat} {m : Matching}
    (goesOn : e.call? = some n) (hn : s.call? n = some (.matching m)) :
    o = none ∧ s' = s ∨
      ∃ (b : Broker) (reply : Broker.Reply), b.SameStores s.broker ∧
        (∀ text ticket, reply = .answered text → m.ticket = some ticket →
          ((s.broker.mailbox m.proxy).check ticket).1 = .answer text) ∧
        o = some (.matched (b.concludeMatch m.request m.proxy reply).1) ∧
        s' = (s.setBroker (b.concludeMatch m.request m.proxy reply).2).endCall n := by
  -- The call that goes on is the match, so no change of another kind of call is at hand.
  have hsame {call : Nat} {c : Call} (hcall : e.call? = some call) (hc : s.call? call = some c) :
      call = n ∧ c = .matching m := by
    obtain rfl : call = n := Option.some.inj (hcall.symm.trans goesOn)
    exact ⟨rfl, Option.some.inj (hc.symm.trans hn)⟩
  cases hc with
  | idle => exact .inl ⟨rfl, rfl⟩
  | unknown | registered | refused | denied | pushed | parked | bounced | awaited | polledAtOnce
  | answered | noticed | rescaledNothing | rescaled | moving => cases goesOn
  | polled glances waits taken => cases (hsame glances.call? waits).2
  | pollExpired waits nothing => cases (hsame rfl waits).2
  | settled waits sent others => cases (hsame rfl waits).2
  | settledLast waits sent last => cases (hsame rfl waits).2
  | replied waits pushed =>
    obtain ⟨rfl, heq⟩ := hsame rfl waits
    cases heq
    refine .inr ⟨s.broker, _, ⟨rfl, rfl, rfl⟩, fun text ticket _ hticket => ?_, rfl, rfl⟩
    rw [pushed] at hticket
    cases hticket
  | collected glances waits parked found =>
    obtain ⟨rfl, heq⟩ := hsame glances.call? waits
    cases heq
    refine .inr ⟨s.broker.setMailbox _ _, _, ⟨rfl, rfl, rfl⟩, fun text ticket htext hticket => ?_,
      rfl, rfl⟩
    cases htext
    cases parked.symm.trans hticket
    exact congrArg Prod.fst found
  | expired waits silent =>
    obtain ⟨rfl, heq⟩ := hsame rfl waits
    cases heq
    exact .inr
      ⟨_, _, sameStores_abandoned s.broker m, fun _ _ htext _ => (by cases htext), rfl, rfl⟩

end

end History

end RelayBroker
