/-
  RelayBroker.Proofs.Traffic.Bindings

  Who is bound in a run, and in which order. A client is bound to a host by a match that
  ends with an answer, by the notice of a host that took it on, and by a rescale that moves
  its session (`bound`). What a step makes of the sessions is said by `Rebinds`. After every
  run the clients of each host are listed in the order of these bindings (`run_ranked`).
-/

import RelayBroker.Proofs.Session.BindingOrder
import RelayBroker.Proofs.Traffic.Succession
import RelayBroker.Proofs.Traffic.Trace

namespace RelayBroker

/-- The moves of a rescale bind their clients one after the other. -/
theorem Relocation.Moves.ranked {retiring : List Address} {r r' : Relocation}
    (hr : Ready retiring r) (hm : Moves retiring r r') {log : List String}
    (h : r.sessions.Ranked (log ++ r.migrations.map (·.cid))) :
    r'.sessions.Ranked (log ++ r'.migrations.map (·.cid)) := by
  induction hm with
  | refl => exact h
  | tail hmoves hstep ih =>
    have hready := hr.moves hmoves
    obtain ⟨session, slot, pools, bound, -, -, -⟩ := hstep
    have hmoved := ih.rebind hready.exact bound slot.proxy.addr
    rw [List.append_assoc] at hmoved
    rw [List.map_append]
    exact hmoved

namespace Broker

variable {b : Broker} {log : List String}

theorem ranked_relocate {records : List Proxy} (h : b.InOrder records)
    (hr : b.sessions.Ranked log) (retiring : List Address) :
    (b.relocate retiring).2.2.sessions.Ranked
      (log ++ (b.relocate retiring).1.map (·.cid)) := by
  have hstart : (Relocation.start b retiring).sessions.Ranked (log ++ []) := by
    rw [List.append_nil]
    exact hr
  have hmoves := Relocation.start_moves h.agrees.sorted h.exact retiring
  rw [relocate_eq]
  exact hmoves.ranked (Relocation.ready_start h.agrees.sorted h.exact retiring) hstart

/-- The client that a match binds, by what the match answers. -/
def boundByMatch (request : ClientRequest) : Except BrokerError String → List String
  | .ok _ => [request.cid]
  | .error _ => []

/-- A match that ends with an answer binds its client, and one that fails binds nobody. -/
theorem concludeMatch_bound (b : Broker) (request : ClientRequest) (proxy : Proxy)
    (reply : Reply) :
    (∃ answer, (b.concludeMatch request proxy reply).1 = .ok answer ∧
      (b.concludeMatch request proxy reply).2.sessions =
        b.sessions.bind request.cid request.nat proxy.addr) ∨
    ∃ error, (b.concludeMatch request proxy reply).1 = .error error ∧
      (b.concludeMatch request proxy reply).2.sessions = b.sessions := by
  cases reply with
  | answered answer =>
    simp only [concludeMatch, bindAnswered]
    cases b.directory.host? proxy.addr with
    | none => exact .inr ⟨_, rfl, rfl⟩
    | some current => exact .inl ⟨_, rfl, rfl⟩
  | failed e => exact .inr ⟨_, rfl, sessions_giveBack ..⟩
  | timedOut => exact .inr ⟨_, rfl, sessions_giveBack ..⟩

end Broker

namespace History

/-- The client that a waiting call binds, by how it ends. -/
def boundByCall (s : History) (call : Nat) (o : Option Outcome) : List String :=
  match o, s.call? call with
  | some (.matched r), some (.matching m) => Broker.boundByMatch m.request r
  | _, _ => []

/-- The clients that a step binds to hosts, in order. -/
def bound (s : History) (e : Event) (o : Option Outcome) : List String :=
  match e with
  | .notify cid action _ => s.broker.sessions.boundByNotice cid action
  | .rescale retiring _ => (s.broker.relocate retiring).1.map (·.cid)
  | .reply call _ | .settle call _ _ | .wake call | .expire call => s.boundByCall call o
  | .register _ | .await _ | .startMatch _ | .submitAnswer _ _ => []

/-- The clients that a run binds to hosts, in order. -/
def bindings (setup : Setup) (events : List Event) : List String :=
  (trace setup events).flatMap fun (s, e) => s.bound e (s.step setup e).1

section
variable {setup : Setup} {s s' : History} {e : Event} {o : Option Outcome} {log : List String}

theorem bound_of_goesOn {call : Nat} (goesOn : e.call? = some call) :
    s.bound e o = s.boundByCall call o := by
  cases e with
  | reply | settle | wake | expire => cases goesOn; rfl
  | register | await | startMatch | submitAnswer | notify | rescale => cases goesOn

theorem bound_of_kept (unanswered : ∀ answer, o ≠ some (.matched (.ok answer)))
    (unnoticed : ∀ cid action addr, e ≠ .notify cid action addr)
    (unmoved : ∀ retiring incoming, e ≠ .rescale retiring incoming) : s.bound e o = [] := by
  have hcall (call : Nat) : s.boundByCall call o = [] := by
    simp only [boundByCall]
    split
    · next r m _ =>
      cases r with
      | ok answer => exact absurd rfl (unanswered answer)
      | error error => rfl
    · rfl
  cases e with
  | notify cid action addr => exact absurd rfl (unnoticed cid action addr)
  | rescale retiring incoming => exact absurd rfl (unmoved retiring incoming)
  | reply call | settle call | wake call | expire call => exact hcall call
  | register | await | startMatch | submitAnswer => rfl

/-- What a change makes of the sessions: a match that ends with an answer binds its client, a
notice moves or ends a session, a rescale moves sessions, and nothing else touches them. -/
inductive Rebinds (s : History) : Event → Option Outcome → Sessions → Prop
  | kept {e : Event} {o : Option Outcome}
      (unanswered : ∀ answer, o ≠ some (.matched (.ok answer)))
      (unnoticed : ∀ cid action addr, e ≠ .notify cid action addr)
      (unmoved : ∀ retiring incoming, e ≠ .rescale retiring incoming) :
      Rebinds s e o s.broker.sessions
  | answered {e : Event} {call : Nat} {m : Matching} (answer : String)
      (goesOn : e.call? = some call)
      (waits : s.call? call = some (.matching m)) :
      Rebinds s e (some (.matched (.ok answer)))
        (s.broker.sessions.bind m.request.cid m.request.nat m.proxy.addr)
  | noticed (cid : String) (action : SessionAction) (addr : Address) :
      Rebinds s (.notify cid action addr) none (s.broker.sessions.notice cid action addr).2
  | rescaled {o : Option Outcome} (retiring incoming : List Address)
      (unanswered : ∀ answer, o ≠ some (.matched (.ok answer))) :
      Rebinds s (.rescale retiring incoming) o (s.broker.relocate retiring).2.2.sessions

/-- A match that has waited binds its client, or nobody. -/
theorem rebinds_concluded {call : Nat} {m : Matching} (goesOn : e.call? = some call)
    (waits : s.call? call = some (.matching m)) {b : Broker} (hsame : b.SameStores s.broker)
    (reply : Broker.Reply) :
    Rebinds s e (some (.matched (b.concludeMatch m.request m.proxy reply).1))
      (b.concludeMatch m.request m.proxy reply).2.sessions := by
  rcases Broker.concludeMatch_bound b m.request m.proxy reply with
    ⟨answer, hr, hsessions⟩ | ⟨error, hr, hsessions⟩
  · rw [hr, hsessions, hsame.sessions]
    exact .answered answer goesOn waits
  · rw [hr, hsessions, hsame.sessions]
    exact .kept nofun (by rintro _ _ _ rfl; cases goesOn) (by rintro _ _ rfl; cases goesOn)

theorem Change.rebinds (hc : Change setup s e o s') : Rebinds s e o s'.broker.sessions := by
  -- Most changes leave the sessions as they are.
  have hsame {e : Event} {o : Option Outcome} {sessions : Sessions}
      (hsessions : sessions = s.broker.sessions)
      (unanswered : ∀ answer, o ≠ some (.matched (.ok answer)))
      (unnoticed : ∀ cid action addr, e ≠ .notify cid action addr)
      (unmoved : ∀ retiring incoming, e ≠ .rescale retiring incoming) : Rebinds s e o sessions :=
    hsessions ▸ .kept unanswered unnoticed unmoved
  have hglances {call : Nat} {e : Event} (glances : Glances call e) :
      (∀ cid action addr, e ≠ .notify cid action addr) ∧
        ∀ retiring incoming, e ≠ .rescale retiring incoming := by
    cases glances <;> exact ⟨nofun, nofun⟩
  have hborrowed {nat proxy b} (hb : s.broker.borrow nat = (proxy, b)) :
      b.sessions = s.broker.sessions := Broker.sessions_of_borrow hb
  have htaken {proxy offer b} (ht : s.broker.takeOffer proxy = (offer, b)) (ended polled) :
      (b.endPoll ended polled).2.sessions = s.broker.sessions :=
    (Broker.sessions_endPoll ..).trans (Broker.sameStores_of_takeOffer ht).sessions
  have hrelocated {retiring incoming migrations stranded b} {o : Option Outcome}
      (hr : s.broker.relocate retiring = (migrations, stranded, b))
      (unanswered : ∀ answer, o ≠ some (.matched (.ok answer))) :
      Rebinds s (.rescale retiring incoming) o b.sessions := by
    have hmoved := Rebinds.rescaled (s := s) retiring incoming unanswered
    rw [hr] at hmoved
    exact hmoved
  cases hc with
  | idle goesOn =>
    exact .kept nofun (by rintro _ _ _ rfl; cases goesOn) (by rintro _ _ rfl; cases goesOn)
  | unknown | registered | refused | awaited | settled => exact .kept nofun nofun nofun
  | denied checked borrowed =>
    have hsessions := hborrowed borrowed
    exact hsame hsessions nofun nofun nofun
  | pushed checked borrowed mode => exact hsame (hborrowed borrowed) nofun nofun nofun
  | parked checked borrowed mode posted =>
    have hsessions := hborrowed borrowed
    exact hsame hsessions nofun nofun nofun
  | bounced checked borrowed mode posted =>
    exact hsame ((Broker.sessions_giveBack ..).trans (hborrowed borrowed)) nofun nofun nofun
  | polledAtOnce entered taken => exact hsame (htaken taken _ _) nofun nofun nofun
  | polled glances waits taken =>
    exact hsame (htaken taken _ _) nofun (hglances glances).1 (hglances glances).2
  | pollExpired waits nothing => exact hsame (Broker.sessions_endPoll ..) nofun nofun nofun
  | answered sid answer =>
    exact hsame (Broker.sameStores_submitAnswer ..).sessions nofun nofun nofun
  | noticed cid action addr => exact .noticed cid action addr
  | rescaledNothing => exact .rescaled [] [] nofun
  | rescaled relocated =>
    rw [broker_setBroker, (Broker.sameStores_concludeRescale ..).sessions]
    exact hrelocated relocated nofun
  | moving relocated moved => exact hrelocated relocated nofun
  | replied waits pushed => exact rebinds_concluded rfl waits (.refl _) _
  | collected glances waits parked found =>
    exact rebinds_concluded (b := s.broker.setMailbox _ _) glances.call? waits ⟨rfl, rfl, rfl⟩
      (.answered _)
  | expired waits silent =>
    exact rebinds_concluded rfl waits (sameStores_abandoned ..) .timedOut
  | settledLast waits sent last =>
    exact hsame (Broker.sameStores_concludeRescale (s.broker.countTransfer _) ..).sessions nofun
      nofun nofun

/-- Every change adds the bindings that it makes to the order of the lists. -/
theorem Change.ranked (h : s.Sound) (hr : s.broker.sessions.Ranked log)
    (hc : Change setup s e o s') : s'.broker.sessions.Ranked (log ++ s.bound e o) := by
  have hrebinds := hc.rebinds
  generalize s'.broker.sessions = sessions at hrebinds
  cases hrebinds with
  | kept unanswered unnoticed unmoved =>
    rw [bound_of_kept unanswered unnoticed unmoved, List.append_nil]
    exact hr
  | answered answer goesOn waits =>
    simp only [bound_of_goesOn goesOn, boundByCall, waits]
    exact hr.bind h.order.exact _ _ _
  | noticed cid action addr => exact hr.notice h.order.exact cid action addr
  | rescaled retiring incoming => exact Broker.ranked_relocate h.order hr retiring

end

/-- After every run the clients of each host are listed in the order in which they were
bound. -/
theorem run_ranked (setup : Setup) (events : List Event) :
    (run setup events).broker.sessions.Ranked (bindings setup events) := by
  induction events using List.reverseRecOn with
  | nil => exact Sessions.ranked_empty
  | append_singleton events e ih =>
    have hstep := (step_change setup (run setup events) e).ranked (run_sound setup events) ih
    rw [run_append, bindings, trace_append, List.flatMap_append, List.flatMap_singleton]
    exact hstep

/-- A client whose host says again that it took it on is listed behind the others. -/
example :
    let setup : Setup := ⟨Settings.standard, Catalog.builtin⟩
    let host : Address := .v4 10 0 0 1
    let request (cid : String) : Event := .startMatch ⟨cid, .unknown, "", "a=candidate:1"⟩
    let events : List Event := [.register ⟨"s", "standalone", .unrestricted, host, 0, true⟩,
      request "c1", request "c2", .reply 1 (.ok "ANSWER"), .reply 0 (.ok "ANSWER"),
      .notify "c2" .add host]
    bindings setup events = ["c2", "c1", "c2"] ∧
      (run setup events).broker.sessions.ids host = ["c1", "c2"] := by
  decide +kernel

end History

end RelayBroker
