/-
  RelayBroker.Proofs.Traffic.Pairing

  Polls, clients and answers belong together when offers are parked. The offers that a
  mailbox has taken in a run are as many as its tickets, and the answers that it has
  delivered as many as its served tickets; since a poll has one life, neither is ever
  more than one. An offer that is parked was posted at some step of the run, and an answer
  under a ticket was delivered at some step: both are followed back along the trace.

  Main statement: `polls_and_answers_paired`.
-/

import RelayBroker.Proofs.Traffic.PollLife
import RelayBroker.Proofs.Traffic.Trace

namespace RelayBroker

/-- Whether an answer has come on a ticket. -/
def Ticket.served : Ticket → Bool
  | .answered _ | .spent => true
  | .waiting | .abandoned => false

/-- One ticket in place of another, in a count of those that are served. -/
theorem Ticket.countP_served_set {tickets : List Ticket} {i : Nat} {old : Ticket}
    (hold : tickets[i]? = some old) (new : Ticket) :
    (tickets.set i new).countP served + old.served.toNat =
      tickets.countP served + new.served.toNat := by
  obtain ⟨hi, rfl⟩ := List.getElem?_eq_some_iff.mp hold
  -- A ticket that is served is one of those that are counted.
  have hpos (h : tickets[i].served = true) : 0 < tickets.countP served :=
    List.countP_pos_iff.mpr ⟨_, List.getElem_mem hi, h⟩
  rw [List.countP_set hi]
  cases hserved : tickets[i].served with
  | true =>
    have hcounted := hpos hserved
    cases new.served <;> simp <;> omega
  | false => cases new.served <;> simp

/-- What comes of the answer of a proxy. -/
theorem Broker.concludeMatch_answered (b : Broker) (request : ClientRequest) (proxy : Proxy)
    (text : String) : (b.concludeMatch request proxy (.answered text)).1 =
      if (b.directory.host? proxy.addr).isSome then .ok text
      else .error (.signaling "proxy retired during handshake") := by
  simp only [concludeMatch, bindAnswered]
  cases b.directory.host? proxy.addr <;> rfl

namespace History

/-- The record for which an event lets a poll go on. -/
def polling? (s : History) : Event → Option Proxy
  | .await poll => s.records[poll]?
  | .wake call | .expire call =>
    match s.call? call with
    | some (.polling proxy) => some proxy
    | _ => none
  | _ => none

/-- What a match gets that goes on with an answer: the answer, unless the host of its
record has left the directory. -/
def received (s : History) (m : Matching) (text : String) : Except BrokerError String :=
  if (s.broker.directory.host? m.proxy.addr).isSome then .ok text
  else .error (.signaling "proxy retired during handshake")

/-! ## Counts and origins, turn by turn -/

section
variable {s s' : History} {e : Event} {k : Nat} {offer : Option Offer} {text : Option String}

/-- Each offer that is posted is given a ticket. -/
theorem Turn.length_tickets (ht : Turn s e s' k offer text) :
    (s'.broker.box k).tickets.length =
      (s.broker.box k).tickets.length + offer.isSome.toNat := by
  cases ht with
  | kept box | ended box | answered _ box | collected _ _ _ _ box | left _ _ _ box => simp [box]
  | posted n m room ticket box => simp [box]

/-- Each answer that is delivered serves a ticket, and no ticket loses its answer. -/
theorem Turn.countP_served (h : s.Life k) (ht : Turn s e s' k offer text) :
    (s'.broker.box k).tickets.countP Ticket.served =
      (s.broker.box k).tickets.countP Ticket.served + text.isSome.toNat := by
  cases ht with
  | kept box | ended box => simp [box]
  | posted n m room ticket box => simp [box, Ticket.served]
  | answered waiting box =>
    rw [box]
    exact Ticket.countP_served_set waiting _
  | collected glances waited ticket found box =>
    rw [box]
    exact Nat.add_right_cancel (m := 1) (Ticket.countP_served_set found .spent)
  | left waited ticket silent box =>
    -- The match holds the ticket and there is no answer on it, so it is not served.
    obtain ⟨old, htickets, -, hlive, hholds, -⟩ := h.of_waits waited
    rw [hholds] at ticket
    cases ticket
    have hold : (s.broker.box k).tickets[0]? = some old := by
      rw [htickets]
      rfl
    have hserved : old.served = false := by
      cases old with
      | waiting | abandoned => rfl
      | answered t => exact absurd hold (silent t)
      | spent => cases hlive
    have hset := Ticket.countP_served_set hold .abandoned
    rw [hserved] at hset
    rw [box]
    exact hset

/-- An offer that is parked was parked before, or has just been posted. -/
theorem Turn.parked_of_after (ht : Turn s e s' k offer text) {o : Offer}
    (ho : (s'.broker.box k).parked = some o) :
    (s.broker.box k).parked = some o ∨ offer = some o := by
  cases ht with
  | kept box | answered _ box | collected _ _ _ _ box | left _ _ _ box =>
    rw [box] at ho
    exact .inl ho
  | ended box =>
    rw [box] at ho
    cases ho
  | posted n m room ticket box =>
    rw [box] at ho
    exact .inr ho

/-- An answer under a ticket was there before, or has just been delivered. -/
theorem Turn.answer_of_after (ht : Turn s e s' k offer text) {t : String}
    (hin : .answered t ∈ (s'.broker.box k).tickets) :
    .answered t ∈ (s.broker.box k).tickets ∨ text = some t := by
  cases ht with
  | kept box | ended box =>
    rw [box] at hin
    exact .inl hin
  | posted n m room ticket box =>
    rw [box] at hin
    simpa using hin
  | answered waiting box =>
    rw [box] at hin
    rcases List.mem_or_eq_of_mem_set hin with hbefore | hnow
    · exact .inl hbefore
    · cases hnow
      exact .inr rfl
  | collected _ _ _ _ box | left _ _ _ box =>
    rw [box] at hin
    rcases List.mem_or_eq_of_mem_set hin with hbefore | hnow
    · exact .inl hbefore
    · cases hnow

/-- A match that waits has waited before, or its offer has just been posted. -/
theorem Turn.waits_of_after (ht : Turn s e s' k offer text) {n : Nat} {m : Matching}
    (hw : s'.Waits k n m) : s.Waits k n m ∨ offer = some m.offer := by
  cases ht with
  | kept _ waits | ended _ waits | answered _ _ waits => exact .inl ((waits n m).mp hw)
  | posted n' m' room ticket box waits =>
    rcases (waits n m).mp hw with ⟨-, rfl⟩ | hbefore
    · exact .inr rfl
    · exact .inl hbefore
  | collected _ _ _ _ _ waits | left _ _ _ _ waits => exact .inl ((waits n m).mp hw).2

/-- A match whose answer has come waits until it looks. -/
theorem Turn.answered_kept (h : s.Life k) (ht : Turn s e s' k offer text) {n : Nat} {m : Matching}
    {t : String} (hw : s.Waits k n m) (htickets : (s.broker.box k).tickets = [.answered t]) :
    (s'.Waits k n m ∧ (s'.broker.box k).tickets = [.answered t]) ∨ Glances n e := by
  obtain ⟨-, -, hfull, -, hholds, honly⟩ := h.of_waits hw
  cases ht with
  | kept box waits | ended box waits => exact .inl ⟨(waits n m).mpr hw, by rw [box]; exact htickets⟩
  | posted n' m' room => exact absurd hfull room
  | answered waiting =>
    rw [htickets, List.getElem?_singleton] at waiting
    split at waiting <;> cases waiting
  | collected glances waited =>
    obtain ⟨rfl, -⟩ := (honly _ _).mp waited
    exact .inr glances
  | left waited ticket silent =>
    -- It would find its answer.
    obtain ⟨rfl, rfl⟩ := (honly _ _).mp waited
    rw [hholds] at ticket
    cases ticket
    exact absurd (by rw [htickets]; rfl) (silent t)

end

/-! ## Steps that end a call -/

theorem polling?_of_glances {s : History} {e : Event} {n : Nat} {proxy : Proxy}
    (glances : Glances n e) (waits : s.call? n = some (.polling proxy)) :
    s.polling? e = some proxy := by
  cases glances <;> simp only [polling?, waits]

section
variable {setup : Setup} {s s' : History} {e : Event} {o : Option Outcome}

/-- A poll that ends with an offer picks up the one that is parked for its record. -/
theorem Change.parked_of_polled (hc : Change setup s e o s') {proxy : Proxy}
    (hp : s.polling? e = some proxy) {offer : Offer} (ho : o = some (.polled (some offer))) :
    (s.broker.mailbox proxy).parked = some offer := by
  cases hc with
  | idle | unknown | registered | pushed | parked | awaited | answered | noticed | moving
  | settled => cases ho
  | refused | denied | bounced | rescaledNothing | rescaled | replied | collected | expired
  | settledLast => cases ho
  | polledAtOnce entered taken =>
    cases entered.symm.trans hp
    cases ho
    exact congrArg Prod.fst taken
  | polled glances waits taken =>
    cases (polling?_of_glances glances waits).symm.trans hp
    cases ho
    exact congrArg Prod.fst taken
  | pollExpired waits nothing =>
    -- What is left over when the mailbox closes is what was parked.
    cases (polling?_of_glances .expire waits).symm.trans hp
    exact Outcome.polled.inj (Option.some.inj ho)

/-- A match on a ticket that ends with an answer has found it there. -/
theorem Change.found_of_matched (hc : Change setup s e o s') {n i : Nat} {m : Matching}
    (goesOn : e.call? = some n) (hn : s.call? n = some (.matching m)) (hi : m.ticket = some i)
    {text : String} (ho : o = some (.matched (.ok text))) :
    (s.broker.mailbox m.proxy).tickets[i]? = some (.answered text) := by
  rcases hc.match_ends goesOn hn with ⟨hnothing, -⟩ | ⟨b, reply, -, hfound, hends, -⟩
  · rw [hnothing] at ho
    cases ho
  · rw [hends] at ho
    have hreply := Outcome.matched.inj (Option.some.inj ho)
    cases reply with
    | failed error => cases hreply
    | timedOut => cases hreply
    | answered answer =>
      rw [Broker.concludeMatch_answered] at hreply
      split at hreply
      · obtain rfl := Except.ok.inj hreply
        obtain ⟨box, hcheck⟩ : ∃ box, (s.broker.mailbox m.proxy).check i = (.answer answer, box) :=
          ⟨_, Prod.ext (hfound answer i rfl hi) rfl⟩
        exact (Mailbox.eq_of_check hcheck).1
      · cases hreply

/-- A match that looks when its answer has come gets it. -/
theorem step_of_answered {n i : Nat} {m : Matching} (glances : Glances n e)
    (hn : s.call? n = some (.matching m)) (hi : m.ticket = some i) {text : String}
    (hfound : (s.broker.mailbox m.proxy).tickets[i]? = some (.answered text)) :
    (s.step setup e).1 = some (.matched (s.received m text)) := by
  have hwake : (s.traffic.wake n).1 = some (.matched (s.received m text)) := by
    rw [Traffic.wake, show s.traffic.calls.get? n = _ from hn]
    simp only [hi, Mailbox.check_of_answered hfound, Traffic.finish, Broker.concludeMatch_answered]
    rfl
  cases glances with
  | wake => exact hwake
  | expire =>
    simp only [step, Traffic.expire]
    split
    · next heq =>
      rw [heq] at hwake
      exact hwake
    · next heq =>
      rw [heq] at hwake
      cases hwake

end

/-! ## Runs -/

/-- An offer is posted to a record that was entered. -/
theorem mem_records_of_posted {setup : Setup} {s : History} {e : Event} (h : s.Sound)
    {proxy : Proxy} {offer : Offer} (hp : s.posted? setup e = some (proxy, offer)) :
    proxy ∈ s.records := by
  cases e with
  | startMatch request =>
    simp only [posted?, Broker.openMatch] at hp
    cases hcheck : Broker.checkRequest setup.catalog request with
    | error e =>
      simp only [hcheck] at hp
      cases hp
    | ok bridge =>
      obtain ⟨borrowed, b, hborrow⟩ : ∃ borrowed b, s.broker.borrow request.nat = (borrowed, b) :=
        ⟨_, _, rfl⟩
      cases borrowed with
      | none =>
        simp only [hcheck, hborrow] at hp
        cases hp
      | some p =>
        simp only [hcheck, hborrow] at hp
        split at hp
        · cases hp
          exact (h.order.agrees.of_pooled (h.order.agrees.pooled_of_borrow hborrow)).2.2
        · cases hp
  | register | await | submitAnswer | notify | rescale | reply | settle | wake | expire => cases hp

/-- An answer is delivered to a record that was entered, and waits under its session id. -/
theorem session?_of_delivered {s : History} {sid text : String} {x : Proxy × String}
    (hp : s.delivered? (.submitAnswer sid text) = some x) :
    s.broker.directory.session? sid = some x.1 ∧ x.2 = text := by
  simp only [delivered?] at hp
  split at hp
  · obtain ⟨proxy, hsid, rfl⟩ := Option.map_eq_some_iff.mp hp
    exact ⟨hsid, rfl⟩
  · cases hp

theorem mem_records_of_delivered {s : History} {e : Event} (h : s.Sound)
    (hd : s.broker.directory.Coherent) {proxy : Proxy} {text : String}
    (hp : s.delivered? e = some (proxy, text)) : proxy ∈ s.records := by
  cases e with
  | submitAnswer sid answer =>
    have hcur := hd.current (session?_of_delivered hp).1
    exact (h.order.agrees.current hcur).2
  | register | await | startMatch | notify | rescale | reply | settle | wake | expire => cases hp

/-- What holds of a record and does not hold at the start comes from a step for the record,
if the steps for its poll are all that it can come from. -/
theorem mem_trace_of_record {setup : Setup} {α : Type} {f : History × Event → Option (Proxy × α)}
    {P : History → Prop} {proxy : Proxy} {a : α} (hstart : ¬ P start)
    (known : ∀ events e q, f (run setup events, e) = some (q, a) → q ∈ (run setup events).records)
    (hstep : ∀ events e, P (run setup (events ++ [e])) →
      P (run setup events) ∨ at? proxy.poll (f (run setup events, e)) = some a)
    {events : List Event} (hp : proxy ∈ (run setup events).records) (h : P (run setup events)) :
    ∃ x ∈ trace setup events, f x = some (proxy, a) := by
  have hfrom (events : List Event) (e : Event) (hafter : P (run setup (events ++ [e]))) :
      P (run setup events) ∨ ∃ q ∈ (run setup events).records,
        q.poll = proxy.poll ∧ f (run setup events, e) = some (q, a) := by
    rcases hstep events e hafter with hbefore | hnow
    · exact .inl hbefore
    · obtain ⟨q, hpoll, hf⟩ := at?_eq_some_iff.mp hnow
      exact .inr ⟨q, known events e q hf, hpoll, hf⟩
  obtain ⟨x, hx, q, hq, hpoll, hf⟩ := mem_trace_of_run
    (Q := fun x => ∃ q ∈ x.1.records, q.poll = proxy.poll ∧ f x = some (q, a)) hstart hfrom h
  -- Records are told apart by their polls.
  have hq' := (records_of_mem_trace hx).subset hq
  have horder := (run_sound setup events).order.agrees
  exact ⟨x, hx, horder.eq_of_poll hq' hp hpoll ▸ hf⟩

/-- What concerns a record concerns its poll. -/
theorem countP_any_le {α β : Type} (l : List β) (f : β → Option (Proxy × α)) (proxy : Proxy) :
    l.countP (fun x => (f x).any fun y => y.1 = proxy) ≤
      l.countP (fun x => (at? proxy.poll (f x)).isSome) := by
  apply List.countP_mono_left
  intro x _ hx
  cases hf : f x with
  | none =>
    rw [hf] at hx
    cases hx
  | some y =>
    obtain ⟨q, a⟩ := y
    rw [hf] at hx
    rw [at?_some, if_pos (congrArg Proxy.poll (of_decide_eq_true hx))]
    rfl

section
variable {setup : Setup} (mode : setup.settings.mode = .mailbox) (events : List Event)
include mode

/-- The offers that a mailbox has taken are as many as its tickets. -/
theorem countP_posted (k : Nat) :
    (trace setup events).countP (fun x => (at? k (x.1.posted? setup x.2)).isSome) =
      ((run setup events).broker.box k).tickets.length := by
  induction events using List.reverseRecOn with
  | nil => rfl
  | append_singleton events e ih =>
    rw [trace_append, List.countP_append, ih, (run_turn mode events e k).length_tickets,
      List.countP_singleton]
    cases (at? k ((run setup events).posted? setup e)).isSome <;> rfl

/-- The answers that a mailbox has delivered are as many as its served tickets. -/
theorem countP_delivered (k : Nat) :
    (trace setup events).countP (fun x => (at? k (x.1.delivered? x.2)).isSome) =
      ((run setup events).broker.box k).tickets.countP Ticket.served := by
  induction events using List.reverseRecOn with
  | nil => rfl
  | append_singleton events e ih =>
    rw [trace_append, List.countP_append, ih,
      (run_turn mode events e k).countP_served (run_life mode events k), List.countP_singleton]
    cases (at? k ((run setup events).delivered? e)).isSome <;> rfl

/-- An offer that is parked for a record was posted there. -/
theorem posted_of_parked {proxy : Proxy} (hp : proxy ∈ (run setup events).records) {offer : Offer}
    (hparked : ((run setup events).broker.mailbox proxy).parked = some offer) :
    ∃ x ∈ trace setup events, x.1.posted? setup x.2 = some (proxy, offer) :=
  mem_trace_of_record (f := fun x => x.1.posted? setup x.2)
    (P := fun s => (s.broker.mailbox proxy).parked = some offer)
    (fun h => by cases h)
    (fun events _ _ => mem_records_of_posted (run_sound setup events))
    (fun events e => (run_turn mode events e proxy.poll).parked_of_after) hp hparked

/-- A match that waits has posted its offer. -/
theorem posted_of_waits {n : Nat} {m : Matching}
    (hn : (run setup events).call? n = some (.matching m)) :
    ∃ x ∈ trace setup events, x.1.posted? setup x.2 = some (m.proxy, m.offer) :=
  mem_trace_of_record (f := fun x => x.1.posted? setup x.2)
    (P := fun s => s.Waits m.proxy.poll n m)
    (fun h => by cases h.1)
    (fun events _ _ => mem_records_of_posted (run_sound setup events))
    (fun events e => (run_turn mode events e m.proxy.poll).waits_of_after)
    ((run_sound setup events).known hn) ⟨hn, rfl⟩

/-- An answer under a ticket of a record was delivered there. -/
theorem delivered_of_answered {proxy : Proxy} (hp : proxy ∈ (run setup events).records)
    {text : String}
    (hin : .answered text ∈ ((run setup events).broker.mailbox proxy).tickets) :
    ∃ x ∈ trace setup events, x.1.delivered? x.2 = some (proxy, text) :=
  mem_trace_of_record (f := fun x => x.1.delivered? x.2)
    (P := fun s => .answered text ∈ (s.broker.mailbox proxy).tickets)
    (fun h => by cases h)
    (fun events _ _ =>
      mem_records_of_delivered (run_sound setup events) (run_coherent setup events))
    (fun events e => (run_turn mode events e proxy.poll).answer_of_after) hp hin

/-- However a run goes on, a match whose answer has come waits until it looks, and gets the
answer when it does. -/
theorem run_answered_kept (more : List Event) {n : Nat} {m : Matching} {text : String}
    (hn : (run setup events).call? n = some (.matching m))
    (hfound : ((run setup events).broker.mailbox m.proxy).tickets = [.answered text]) :
    ((run setup (events ++ more)).call? n = some (.matching m) ∧
      ∀ e, Glances n e → ((run setup (events ++ more)).step setup e).1 =
        some (.matched ((run setup (events ++ more)).received m text))) ∨
    ∃ before e, before ++ [e] <+: more ∧ Glances n e ∧
      ((run setup (events ++ before)).step setup e).1 =
        some (.matched ((run setup (events ++ before)).received m text)) := by
  -- Until it looks, it waits and its ticket keeps the answer.
  have hkept : ((run setup (events ++ more)).Waits m.proxy.poll n m ∧
        ((run setup (events ++ more)).broker.mailbox m.proxy).tickets = [.answered text]) ∨
      ∃ before e, before ++ [e] <+: more ∧ Glances n e ∧
        (run setup (events ++ before)).Waits m.proxy.poll n m ∧
        ((run setup (events ++ before)).broker.mailbox m.proxy).tickets = [.answered text] := by
    induction more using List.reverseRecOn with
    | nil =>
      rw [List.append_nil]
      exact .inl ⟨⟨hn, rfl⟩, hfound⟩
    | append_singleton more e ih =>
      rcases ih with ⟨hwaits, htickets⟩ | ⟨before, e', hpre, hlooked⟩
      · rw [← List.append_assoc]
        have hturn := run_turn mode (events ++ more) e m.proxy.poll
        rcases hturn.answered_kept (run_life mode _ _) hwaits htickets with hstill | hglances
        · exact .inl hstill
        · exact .inr ⟨more, e, List.prefix_refl _, hglances, hwaits, htickets⟩
      · exact .inr ⟨before, e', hpre.trans (List.prefix_append more [e]), hlooked⟩
  have hgets {s : History} (hlife : s.Life m.proxy.poll) (hwaits : s.Waits m.proxy.poll n m)
      (htickets : (s.broker.mailbox m.proxy).tickets = [.answered text]) (e : Event)
      (hglances : Glances n e) :
      (s.step setup e).1 = some (.matched (s.received m text)) := by
    obtain ⟨-, -, -, -, hholds, -⟩ := hlife.of_waits hwaits
    exact step_of_answered hglances hwaits.1 hholds (by rw [htickets]; rfl)
  rcases hkept with ⟨hwaits, htickets⟩ | ⟨before, e, hpre, hglances, hwaits, htickets⟩
  · exact .inl ⟨hwaits.1, hgets (run_life mode _ _) hwaits htickets⟩
  · exact .inr ⟨before, e, hpre, hglances,
      hgets (run_life mode _ _) hwaits htickets e hglances⟩

/-- An answer that reaches somebody reaches the one match that waits for the record under
the session id. -/
theorem waits_of_submitAnswer {sid text : String}
    (hreached : ((run setup events).broker.submitAnswer sid text).1 = true) :
    ∃ n m, (run setup events).broker.directory.session? sid = some m.proxy ∧
      (run setup events).call? n = some (.matching m) ∧
      (∀ n' m', (run setup events).call? n' = some (.matching m') → m'.proxy = m.proxy → n' = n) ∧
      ((run setup (events ++ [.submitAnswer sid text])).broker.mailbox m.proxy).tickets =
        [.answered text] := by
  obtain ⟨proxy, hsid, hdelivered⟩ : ∃ proxy,
      (run setup events).broker.directory.session? sid = some proxy ∧
        (run setup events).delivered? (.submitAnswer sid text) = some (proxy, text) := by
    cases hsid : (run setup events).broker.directory.session? sid with
    | none => simp [Broker.submitAnswer, hsid] at hreached
    | some proxy => exact ⟨proxy, rfl, by simp only [delivered?, hreached, if_true, hsid]; rfl⟩
  have hsound := run_sound setup events
  have hproxy := mem_records_of_delivered hsound (run_coherent setup events) hdelivered
  have hturn := run_turn mode events (.submitAnswer sid text) proxy.poll
  rw [hdelivered, at?_some, if_pos rfl] at hturn
  cases hturn with
  | answered waiting box waits =>
    obtain ⟨rfl, htickets, n, m, -, honly⟩ := (run_life mode events proxy.poll).of_waiting waiting
    have hwaits := (honly n m).mpr ⟨rfl, rfl⟩
    -- The record of the match and the one under the session id are of one poll.
    obtain rfl := hsound.order.agrees.eq_of_poll (hsound.known hwaits.1) hproxy hwaits.2
    refine ⟨n, m, hsid, hwaits.1, fun n' m' hn' hm' => ?_, ?_⟩
    · exact ((honly n' m').mp ⟨hn', by rw [hm']⟩).1
    · rw [← Broker.box_poll, box, htickets]
      rfl

end

/-- A record for which a poll goes on was entered. -/
theorem mem_records_of_polling {s : History} {e : Event} (h : s.Sound) {proxy : Proxy}
    (hp : s.polling? e = some proxy) : proxy ∈ s.records := by
  have hcall {n : Nat} (hn : (match s.call? n with
      | some (.polling proxy) => some proxy
      | _ => none) = some proxy) : proxy ∈ s.records := by
    split at hn
    · next p hwaits =>
      cases hn
      exact h.known hwaits
    · cases hn
  cases e with
  | await poll => exact List.mem_of_getElem? hp
  | wake n => exact hcall hp
  | expire n => exact hcall hp
  | register | startMatch | submitAnswer | notify | rescale | reply | settle => cases hp

/-- When offers are parked, each poll is paired with one client, and each answer with that
client.

A mailbox takes one offer at most. A poll ends with no other offer than the one that a match
posted to its record. An answer reaches somebody only if a match waits that has posted its
offer to the record under the session id; no other match waits for that record, and this one
gets the answer when it goes on, unless its host has left the directory by then. No record is
delivered two answers, and no match ends with an answer that was not delivered to its
record. -/
theorem polls_and_answers_paired (setup : Setup) (mode : setup.settings.mode = .mailbox)
    (events : List Event) :
    let s := run setup events
    (∀ proxy, (trace setup events).countP
      (fun x => (x.1.posted? setup x.2).any fun y => y.1 = proxy) ≤ 1) ∧
    (∀ e proxy offer, s.polling? e = some proxy →
      (s.step setup e).1 = some (.polled (some offer)) →
        ∃ x ∈ trace setup events, x.1.posted? setup x.2 = some (proxy, offer)) ∧
    (∀ sid text, (s.broker.submitAnswer sid text).1 = true → ∃ n m,
      s.broker.directory.session? sid = some m.proxy ∧
      s.call? n = some (.matching m) ∧
      (∃ x ∈ trace setup events, x.1.posted? setup x.2 = some (m.proxy, m.offer)) ∧
      (∀ n' m', s.call? n' = some (.matching m') → m'.proxy = m.proxy → n' = n) ∧
      ∀ more, let after (more : List Event) := run setup (events ++ .submitAnswer sid text :: more)
        ((after more).call? n = some (.matching m) ∧ ∀ e, Glances n e →
          ((after more).step setup e).1 = some (.matched ((after more).received m text))) ∨
        ∃ before e, before ++ [e] <+: more ∧ Glances n e ∧
          ((after before).step setup e).1 = some (.matched ((after before).received m text))) ∧
    (∀ proxy, (trace setup events).countP
      (fun x => (x.1.delivered? x.2).any fun y => y.1 = proxy) ≤ 1) ∧
    (∀ e n m text, e.call? = some n → s.call? n = some (.matching m) →
      (s.step setup e).1 = some (.matched (.ok text)) →
        ∃ x ∈ trace setup events, x.1.delivered? x.2 = some (m.proxy, text)) := by
  intro s
  have hsound : s.Sound := run_sound setup events
  have hlife (k : Nat) : s.Life k := run_life mode events k
  refine ⟨fun proxy => ?_, fun e proxy offer hpolls hends => ?_, fun sid text hreached => ?_,
    fun proxy => ?_, fun e n m text goesOn hn hends => ?_⟩
  · calc (trace setup events).countP _ ≤ _ := countP_any_le _ _ proxy
      _ = (s.broker.box proxy.poll).tickets.length := countP_posted mode events proxy.poll
      _ ≤ 1 := (hlife proxy.poll).length_tickets_le
  · have hparked := (step_change setup s e).parked_of_polled hpolls hends
    exact posted_of_parked mode events (mem_records_of_polling hsound hpolls) hparked
  · obtain ⟨n, m, hsid, hn, halone, htickets⟩ := waits_of_submitAnswer mode events hreached
    refine ⟨n, m, hsid, hn, posted_of_waits mode events hn, halone, fun more => ?_⟩
    have hstill : (run setup (events ++ [.submitAnswer sid text])).call? n =
        some (.matching m) := by
      rw [run_append]
      exact hn
    have hkept := run_answered_kept mode _ more hstill htickets
    simp only [List.append_assoc, List.singleton_append] at hkept
    exact hkept
  · calc (trace setup events).countP _ ≤ _ := countP_any_le _ _ proxy
      _ = (s.broker.box proxy.poll).tickets.countP Ticket.served :=
        countP_delivered mode events proxy.poll
      _ ≤ (s.broker.box proxy.poll).tickets.length := List.countP_le_length
      _ ≤ 1 := (hlife proxy.poll).length_tickets_le
  · obtain ⟨-, -, -, -, hholds, -⟩ := (hlife m.proxy.poll).of_waits ⟨hn, rfl⟩
    have hfound := (step_change setup s e).found_of_matched goesOn hn hholds hends
    exact delivered_of_answered mode events (hsound.known hn) (List.mem_of_getElem? hfound)

/-- A proxy polls and waits, a client is matched with it, and the poll picks up the offer. -/
def offered : List Event :=
  [.register ⟨"s1", "standalone", .unrestricted, .v4 10 0 0 1, 0, true⟩, .await 0,
    .startMatch ⟨"c1", .unrestricted, "", "a=candidate:1"⟩, .wake 0]

/-- The answer of the proxy reaches the client, and was delivered to the record with which
the client was matched. -/
theorem answer_reaches_client :
    let setup : Setup := ⟨{ Settings.standard with mode := .mailbox }, Catalog.builtin⟩
    let answer : Event := .submitAnswer "s1" "ANSWER"
    let proxy : Proxy := ⟨0, "s1", "standalone", .unrestricted, .v4 10 0 0 1, 0⟩
    setup.settings.mode = .mailbox ∧
      ((run setup offered).broker.submitAnswer "s1" "ANSWER").1 = true ∧
      ((run setup (offered ++ [answer])).step setup (.wake 1)).1 =
        some (.matched (.ok "ANSWER")) ∧
      (∃ x ∈ trace setup (offered ++ [answer]), x.1.delivered? x.2 = some (proxy, "ANSWER")) ∧
      ∃ n m, (run setup offered).call? n = some (.matching m) ∧
        (run setup offered).broker.directory.session? "s1" = some m.proxy := by
  intro setup answer proxy
  have mode : setup.settings.mode = .mailbox := rfl
  have hreached : ((run setup offered).broker.submitAnswer "s1" "ANSWER").1 = true := by
    decide +kernel
  have hwaits : (run setup (offered ++ [answer])).call? 1 = some (.matching
      ⟨⟨"c1", .unrestricted, "", "a=candidate:1"⟩, proxy,
        ⟨"unrestricted", "a=candidate:1", "2B280B23E1107BB62ABFC40DDCC8824814F80A72", "c1"⟩,
        some 0⟩) := by decide +kernel
  have hends : ((run setup (offered ++ [answer])).step setup (.wake 1)).1 =
      some (.matched (.ok "ANSWER")) := by decide +kernel
  obtain ⟨-, -, hsubmit, -, -⟩ := polls_and_answers_paired setup mode offered
  obtain ⟨n, m, hsid, hn, -⟩ := hsubmit "s1" "ANSWER" hreached
  obtain ⟨-, -, -, -, hmatched⟩ := polls_and_answers_paired setup mode (offered ++ [answer])
  have hdelivered := hmatched (.wake 1) 1 _ "ANSWER" rfl hwaits hends
  exact ⟨mode, hreached, hends, hdelivered, n, m, hn, hsid⟩

end History

end RelayBroker
