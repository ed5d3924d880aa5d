/-
  RelayBroker.Proofs.Traffic.Attendance

  Who attends to a listed record when offers are parked. While its mailbox is open, the poll
  of the record waits; once the poll has ended with an offer, the match that made the offer
  waits. A record with nobody left to end its wait would stay listed for ever.

  Nothing but a match that runs out of time before the poll has picked up its offer can leave a
  listed record unattended. Such an expiry is untimely; every other change keeps all listed
  records attended (`Change.attended`), and so does a proxy that arrives, if its poll is
  started in the same piece (`Orderly.attended_arrived`). Where no call can go on, an attended
  record is either open and unused, or closed with one match that waits for its answer
  (`Attended.of_still`).
-/

import RelayBroker.Proofs.Traffic.Listing

namespace RelayBroker

/-! ## Tickets that wait -/

namespace Broker

section
variable {b : Broker}

theorem directed_setMailbox (h : ∀ k, (b.box k).Directed) (proxy : Proxy) {m : Mailbox}
    (hm : m.Directed) (k : Nat) : ((b.setMailbox proxy m).box k).Directed := by
  rw [box_setMailbox]
  split
  · exact hm
  · exact h k

theorem directed_endPoll (h : ∀ k, (b.box k).Directed) (proxy : Proxy) (polled : Option Offer)
    (k : Nat) : ((b.endPoll proxy polled).2.box k).Directed := by
  rw [box_endPoll]
  split
  · exact h proxy.poll
  · exact h k

theorem directed_of_takeOffer {b' : Broker} {proxy : Proxy} {offer : Option Offer}
    (h : ∀ k, (b.box k).Directed) (taken : b.takeOffer proxy = (offer, b')) (k : Nat) :
    (b'.box k).Directed := by
  obtain rfl : (b.takeOffer proxy).2 = b' := congrArg Prod.snd taken
  have htaken : (b.mailbox proxy).take.2.Directed := h proxy.poll
  exact directed_setMailbox h proxy htaken k

end

end Broker

/-- A current record is in the pool of its class, and only there, while its mailbox is open; then
it is in neither. -/
theorem Broker.Agrees.holds_iff {b : Broker} {records : List Proxy} {p : Proxy}
    (h : b.Agrees records) (hcur : b.directory.host? p.addr = some p) :
    (b.pools.unrestricted.Holds p ↔
      (b.mailbox p).closed = false ∧ p.nat = .unrestricted) ∧
    (b.pools.restricted.Holds p ↔
      (b.mailbox p).closed = false ∧ p.nat ≠ .unrestricted) := by
  have hu := Pools.holds_ofClass_iff h.sorted .unrestricted p
  have hr := Pools.holds_ofClass_iff h.sorted .restricted p
  have hpooled : b.pools.proxy? p.addr = some p ↔ (b.mailbox p).closed = false := by
    rw [h.pooled, hcur, Option.filter_eq_some_iff, and_iff_right rfl]
    simp [isOpen]
  simp only [Pools.ofClass, true_iff, reduceCtorEq, false_iff, hpooled] at hu hr
  exact ⟨hu, hr⟩

namespace History

/-! ## Histories in order -/

/-- What holds of the mailboxes when offers are parked, however the calls are interleaved. -/
structure Orderly (s : History) : Prop where
  sound : s.Sound
  coherent : s.broker.directory.Coherent
  lives : ∀ k, s.Life k
  /-- No offer is parked without a ticket. -/
  ticketed : ∀ k, (s.broker.box k).tickets = [] → (s.broker.box k).parked = none
  /-- Nobody has posted to a poll that is yet to come. -/
  unposted : ∀ k, s.broker.nextPoll ≤ k → (s.broker.box k).tickets = []
  directed : ∀ k, (s.broker.box k).Directed

section
variable {setup : Setup} {s s' : History} {e : Event} {o : Option Outcome} {k : Nat}
  {offer : Option Offer} {text : Option String}

theorem orderly_start : start.Orderly where
  sound := sound_start
  coherent := Directory.coherent_empty
  lives _ := .unused rfl fun n m hw => by
    have hnone := sound_start.free n (Nat.zero_le n)
    rw [hw.1] at hnone
    cases hnone
  ticketed _ _ := rfl
  unposted _ _ := rfl
  directed _ := Mailbox.directed_empty

theorem Turn.tickets_ne_nil (ht : Turn s e s' k offer text)
    (h : (s.broker.box k).tickets ≠ []) : (s'.broker.box k).tickets ≠ [] := by
  rw [← List.length_pos_iff] at h ⊢
  have hlength := ht.length_tickets
  omega

theorem Turn.ticketed (ht : Turn s e s' k offer text)
    (h : (s.broker.box k).tickets = [] → (s.broker.box k).parked = none)
    (hnil : (s'.broker.box k).tickets = []) : (s'.broker.box k).parked = none := by
  have hbefore : (s.broker.box k).tickets = [] := by
    by_contra hne
    exact ht.tickets_ne_nil hne hnil
  cases ht with
  | kept box | answered _ box | collected _ _ _ _ box | left _ _ _ box =>
    rw [box]
    exact h hbefore
  | ended box => rw [box]
  | posted n m room ticket box => simp [box] at hnil

/-- An offer is posted to a poll that was entered. -/
theorem Turn.unposted (ht : Turn s e s' k offer text) (sound : s'.Sound)
    (hk : s'.broker.nextPoll ≤ k) (h : (s.broker.box k).tickets = []) :
    (s'.broker.box k).tickets = [] := by
  cases ht with
  | kept box | ended box => simpa [box] using h
  | answered _ box | collected _ _ _ _ box | left _ _ _ box => simpa [box] using h
  | posted n m room ticket box waits =>
    obtain ⟨hcall, hpoll⟩ := (waits n m).mpr (.inl ⟨rfl, rfl⟩)
    have hlt := sound.order.agrees.lt_nextPoll (sound.known hcall)
    omega

theorem Change.nextPoll_le (hc : Change setup s e o s') (h : s.Sound) :
    s.broker.nextPoll ≤ s'.broker.nextPoll := by
  rw [← h.order.agrees.polls, ← (h.change hc).order.agrees.polls]
  exact hc.records.length_le

/-- Every change leaves answers to go where they are waited for. -/
theorem Change.directed (hc : Change setup s e o s') (h : ∀ k, (s.broker.box k).Directed) :
    ∀ k, (s'.broker.box k).Directed := by
  have hsame {b : Broker} (heq : b.box = s.broker.box) (k : Nat) : (b.box k).Directed := by
    rw [heq]
    exact h k
  cases hc with
  | idle | unknown | registered | refused | awaited | noticed | rescaledNothing | settled => exact h
  | denied checked borrowed =>
    have hbox := Broker.box_of_borrow borrowed
    exact hsame hbox
  | pushed checked borrowed mode => exact hsame (Broker.box_of_borrow borrowed)
  | parked checked borrowed mode posted =>
    have hborrowed := hsame (Broker.box_of_borrow borrowed)
    exact Broker.directed_setMailbox hborrowed _ ((hborrowed _).post posted)
  | bounced checked borrowed mode posted =>
    exact hsame ((Broker.box_concludeMatch ..).trans (Broker.box_of_borrow borrowed))
  | polledAtOnce entered taken =>
    exact Broker.directed_endPoll (Broker.directed_of_takeOffer h taken) _ _
  | polled glances waits taken =>
    exact Broker.directed_endPoll (Broker.directed_of_takeOffer h taken) _ _
  | pollExpired waits nothing => exact Broker.directed_endPoll h _ _
  | answered sid answer =>
    simp only [broker_setBroker, Broker.submitAnswer]
    split
    · exact h
    · next proxy _ =>
      exact Broker.directed_setMailbox h _ (Mailbox.Directed.answer (h proxy.poll) answer)
  | rescaled relocated =>
    exact hsame ((Broker.box_concludeRescale ..).trans (Broker.box_of_relocate relocated))
  | moving relocated moved => exact hsame (Broker.box_of_relocate relocated)
  | replied waits pushed => exact hsame (Broker.box_concludeMatch ..)
  | @collected call _ m ticket answer box glances waits parked found =>
    obtain ⟨-, rfl⟩ := Mailbox.eq_of_check found
    intro k
    rw [broker_endCall, broker_setBroker, Broker.box_concludeMatch]
    exact Broker.directed_setMailbox h _ (Mailbox.Directed.settle (h m.proxy.poll) (by simp)) k
  | @expired call m waits silent =>
    intro k
    rw [broker_endCall, broker_setBroker, Broker.box_concludeMatch, abandoned]
    split
    · exact Broker.directed_setMailbox h _ (Mailbox.Directed.settle (h m.proxy.poll) (by simp)) k
    · exact h k
  | settledLast waits sent last => exact hsame (Broker.box_concludeRescale ..)

theorem Orderly.turn (mode : setup.settings.mode = .mailbox) (h : s.Orderly)
    (hc : Change setup s e o s') (k : Nat) :
    Turn s e s' k (at? k (s.posted? setup e)) (at? k (s.delivered? e)) :=
  hc.turn mode h.sound (ticket_of_lives h.lives) k

theorem Orderly.change (mode : setup.settings.mode = .mailbox) (h : s.Orderly)
    (hc : Change setup s e o s') : s'.Orderly where
  sound := h.sound.change hc
  coherent := hc.coherent h.coherent
  lives k := (h.lives k).turn (h.turn mode hc k)
  ticketed k := (h.turn mode hc k).ticketed (h.ticketed k)
  unposted k hk :=
    (h.turn mode hc k).unposted (h.sound.change hc) hk
      (h.unposted k (Nat.le_trans (hc.nextPoll_le h.sound) hk))
  directed := hc.directed h.directed

end

/-! ## Calls that go on -/

section
variable {setup : Setup} {s s' : History} {e : Event} {o : Option Outcome} {p proxy : Proxy}

theorem Change.nextCall_le (hc : Change setup s e o s') :
    s.traffic.nextCall ≤ s'.traffic.nextCall := by
  cases hc <;> first | exact Nat.le_refl _ | exact Nat.le_succ _

/-- A match under a number that was taken before has waited before. -/
theorem Change.matching_before (hc : Change setup s e o s') {n : Nat} {m : Matching}
    (hlt : n < s.traffic.nextCall) (hn : s'.call? n = some (.matching m)) :
    s.call? n = some (.matching m) := by
  rcases hc.matching_of_after hn with hbefore | ⟨request, rfl, -⟩
  · exact hbefore
  · cases hc with
    | idle goesOn => cases goesOn
    | polled glances => cases glances
    | collected glances => cases glances
    | refused | denied | bounced => exact hn
    | pushed | parked => exact (call?_wait_of_lt (s := s.setBroker _) hlt _).symm.trans hn

/-- A poll that ends closes its own mailbox and no other. -/
theorem poll_cases_endPoll {b : Broker} {polled : Option Offer} (h : s.Sound) (hp : p ∈ s.records)
    (hproxy : proxy ∈ s.records) (polls : s.polling? e = some proxy)
    (hother : ∀ k, k ≠ proxy.poll → b.box k = s.broker.box k) :
    (s.polling? e = some p ∧ ((b.endPoll proxy polled).2.mailbox p).closed = true) ∨
      proxy ≠ p ∧ ((b.endPoll proxy polled).2.mailbox p).closed =
        (s.broker.mailbox p).closed := by
  have hbox := Broker.box_endPoll b proxy polled p.poll
  by_cases hpoll : p.poll = proxy.poll
  · obtain rfl := h.order.agrees.eq_of_poll hp hproxy hpoll
    rw [if_pos rfl] at hbox
    exact .inl ⟨polls, congrArg Mailbox.closed hbox⟩
  · rw [if_neg hpoll, hother p.poll hpoll] at hbox
    exact .inr ⟨fun heq => hpoll (by rw [heq]), congrArg Mailbox.closed hbox⟩

theorem box_of_takeOffer {b : Broker} {offer : Option Offer}
    (taken : s.broker.takeOffer proxy = (offer, b)) (k : Nat) (hk : k ≠ proxy.poll) :
    b.box k = s.broker.box k := by
  obtain rfl : (s.broker.takeOffer proxy).2 = b := congrArg Prod.snd taken
  exact (Broker.box_setMailbox ..).trans (if_neg hk)

/-- A poll of a record waits on, and its mailbox stays as open as it was, unless the step ends
a poll of the record and closes the mailbox. -/
theorem Change.poll_cases (hc : Change setup s e o s') (h : s.Sound) (hp : p ∈ s.records)
    (noAwait : ∀ k, e ≠ .await k) :
    (s.polling? e = some p ∧ (∃ offer, o = some (.polled offer)) ∧
      (s'.broker.mailbox p).closed = true) ∨
    ((s'.broker.mailbox p).closed = (s.broker.mailbox p).closed ∧
      ∀ n, s'.call? n = some (.polling p) ↔ s.call? n = some (.polling p)) := by
  -- Where no poll ends, the mailbox is compared as a whole.
  have hbox {b : Broker} (heq : b.box = s.broker.box) :
      (b.mailbox p).closed = (s.broker.mailbox p).closed :=
    congrArg Mailbox.closed (congrFun heq p.poll)
  have hwait {b : Broker} (order : b.InOrder s.records) {c : Call} (hne : c ≠ .polling p) :=
    call?_wait_of_ne (h.setBroker order) hne
  cases hc with
  | idle | registered | refused | noticed | rescaledNothing => exact .inr ⟨rfl, fun _ => Iff.rfl⟩
  | unknown | awaited | polledAtOnce => exact absurd rfl (noAwait _)
  | denied checked borrowed =>
    have hopen := Broker.box_of_borrow borrowed
    exact .inr ⟨hbox hopen, fun _ => Iff.rfl⟩
  | pushed checked borrowed mode =>
    exact .inr ⟨hbox (Broker.box_of_borrow borrowed), hwait (h.order.borrow borrowed) (by simp)⟩
  | parked checked borrowed mode posted =>
    have hclosed := Mailbox.closed_post posted
    have hopen := (Broker.closed_setMailbox hclosed p).trans (hbox (Broker.box_of_borrow borrowed))
    exact .inr ⟨hopen, hwait ((h.order.borrow borrowed).setMailbox hclosed) (by simp)⟩
  | bounced checked borrowed mode posted =>
    refine .inr ⟨hbox ?_, fun _ => Iff.rfl⟩
    exact (Broker.box_concludeMatch ..).trans (Broker.box_of_borrow borrowed)
  | polled glances waits taken =>
    rcases poll_cases_endPoll h hp (h.known waits) (polling?_of_glances glances waits)
      (box_of_takeOffer taken) with ⟨hpolls, hclosed⟩ | ⟨hne, hopen⟩
    · exact .inl ⟨hpolls, ⟨_, rfl⟩, hclosed⟩
    · refine .inr ⟨hopen, call?_endCall_of_ne (s := s.setBroker _) waits ?_⟩
      simpa using hne
  | pollExpired waits nothing =>
    rcases poll_cases_endPoll h hp (h.known waits) (polling?_of_glances .expire waits)
      (fun _ _ => rfl) with ⟨hpolls, hclosed⟩ | ⟨hne, hopen⟩
    · exact .inl ⟨hpolls, ⟨_, rfl⟩, hclosed⟩
    · refine .inr ⟨hopen, call?_endCall_of_ne (s := s.setBroker _) waits ?_⟩
      simpa using hne
  | answered sid answer =>
    refine .inr ⟨?_, fun _ => Iff.rfl⟩
    simp only [broker_setBroker, Broker.submitAnswer]
    split
    · rfl
    · exact Broker.closed_setMailbox (Mailbox.closed_answer ..) p
  | rescaled relocated =>
    refine .inr ⟨hbox ?_, fun _ => Iff.rfl⟩
    exact (Broker.box_concludeRescale ..).trans (Broker.box_of_relocate relocated)
  | moving relocated moved =>
    have hopen := hbox (Broker.box_of_relocate relocated)
    exact .inr ⟨hopen, hwait (h.order.relocate relocated) (by simp)⟩
  | replied waits pushed =>
    exact .inr ⟨hbox (Broker.box_concludeMatch ..),
      call?_endCall_of_ne (s := s.setBroker _) waits (by simp)⟩
  | collected glances waits parked found =>
    have hopen := Broker.closed_setMailbox (Mailbox.closed_check found) p
    refine .inr ⟨?_, call?_endCall_of_ne (s := s.setBroker _) waits (by simp)⟩
    rw [← hopen]
    exact congrArg Mailbox.closed (congrFun (Broker.box_concludeMatch ..) p.poll)
  | @expired call m waits silent =>
    refine .inr ⟨?_, call?_endCall_of_ne (s := s.setBroker _) waits (by simp)⟩
    rw [← closed_abandoned s.broker m p]
    exact congrArg Mailbox.closed (congrFun (Broker.box_concludeMatch ..) p.poll)
  | settled waits sent others =>
    exact .inr ⟨rfl, call?_setCall_of_ne (s := s.setBroker _) waits (by simp) (by simp)⟩
  | settledLast waits sent last =>
    exact .inr ⟨hbox (Broker.box_concludeRescale ..),
      call?_endCall_of_ne (s := s.setBroker _) waits (by simp)⟩

/-- A match on a ticket goes on waiting, or ends; as long as its host is in the directory, it
ends without an answer only because its time is up. -/
theorem Change.match_cases (hc : Change setup s e o s') (h : s.Sound) {n : Nat} {m : Matching}
    (hn : s.call? n = some (.matching m)) (onTicket : m.ticket ≠ none)
    (placed : (s.broker.directory.host? m.proxy.addr).isSome) :
    s'.call? n = some (.matching m) ∨
      (s.matching? setup e = some m.proxy ∧ ∃ r, o = some (.matched r) ∧
        ((∃ answer, r = .ok answer) ∨ e = .expire n)) := by
  have hwait {b : Broker} (order : b.InOrder s.records) (c : Call) :
      ((s.setBroker b).wait c).call? n = some (.matching m) := by
    have hlt : n ≠ s.traffic.nextCall := by
      rintro rfl
      rw [h.free _ (Nat.le_refl _)] at hn
      cases hn
    exact (call?_wait (s.setBroker b) c n).trans ((if_neg hlt).trans hn)
  have hend {b : Broker} {call : Nat} {c : Call} (waits : s.call? call = some c)
      (hne : c ≠ .matching m) : ((s.setBroker b).endCall call).call? n = some (.matching m) :=
    (call?_endCall_of_ne (s := s.setBroker b) waits hne n).mpr hn
  cases hc with
  | idle | unknown | registered | refused | denied | bounced | polledAtOnce | answered | noticed
  | rescaledNothing | rescaled => exact .inl hn
  | pushed checked borrowed mode => exact .inl (hwait (h.order.borrow borrowed) _)
  | parked checked borrowed mode posted =>
    exact .inl (hwait ((h.order.borrow borrowed).setMailbox (Mailbox.closed_post posted)) _)
  | awaited entered => exact .inl (hwait h.order _)
  | moving relocated moved => exact .inl (hwait (h.order.relocate relocated) _)
  | polled glances waits taken => exact .inl (hend waits nofun)
  | pollExpired waits nothing => exact .inl (hend waits nofun)
  | settledLast waits sent last => exact .inl (hend waits nofun)
  | settled waits sent others =>
    left
    refine (call?_setCall_of_ne (s := s.setBroker _) waits ?_ ?_ n).mpr hn <;> nofun
  | @replied call m' r waits pushed =>
    refine .inl (hend waits ?_)
    rintro ⟨⟩
    exact onTicket pushed
  | @collected call e m' ticket answer box glances waits parked found =>
    by_cases hm : m' = m
    · subst hm
      refine .inr ⟨matching?_of_glances glances waits, _, rfl, .inl ⟨answer, ?_⟩⟩
      rw [Broker.concludeMatch_answered]
      exact if_pos placed
    · exact .inl (hend waits (by simpa using hm))
  | @expired call m' waits silent =>
    by_cases hcall : call = n
    · subst hcall
      obtain rfl : m' = m := by simpa using waits.symm.trans hn
      exact .inr ⟨matching?_of_glances .expire waits, _, rfl, .inr rfl⟩
    · left
      refine (call?_endCall (s.setBroker _) call n).trans ?_
      rw [if_neg (Ne.symm hcall)]
      exact hn

end

/-! ## Attended records -/

/-- There is somebody left to end the wait of a listed record. -/
structure Attended (s : History) (p : Proxy) : Prop where
  /-- While the mailbox is open, the record is polled, once. -/
  polled : (s.broker.mailbox p).closed = false →
    ∃ n, ∀ n', s.call? n' = some (.polling p) ↔ n' = n
  /-- The poll has not ended without an offer. -/
  offered : (s.broker.mailbox p).closed = true → (s.broker.mailbox p).tickets ≠ []
  /-- The match that made the offer has not ended. -/
  live : ∀ ticket ∈ (s.broker.mailbox p).tickets, ticket.live = true

/-- Each listed record is attended. -/
def AllAttended (s : History) : Prop :=
  ∀ p, s.broker.directory.Lists p → s.Attended p

/-- The time of a match on a listed record is up before its poll has ended. -/
inductive Untimely (s : History) : Event → Prop
  | expires {n m} (waits : s.call? n = some (.matching m))
      (listed : s.broker.directory.Lists m.proxy)
      (opened : (s.broker.mailbox m.proxy).closed = false) : Untimely s (.expire n)

section
variable {setup : Setup} {s s' : History} {e : Event} {o : Option Outcome} {p : Proxy} {k : Nat}
  {offer : Option Offer} {text : Option String}

theorem Orderly.mem_of_listed (h : s.Orderly) (hlists : s.broker.directory.Lists p) :
    p ∈ s.records :=
  (h.sound.order.agrees.current (h.coherent.current hlists)).2

/-- If all tickets were live, and one no longer is, then a match has ended. -/
theorem Turn.live_or_left (ht : Turn s e s' k offer text)
    (live : ∀ ticket ∈ (s.broker.box k).tickets, ticket.live = true) :
    (∀ ticket ∈ (s'.broker.box k).tickets, ticket.live = true) ∨
      ∃ n m, s.Waits k n m ∧ ¬ s'.Waits k n m := by
  cases ht with
  | kept box | ended box =>
    rw [box]
    exact .inl live
  | posted n m room ticket box =>
    left
    rw [box]
    simp only [List.mem_append, List.mem_singleton]
    rintro ticket (hbefore | rfl)
    · exact live ticket hbefore
    · rfl
  | answered waiting box =>
    left
    rw [box]
    intro ticket hticket
    rcases List.mem_or_eq_of_mem_set hticket with hbefore | rfl
    · exact live ticket hbefore
    · rfl
  | collected _ waited _ _ _ waits | left waited _ _ _ waits =>
    exact .inr ⟨_, _, waited, fun hafter => ((waits _ _).mp hafter).1 rfl⟩

theorem Turn.closed_of_closed (ht : Turn s e s' k offer text)
    (hclosed : (s.broker.box k).closed = true) : (s'.broker.box k).closed = true := by
  cases ht with
  | kept box | answered _ box | collected _ _ _ _ box | left _ _ _ box =>
    rw [box]
    exact hclosed
  | ended box => rw [box]
  | posted _ _ _ _ box =>
    rw [box]
    exact hclosed

/-- A match on a record that stays listed does not end, but by an untimely expiry. -/
theorem Orderly.waits_on (h : s.Orderly) (hc : Change setup s e o s') (timely : ¬ s.Untimely e)
    (hlists : s.broker.directory.Lists p) (hends : ¬ EndsWait setup s p e o) {n : Nat}
    {m : Matching} (hw : s.Waits p.poll n m) : s'.Waits p.poll n m := by
  obtain ⟨hn, hpoll⟩ := hw
  obtain rfl : m.proxy = p :=
    h.sound.order.agrees.eq_of_poll (h.sound.known hn) (h.mem_of_listed hlists) hpoll
  have placed : (s.broker.directory.host? m.proxy.addr).isSome := by
    rw [h.coherent.current hlists]
    rfl
  rcases hc.match_cases h.sound hn (ticket_of_lives h.lives n m hn) placed with
    hafter | ⟨borrowed, r, rfl, hr⟩
  · exact ⟨hafter, rfl⟩
  · -- With an answer the record would leave the list, and so it would after its poll.
    exfalso
    rw [endsWait_matched_iff borrowed, not_and, not_or] at hends
    obtain ⟨hanswer, hopen⟩ := hends rfl
    obtain rfl := hr.resolve_left hanswer
    exact timely (.expires hn hlists (by simpa using hopen))

/-- A change keeps all listed records attended, unless a match expires untimely. -/
theorem Change.attended (mode : setup.settings.mode = .mailbox) (h : s.Orderly)
    (hc : Change setup s e o s') (noArrival : ∀ poll, e ≠ .register poll)
    (noAwait : ∀ k, e ≠ .await k) (timely : ¬ s.Untimely e) (all : s.AllAttended) :
    s'.AllAttended := by
  intro p hlists'
  have hp : p ∈ s.records := by
    have hcur := (h.change mode hc).coherent.current hlists'
    rcases hc.host?_of_after hcur with hbefore | ⟨poll, hpoll, -⟩
    · exact (h.sound.order.agrees.current hbefore).2
    · exact absurd hpoll (noArrival poll)
  obtain ⟨hlists, hends, -⟩ := (hc.lists_iff h.sound h.coherent hp).mp hlists'
  have hatt := all p hlists
  have ht := h.turn mode hc p.poll
  have hlive : ∀ ticket ∈ (s'.broker.mailbox p).tickets, ticket.live = true := by
    rcases ht.live_or_left hatt.live with hlive | ⟨n, m, hw, hgone⟩
    · exact hlive
    · exact absurd (h.waits_on hc timely hlists hends hw) hgone
  rcases hc.poll_cases h.sound hp noAwait with ⟨polls, ⟨offer, rfl⟩, hclosed⟩ | ⟨hclosed, hcalls⟩
  · -- The poll has ended, and since the record is still listed, it has ended with an offer.
    refine ⟨fun hopen => (by rw [hclosed] at hopen; cases hopen), fun _ => ?_, hlive⟩
    cases offer with
    | none => exact absurd ((endsWait_polled_iff polls none).mpr ⟨rfl, rfl⟩) hends
    | some offer =>
      have hparked := hc.parked_of_polled polls rfl
      refine ht.tickets_ne_nil fun hnil => ?_
      rw [← Broker.box_poll, h.ticketed _ hnil] at hparked
      cases hparked
  · refine ⟨fun hopen => ?_, fun hshut => ?_, hlive⟩
    · obtain ⟨n, honly⟩ := hatt.polled (hclosed.symm.trans hopen)
      exact ⟨n, fun n' => (hcalls n').trans (honly n')⟩
    · exact ht.tickets_ne_nil (hatt.offered (hclosed.symm.trans hshut))

end

/-! ## Arrivals -/

/-- A proxy polls: its record is entered, and awaited in the same piece. -/
def arrive (s : History) (poll : Broker.Announcement) : History :=
  History.wait ⟨(s.traffic.register poll).2, s.records ++ [(s.traffic.register poll).1]⟩
    (.polling (s.traffic.register poll).1)

section
variable {setup : Setup} {s : History} {p : Proxy}

/-- To arrive is to be entered, and then to be awaited. -/
theorem arrive_changes (setup : Setup) (s : History) (poll : Broker.Announcement) :
    ∃ s₁, Change setup s (.register poll) none s₁ ∧
      Change setup s₁ (.await s.records.length) none (s.arrive poll) :=
  ⟨_, .registered poll, .awaited List.getElem?_concat_length⟩

theorem Orderly.arrive (mode : setup.settings.mode = .mailbox) (h : s.Orderly)
    (poll : Broker.Announcement) : (s.arrive poll).Orderly := by
  obtain ⟨s₁, hentered, hawaited⟩ := arrive_changes setup s poll
  exact (h.change mode hentered).change mode hawaited

/-- Nothing is parked for a poll that is yet to come. -/
theorem Orderly.startPoll_arrived (h : s.Orderly) (poll : Broker.Announcement) :
    (s.traffic.register poll).2.startPoll (s.traffic.register poll).1 =
      (s.traffic.register poll).2.wait (.polling (s.traffic.register poll).1) := by
  have hnone : (s.broker.box s.broker.nextPoll).parked = none :=
    h.ticketed _ (h.unposted _ (Nat.le_refl _))
  have htake : ((s.traffic.register poll).2.broker.takeOffer (s.traffic.register poll).1).1 =
      none := hnone
  rw [Traffic.startPoll]
  split
  · split
    · next offer b heq =>
      rw [heq] at htake
      cases htake
    · rfl
  · rfl

/-- A record that was listed before a proxy arrives is listed among others. -/
theorem Orderly.lists_of_arrive (h : s.Orderly) {poll : Broker.Announcement} (hp : p ∈ s.records)
    (hlists : (s.arrive poll).broker.directory.Lists p) : s.broker.directory.Lists p := by
  have hentered : Change ⟨Settings.standard, Catalog.builtin⟩ s (.register poll) none _ :=
    .registered poll
  exact ((hentered.lists_iff h.sound h.coherent hp).mp hlists).1

/-- All listed records are attended when a proxy has arrived. -/
theorem Orderly.attended_arrived (mode : setup.settings.mode = .mailbox) (h : s.Orderly)
    (all : s.AllAttended) (poll : Broker.Announcement) : (s.arrive poll).AllAttended := by
  intro p hlists
  have hentered : Change setup s (.register poll) none _ := .registered poll
  have hnext : (s.traffic.register poll).1.poll = s.broker.nextPoll := rfl
  rcases List.mem_append.mp ((h.arrive mode poll).mem_of_listed hlists) with hp | hp
  · -- The poll of another record goes on as before.
    have hatt := all p (h.lists_of_arrive hp hlists)
    have hne : Call.polling (s.traffic.register poll).1 ≠ .polling p := by
      intro heq
      have hlt := h.sound.order.agrees.lt_nextPoll hp
      rw [← Call.polling.inj heq, hnext] at hlt
      exact Nat.lt_irrefl _ hlt
    refine ⟨fun hopen => ?_, hatt.offered, hatt.live⟩
    obtain ⟨n, honly⟩ := hatt.polled hopen
    exact ⟨n, fun n' => (call?_wait_of_ne (h.sound.change hentered) hne n').trans (honly n')⟩
  · -- Nobody has posted to the new mailbox, and nobody else polls for it.
    obtain rfl := List.mem_singleton.mp hp
    have hopen : s.broker.isOpen (s.traffic.register poll).1 = true :=
      h.sound.order.agrees.fresh _ (Nat.le_refl _)
    have hnil : (s.broker.box s.broker.nextPoll).tickets = [] := h.unposted _ (Nat.le_refl _)
    refine ⟨fun _ => ⟨s.traffic.nextCall, fun n' => ?_⟩, fun hclosed => ?_, fun ticket ht => ?_⟩
    · refine (iff_of_eq (congrArg (· = _) (call?_wait ..))).trans ?_
      split
      · next hn => exact iff_of_true rfl hn
      · next hn =>
        refine iff_of_false (fun hcall => ?_) hn
        have hlt := h.sound.order.agrees.lt_nextPoll (h.sound.known (s := s) hcall)
        exact Nat.lt_irrefl _ hlt
    · have hclosed : (s.broker.mailbox (s.traffic.register poll).1).closed = true := hclosed
      simp [Broker.isOpen, hclosed] at hopen
    · have ht : ticket ∈ (s.broker.box s.broker.nextPoll).tickets := ht
      rw [hnil] at ht
      cases ht

end

/-! ## Standstill -/

/-- No call can go on. -/
def Still (s : History) : Prop :=
  ∀ n, (s.traffic.wake n).1 = none

section
variable {s : History} {p : Proxy}

/-- The only poll of a record has its turn. -/
theorem isNext_of_only (h : s.Sound) (hp : p ∈ s.records) {n : Nat}
    (only : ∀ n', s.call? n' = some (.polling p) ↔ n' = n) : s.traffic.isNext n p = true := by
  refine List.all_eq_true.mpr ?_
  rintro ⟨n', call⟩ hmem
  have hcall : s.call? n' = some call := Table.get?_eq_some_iff.mpr hmem
  cases call with
  | matching m => rfl
  | moving m => rfl
  | polling q =>
    by_cases hpoll : q.poll = p.poll
    · obtain rfl := h.order.agrees.eq_of_poll (h.known hcall) hp hpoll
      simp [(only n').mp hcall]
    · simp [hpoll]

/-- An attended record that stands still is open, and then nobody has made it an offer; or it is
closed, and then one match waits for its answer. -/
theorem Attended.of_still (h : s.Orderly) (hp : p ∈ s.records) (hatt : s.Attended p)
    (still : s.Still) :
    ((s.broker.mailbox p).closed = false ∧ (s.broker.mailbox p).parked = none ∧
      ∃ n, ∀ n', s.call? n' = some (.polling p) ↔ n' = n) ∨
    ((s.broker.mailbox p).closed = true ∧
      ∃ n m, s.call? n = some (.matching m) ∧ m.proxy = p ∧ m.ticket = some 0 ∧
        (s.broker.mailbox p).slot = some 0 ∧ (s.broker.mailbox p).awaitsAnswer = true ∧
        ∀ n' m', s.call? n' = some (.matching m') → m'.proxy = p → n' = n) := by
  cases hclosed : (s.broker.mailbox p).closed with
  | false =>
    obtain ⟨n, honly⟩ := hatt.polled hclosed
    have hnext := isNext_of_only h.sound hp honly
    have hnothing := nothing_of_wake s ((honly n).mpr rfl) hnext (still n)
    exact .inl ⟨rfl, hnothing, n, honly⟩
  | true =>
    refine .inr ⟨rfl, ?_⟩
    cases h.lives p.poll with
    | unused tickets => exact absurd tickets (hatt.offered hclosed)
    | concluded ticket tickets full dead =>
      have hlive := hatt.live ticket (by rw [← Broker.box_poll, tickets]; exact .head _)
      rw [dead] at hlive
      cases hlive
    | held n m ticket tickets full live holds only =>
      obtain ⟨hn, hpoll⟩ := (only n m).mpr ⟨rfl, rfl⟩
      obtain rfl := h.sound.order.agrees.eq_of_poll (h.sound.known hn) hp hpoll
      have hwaiting : ticket = .waiting := by
        cases ticket with
        | waiting => rfl
        | answered text =>
          -- The match would have taken its answer.
          have hfound := Mailbox.check_of_answered (congrArg (·[0]?) tickets)
          exact absurd (congrArg Prod.fst hfound) (silent_of_wake s hn (still n) 0 text holds)
        | spent | abandoned => cases live
      subst hwaiting
      have hticket : (s.broker.mailbox m.proxy).tickets[0]? = some .waiting :=
        congrArg (·[0]?) tickets
      have hslot := h.directed m.proxy.poll 0 hticket
      have hawaits : (s.broker.mailbox m.proxy).awaitsAnswer = true := by
        rw [Broker.box_poll] at hslot
        simp [Mailbox.awaitsAnswer, hslot, hticket]
      refine ⟨n, m, hn, rfl, holds, hslot, hawaits, fun n' m' hn' hproxy => ?_⟩
      exact ((only n' m').mp ⟨hn', by rw [hproxy]⟩).1

/-- Where no call can go on, no match waits on a listed record whose mailbox is open. -/
theorem Attended.closed_of_waits (h : s.Orderly) (hatt : s.Attended p) (hp : p ∈ s.records)
    (still : s.Still) {n : Nat} {m : Matching} (hn : s.call? n = some (.matching m))
    (hproxy : m.proxy = p) : (s.broker.mailbox p).closed = true := by
  rcases hatt.of_still h hp still with ⟨-, hparked, -⟩ | ⟨hclosed, -⟩
  · -- The offer of the match is parked still, or its poll has ended.
    obtain ⟨-, -, hfull, -⟩ := (h.lives p.poll).of_waits ⟨hn, by rw [hproxy]⟩
    rcases hfull with hsome | hclosed
    · rw [Broker.box_poll, hparked] at hsome
      cases hsome
    · exact hclosed
  · exact hclosed

end

end History

end RelayBroker
