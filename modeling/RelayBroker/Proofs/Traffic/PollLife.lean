/-
  RelayBroker.Proofs.Traffic.PollLife

  The life of a poll when offers are parked. Its mailbox is unused until a match parks an
  offer there; from then on the match waits on the only ticket that the mailbox ever
  gives, and when the match ends the mailbox is of no more use. Nobody else can park an
  offer: the first one is parked still, or the poll has picked it up and has closed the
  mailbox in the same piece.

  What a step can do to a mailbox, and to the matches that wait on it, is said once, by
  `Turn`; each turn keeps the life of the poll (`Life.turn`), so every run has it
  (`run_life`).
-/

import RelayBroker.Proofs.Traffic.Succession

namespace RelayBroker

/-! ## Mailboxes -/

namespace Broker

/-- The mailbox of a poll. -/
def box (b : Broker) (k : Nat) : Mailbox :=
  (b.mailboxes.get? k).getD Mailbox.empty

theorem box_poll (b : Broker) (proxy : Proxy) : b.box proxy.poll = b.mailbox proxy := rfl

theorem box_setMailbox (b : Broker) (proxy : Proxy) (m : Mailbox) (k : Nat) :
    (b.setMailbox proxy m).box k = if k = proxy.poll then m else b.box k := by
  simp only [box, setMailbox, Table.get?_insert]
  split <;> rfl

/-! Matches and rescales leave the mailboxes as they are. -/

theorem box_of_borrow {b b' : Broker} {nat : NatClass} {proxy : Option Proxy}
    (hb : b.borrow nat = (proxy, b')) : b'.box = b.box := by
  obtain rfl : (b.borrow nat).2 = b' := congrArg Prod.snd hb
  rfl

theorem box_giveBack (b : Broker) (proxy : Proxy) : (b.giveBack proxy).box = b.box := by
  rw [giveBack]
  split
  · rfl
  · split <;> rfl

@[simp] theorem box_concludeMatch (b : Broker) (request : ClientRequest) (proxy : Proxy)
    (reply : Reply) : (b.concludeMatch request proxy reply).2.box = b.box := by
  cases reply with
  | answered answer =>
    simp only [concludeMatch, bindAnswered]
    cases b.directory.host? proxy.addr <;> rfl
  | failed e => exact box_giveBack b proxy
  | timedOut => exact box_giveBack b proxy

theorem box_concludeRescale (b : Broker) (retired : Nat) (migrations : List Migration)
    (stranded failed : Nat) :
    (b.concludeRescale retired migrations stranded failed).2.box = b.box := by
  rw [concludeRescale]
  split <;> rfl

theorem box_of_relocate {b b' : Broker} {retiring : List Address} {migrations : List Migration}
    {stranded : Nat} (hr : b.relocate retiring = (migrations, stranded, b')) : b'.box = b.box := by
  obtain rfl : (b.relocate retiring).2.2 = b' := by rw [hr]
  rw [relocate_eq]
  rfl

theorem box_endPoll (b : Broker) (proxy : Proxy) (polled : Option Offer) (k : Nat) :
    (b.endPoll proxy polled).2.box k = if k = proxy.poll
      then { b.mailbox proxy with parked := none, closed := true } else b.box k := by
  have hwithdraw (b : Broker) (gotOffer : Bool) : (b.withdraw proxy gotOffer).box = b.box := by
    rw [withdraw]
    split
    · split <;> rfl
    · rfl
  simp only [endPoll, hwithdraw]
  exact box_setMailbox ..

end Broker

namespace History

/-! ## Matches that wait on a poll -/

/-- A match waits, under a number, for the record of a poll. -/
def Waits (s : History) (k n : Nat) (m : Matching) : Prop :=
  s.call? n = some (.matching m) ∧ m.proxy.poll = k

section
variable {s : History} {k : Nat}

theorem Waits.unique {n : Nat} {m m' : Matching} (h : s.Waits k n m)
    (h' : s.call? n = some (.matching m')) : m = m' := by
  simpa using h.1.symm.trans h'

theorem waits_wait (h : s.Sound) (c : Call) (n : Nat) (m : Matching) :
    (s.wait c).Waits k n m ↔
      (n = s.traffic.nextCall ∧ c = .matching m ∧ m.proxy.poll = k) ∨ s.Waits k n m := by
  rw [Waits, call?_wait]
  by_cases hn : n = s.traffic.nextCall
  · -- The number is free, so nothing waited under it before.
    have hfree : ¬ s.Waits k n m := fun hw => by
      rw [hn, Waits, h.free _ (Nat.le_refl _)] at hw
      cases hw.1
    simp [hn, hn ▸ hfree]
  · simp [hn, Waits]

theorem waits_wait_matching (h : s.Sound) (m' : Matching) (n : Nat) (m : Matching) :
    (s.wait (.matching m')).Waits k n m ↔
      (m'.proxy.poll = k ∧ n = s.traffic.nextCall ∧ m = m') ∨ s.Waits k n m := by
  rw [waits_wait h]
  refine or_congr_left ?_
  constructor
  · rintro ⟨hn, heq, hk⟩
    cases heq
    exact ⟨hk, hn, rfl⟩
  · rintro ⟨hk, hn, rfl⟩
    exact ⟨hn, rfl, hk⟩

theorem waits_wait_other (h : s.Sound) {c : Call} (hc : ∀ m, c ≠ .matching m) (n : Nat)
    (m : Matching) : (s.wait c).Waits k n m ↔ s.Waits k n m := by
  rw [waits_wait h]
  simp [hc]

theorem waits_endCall (s : History) (call n : Nat) (m : Matching) :
    (s.endCall call).Waits k n m ↔ n ≠ call ∧ s.Waits k n m := by
  rw [Waits, call?_endCall]
  by_cases hn : n = call <;> simp [hn, Waits]

/-- A call that ends and does not wait on the poll leaves those that do. -/
theorem waits_endCall_of_not {call : Nat} (hno : ∀ m, ¬ s.Waits k call m) (n : Nat)
    (m : Matching) : (s.endCall call).Waits k n m ↔ s.Waits k n m := by
  rw [waits_endCall]
  refine ⟨And.right, fun h => ⟨?_, h⟩⟩
  rintro rfl
  exact hno m h

theorem waits_setCall_moving {call : Nat} {old new : Moving}
    (hold : s.call? call = some (.moving old)) (n : Nat) (m : Matching) :
    (s.setCall call (.moving new)).Waits k n m ↔ s.Waits k n m := by
  rw [Waits, call?_setCall]
  by_cases hn : n = call <;> simp [hn, Waits, hold]

end

/-! ## Offers that are posted, and answers that are delivered -/

/-- The offer that a match posts in a step, and the record that it has borrowed. -/
def posted? (setup : Setup) (s : History) : Event → Option (Proxy × Offer)
  | .startMatch request =>
    match s.broker.openMatch setup.catalog request with
    | (.ok (proxy, offer), b) =>
      match b.postOffer proxy offer with
      | (.ok _, _) => some (proxy, offer)
      | (.error _, _) => none
    | (.error _, _) => none
  | _ => none

/-- The answer that reaches somebody in a step, and the record that waits under the
session id. -/
def delivered? (s : History) : Event → Option (Proxy × String)
  | .submitAnswer sid answer =>
    if (s.broker.submitAnswer sid answer).1 then
      (s.broker.directory.session? sid).map fun proxy => (proxy, answer)
    else none
  | _ => none

/-- What concerns a poll. -/
def at? {α : Type} (k : Nat) (x : Option (Proxy × α)) : Option α :=
  (x.filter fun y => y.1.poll = k).map Prod.snd

@[simp] theorem at?_none {α : Type} (k : Nat) : at? k (none : Option (Proxy × α)) = none := rfl

theorem at?_some {α : Type} (k : Nat) (proxy : Proxy) (a : α) :
    at? k (some (proxy, a)) = if proxy.poll = k then some a else none := by
  by_cases hk : proxy.poll = k <;> simp [at?, Option.filter, hk]

theorem at?_eq_some_iff {α : Type} {k : Nat} {x : Option (Proxy × α)} {a : α} :
    at? k x = some a ↔ ∃ proxy, proxy.poll = k ∧ x = some (proxy, a) := by
  cases x with
  | none => simp
  | some y =>
    obtain ⟨proxy, a'⟩ := y
    rw [at?_some]
    by_cases hk : proxy.poll = k <;> simp [hk]

/-! ## What a step can do to a poll -/

/-- What an event can do to the mailbox of a poll and to the matches that wait on it, with
the offer that is posted there and the answer that is delivered there. -/
inductive Turn (s : History) (e : Event) (s' : History) (k : Nat) :
    Option Offer → Option String → Prop
  /-- At most an answer comes that reaches nobody. -/
  | kept {slot} (box : s'.broker.box k = { s.broker.box k with slot := slot })
      (waits : ∀ n m, s'.Waits k n m ↔ s.Waits k n m) : Turn s e s' k none none
  /-- The poll ends. -/
  | ended (box : s'.broker.box k = { s.broker.box k with parked := none, closed := true })
      (waits : ∀ n m, s'.Waits k n m ↔ s.Waits k n m) : Turn s e s' k none none
  | posted (n : Nat) (m : Matching) (room : ¬ (s.broker.box k).Full)
      (ticket : m.ticket = some (s.broker.box k).tickets.length)
      (box : s'.broker.box k = { s.broker.box k with
        parked := some m.offer
        slot := some (s.broker.box k).tickets.length
        tickets := (s.broker.box k).tickets ++ [.waiting] })
      (waits : ∀ n' m', s'.Waits k n' m' ↔ (n' = n ∧ m' = m) ∨ s.Waits k n' m') :
      Turn s e s' k (some m.offer) none
  | answered {i text} (waiting : (s.broker.box k).tickets[i]? = some .waiting)
      (box : s'.broker.box k = { s.broker.box k with
        slot := none, tickets := (s.broker.box k).tickets.set i (.answered text) })
      (waits : ∀ n m, s'.Waits k n m ↔ s.Waits k n m) : Turn s e s' k none (some text)
  /-- A match takes its answer. -/
  | collected {n m i text} (glances : Glances n e) (waited : s.Waits k n m)
      (ticket : m.ticket = some i)
      (found : (s.broker.box k).tickets[i]? = some (.answered text))
      (box : s'.broker.box k = { s.broker.box k with
        tickets := (s.broker.box k).tickets.set i .spent })
      (waits : ∀ n' m', s'.Waits k n' m' ↔ n' ≠ n ∧ s.Waits k n' m') : Turn s e s' k none none
  /-- A match waits no more, and there is no answer for it. -/
  | left {n m i} (waited : s.Waits k n m) (ticket : m.ticket = some i)
      (silent : ∀ text, (s.broker.box k).tickets[i]? ≠ some (.answered text))
      (box : s'.broker.box k = { s.broker.box k with
        tickets := (s.broker.box k).tickets.set i .abandoned })
      (waits : ∀ n' m', s'.Waits k n' m' ↔ n' ≠ n ∧ s.Waits k n' m') : Turn s e s' k none none

section
variable {setup : Setup} {s s' : History} {e : Event} {k : Nat}

theorem posted?_of_call {call : Nat} (goesOn : e.call? = some call) :
    s.posted? setup e = none := by
  cases e with
  | reply | settle | wake | expire => rfl
  | register | await | startMatch | submitAnswer | notify | rescale => cases goesOn

theorem delivered?_of_call {call : Nat} (goesOn : e.call? = some call) :
    s.delivered? e = none := by
  cases e with
  | reply | settle | wake | expire => rfl
  | register | await | startMatch | submitAnswer | notify | rescale => cases goesOn

theorem posted?_of_parked {request : ClientRequest} {bridge : Bridge} {proxy : Proxy} {b : Broker}
    {ticket : Nat} {box : Mailbox}
    (checked : Broker.checkRequest setup.catalog request = .ok bridge)
    (borrowed : s.broker.borrow request.nat = (some proxy, b))
    (posted : (b.mailbox proxy).post (offerOf request bridge) = .ok (ticket, box)) :
    s.posted? setup (.startMatch request) = some (proxy, offerOf request bridge) := by
  rw [offerOf] at posted
  simp only [posted?, Broker.openMatch, checked, borrowed, Broker.postOffer, posted, offerOf]

theorem posted?_of_bounced {request : ClientRequest} {bridge : Bridge} {proxy : Proxy}
    {b : Broker} {error : BrokerError}
    (checked : Broker.checkRequest setup.catalog request = .ok bridge)
    (borrowed : s.broker.borrow request.nat = (some proxy, b))
    (posted : (b.mailbox proxy).post (offerOf request bridge) = .error error) :
    s.posted? setup (.startMatch request) = none := by
  rw [offerOf] at posted
  simp only [posted?, Broker.openMatch, checked, borrowed, Broker.postOffer, posted]

/-! ### Turns by kind of change -/

theorem Turn.of_box (hbox : s'.broker.box k = s.broker.box k)
    (waits : ∀ n m, s'.Waits k n m ↔ s.Waits k n m) : Turn s e s' k none none :=
  have hslot : s'.broker.box k = { s.broker.box k with slot := (s.broker.box k).slot } := hbox
  .kept hslot waits

theorem Turn.of_same (hbox : s'.broker.box = s.broker.box)
    (waits : ∀ n m, s'.Waits k n m ↔ s.Waits k n m) : Turn s e s' k none none :=
  .of_box (congrFun hbox k) waits

/-- The poll of a record ends; the call that waited for it, if any, is no match. -/
theorem Turn.of_endPoll {b : Broker} {proxy : Proxy} (polled : Option Offer)
    (hbox : ∀ k, s'.broker.box k = (b.endPoll proxy polled).2.box k)
    (hother : ∀ k, k ≠ proxy.poll → b.box k = s.broker.box k)
    (hhere : { b.box proxy.poll with parked := none, closed := true } =
      { s.broker.box proxy.poll with parked := none, closed := true })
    (waits : ∀ n m, s'.Waits k n m ↔ s.Waits k n m) : Turn s e s' k none none := by
  by_cases hk : k = proxy.poll
  · subst hk
    refine .ended ?_ waits
    rw [hbox, Broker.box_endPoll, if_pos rfl, ← hhere]
    rfl
  · refine .of_box ?_ waits
    rw [hbox, Broker.box_endPoll, if_neg hk, hother k hk]

theorem Turn.of_takeOffer {b : Broker} {proxy : Proxy} {offer : Offer}
    (taken : s.broker.takeOffer proxy = (some offer, b))
    (hbox : ∀ k, s'.broker.box k = (b.endPoll proxy (some offer)).2.box k)
    (waits : ∀ n m, s'.Waits k n m ↔ s.Waits k n m) : Turn s e s' k none none := by
  obtain rfl : (s.broker.takeOffer proxy).2 = b := congrArg Prod.snd taken
  have htake (k : Nat) : (s.broker.takeOffer proxy).2.box k = if k = proxy.poll
      then ((s.broker.mailbox proxy).take).2 else s.broker.box k := Broker.box_setMailbox ..
  refine .of_endPoll _ hbox (fun k hk => ?_) ?_ waits
  · rw [htake, if_neg hk]
  · rw [htake, if_pos rfl]
    rfl

/-- An answer is handed in for the record that waits under a session id. -/
theorem Turn.of_submitAnswer (sid text : String) :
    Turn s e (s.setBroker (s.broker.submitAnswer sid text).2) k
      none (at? k (s.delivered? (.submitAnswer sid text))) := by
  have hwaits (b : Broker) (n : Nat) (m : Matching) :
    (s.setBroker b).Waits k n m ↔ s.Waits k n m := Iff.rfl
  cases hsid : s.broker.directory.session? sid with
  | none =>
    simp only [delivered?, Broker.submitAnswer, hsid]
    exact .of_same rfl (hwaits _)
  | some proxy =>
    obtain ⟨reached, box, hanswer⟩ : ∃ reached box,
        (s.broker.mailbox proxy).answer text = (reached, box) := ⟨_, _, rfl⟩
    simp only [delivered?, Broker.submitAnswer, hsid, hanswer]
    have hbox : (s.setBroker (s.broker.setMailbox proxy box)).broker.box k =
        if k = proxy.poll then box else s.broker.box k := Broker.box_setMailbox ..
    by_cases hk : proxy.poll = k
    · subst hk
      rw [if_pos rfl] at hbox
      cases reached with
      | true =>
        obtain ⟨i, hwaiting, rfl⟩ := Mailbox.eq_of_answer hanswer
        rw [if_pos rfl, Option.map_some, at?_some, if_pos rfl]
        exact .answered hwaiting hbox (hwaits _)
      | false =>
        obtain ⟨slot, rfl⟩ := Mailbox.eq_of_lost hanswer
        exact .kept hbox (hwaits _)
    · -- The answer is for another poll, whether or not it reaches somebody there.
      have hnone : at? k (if reached = true then some (proxy, text) else none) = none := by
        cases reached with
        | true => rw [if_pos rfl, at?_some, if_neg hk]
        | false => rfl
      rw [if_neg fun heq => hk heq.symm] at hbox
      rw [Option.map_some, hnone]
      exact .of_box hbox (hwaits _)

/-- A match that ends leaves those that wait on other polls. -/
theorem waits_ended {n : Nat} {m : Matching} (waits : s.call? n = some (.matching m))
    (b : Broker) (hk : m.proxy.poll ≠ k) (n' : Nat) (m' : Matching) :
    ((s.setBroker b).endCall n).Waits k n' m' ↔ s.Waits k n' m' := by
  refine waits_endCall_of_not (s := s.setBroker b) (fun m₁ hw => hk ?_) n' m'
  rw [← Waits.unique (s := s) hw waits]
  exact hw.2

/-- What a step does to a poll when offers are parked. -/
theorem Change.turn {o : Option Outcome} (mode : setup.settings.mode = .mailbox) (h : s.Sound)
    (hc : Change setup s e o s')
    (onTicket : ∀ n m, s.call? n = some (.matching m) → m.ticket ≠ none) (k : Nat) :
    Turn s e s' k (at? k (s.posted? setup e)) (at? k (s.delivered? e)) := by
  have hsame (n : Nat) (m : Matching) : s.Waits k n m ↔ s.Waits k n m := Iff.rfl
  have hnot {call : Nat} {c : Call} (hcall : s.call? call = some c) (hno : ∀ m, c ≠ .matching m)
      (b : Broker) (m : Matching) : ¬ (s.setBroker b).Waits k call m := fun hw =>
    hno m (Option.some.inj (hcall.symm.trans hw.1))
  cases hc with
  | idle goesOn =>
    rw [posted?_of_call goesOn, delivered?_of_call goesOn]
    exact .of_same rfl hsame
  | unknown | registered | rescaledNothing => exact .of_same rfl hsame
  | refused checked =>
    simp only [posted?, Broker.openMatch, checked]
    exact .of_same rfl hsame
  | denied checked borrowed =>
    simp only [posted?, Broker.openMatch, checked, borrowed]
    have hbox := Broker.box_of_borrow borrowed
    exact .of_same hbox hsame
  | pushed checked borrowed pushes =>
    rw [mode] at pushes
    cases pushes
  | @parked request bridge proxy b ticket box checked borrowed mode posted =>
    rw [posted?_of_parked checked borrowed posted, at?_some]
    have hborrow := Broker.box_of_borrow borrowed
    have hwait := waits_wait_matching (k := k)
      (h.setBroker ((h.order.borrow borrowed).setMailbox (Mailbox.closed_post posted)))
      ⟨request, proxy, offerOf request bridge, some ticket⟩
    have hbox := Broker.box_setMailbox b proxy box k
    rw [← Broker.box_poll, hborrow] at posted
    rw [hborrow] at hbox
    by_cases hk : proxy.poll = k
    · subst hk
      obtain ⟨hroom, rfl, rfl⟩ := Mailbox.eq_of_post posted
      rw [if_pos rfl] at hbox ⊢
      refine .posted s.traffic.nextCall ⟨request, proxy, offerOf request bridge, some _⟩ hroom rfl
        hbox ?_
      intro n' m'
      rw [hwait, eq_self, true_and]
      exact Iff.rfl
    · rw [if_neg fun heq => hk heq.symm] at hbox
      rw [if_neg hk]
      refine .of_box hbox fun n' m' => ?_
      rw [hwait]
      exact or_iff_right fun hnew => hk hnew.1
  | bounced checked borrowed mode posted =>
    rw [posted?_of_bounced checked borrowed posted]
    exact .of_same ((Broker.box_concludeMatch ..).trans (Broker.box_of_borrow borrowed)) hsame
  | awaited entered =>
    exact .of_same rfl (waits_wait_other h (by simp))
  | polledAtOnce entered taken => exact .of_takeOffer taken (fun _ => rfl) hsame
  | polled glances waits taken =>
    rw [posted?_of_call glances.call?, delivered?_of_call glances.call?]
    exact .of_takeOffer taken (fun _ => rfl) (waits_endCall_of_not (hnot waits (by simp) _))
  | pollExpired waits nothing =>
    exact .of_endPoll none (fun _ => rfl) (fun _ _ => rfl) rfl
      (waits_endCall_of_not (hnot waits (by simp) _))
  | answered sid answer => exact .of_submitAnswer sid answer
  | noticed cid action addr => exact .of_same rfl hsame
  | rescaled relocated =>
    exact .of_same ((Broker.box_concludeRescale ..).trans (Broker.box_of_relocate relocated)) hsame
  | moving relocated moved =>
    have horder := h.setBroker (h.order.relocate relocated)
    exact .of_same (Broker.box_of_relocate relocated) (waits_wait_other horder (by simp))
  | replied waits pushed => exact absurd pushed (onTicket _ _ waits)
  | @collected call _ m ticket answer box glances waits parked found =>
    rw [posted?_of_call glances.call?, delivered?_of_call glances.call?]
    have hbox := Broker.box_setMailbox s.broker m.proxy box k
    rw [← Broker.box_concludeMatch _ m.request m.proxy (.answered answer)] at hbox
    obtain ⟨hfound, rfl⟩ := Mailbox.eq_of_check found
    by_cases hk : m.proxy.poll = k
    · subst hk
      rw [if_pos rfl] at hbox
      exact .collected glances ⟨waits, rfl⟩ parked hfound hbox (waits_endCall (s.setBroker _) call)
    · rw [if_neg fun heq => hk heq.symm] at hbox
      exact .of_box hbox (waits_ended waits _ hk)
  | @expired call m waits silent =>
    obtain ⟨ticket, hticket⟩ := Option.ne_none_iff_exists'.mp (onTicket _ _ waits)
    have hbox := Broker.box_setMailbox s.broker m.proxy
      ((s.broker.mailbox m.proxy).abandon ticket) k
    have habandon : abandoned s.broker m = s.broker.abandonTicket m.proxy ticket := by
      rw [abandoned, hticket]
    rw [← Broker.abandonTicket, ← habandon,
      ← Broker.box_concludeMatch _ m.request m.proxy .timedOut] at hbox
    by_cases hk : m.proxy.poll = k
    · subst hk
      rw [if_pos rfl] at hbox
      refine .left ⟨waits, rfl⟩ hticket (fun text hanswered => ?_) hbox
        (waits_endCall (s.setBroker _) call)
      exact silent ticket text hticket (congrArg Prod.fst (Mailbox.check_of_answered hanswered))
    · rw [if_neg fun heq => hk heq.symm] at hbox
      exact .of_box hbox (waits_ended waits _ hk)
  | settled waits sent others =>
    exact .of_same rfl (waits_setCall_moving (s := s.setBroker _) waits)
  | settledLast waits sent last =>
    exact .of_same (Broker.box_concludeRescale ..)
      (waits_endCall_of_not (hnot waits (by simp) _))

end

/-! ## The life of a poll -/

/-- How far a poll has come. -/
inductive Life (s : History) (k : Nat) : Prop
  /-- No offer was posted yet. -/
  | unused (tickets : (s.broker.box k).tickets = []) (nobody : ∀ n m, ¬ s.Waits k n m)
  /-- A match waits on the only ticket. -/
  | held (n : Nat) (m : Matching) (ticket : Ticket) (tickets : (s.broker.box k).tickets = [ticket])
      (full : (s.broker.box k).Full) (live : ticket.live = true) (holds : m.ticket = some 0)
      (only : ∀ n' m', s.Waits k n' m' ↔ n' = n ∧ m' = m)
  /-- The match has ended. -/
  | concluded (ticket : Ticket) (tickets : (s.broker.box k).tickets = [ticket])
      (full : (s.broker.box k).Full) (dead : ticket.live = false)
      (nobody : ∀ n m, ¬ s.Waits k n m)

section
variable {s s' : History} {e : Event} {k : Nat}

/-- The tickets and those who wait are the same, and the mailbox takes no more offers than
before. -/
theorem Life.of_same (h : s.Life k)
    (tickets : (s'.broker.box k).tickets = (s.broker.box k).tickets)
    (full : (s.broker.box k).Full → (s'.broker.box k).Full)
    (waits : ∀ n m, s'.Waits k n m ↔ s.Waits k n m) : s'.Life k := by
  cases h with
  | unused ht nobody => exact .unused (tickets.trans ht) fun n m => by rw [waits]; exact nobody n m
  | held n m ticket ht hfull live holds only =>
    exact .held n m ticket (tickets.trans ht) (full hfull) live holds fun n' m' => by
      rw [waits, only]
  | concluded ticket ht hfull dead nobody =>
    exact .concluded ticket (tickets.trans ht) (full hfull) dead fun n m => by
      rw [waits]
      exact nobody n m

/-- A match that waits holds the only ticket. -/
theorem Life.of_waits (h : s.Life k) {n : Nat} {m : Matching} (hw : s.Waits k n m) :
    ∃ ticket, (s.broker.box k).tickets = [ticket] ∧ (s.broker.box k).Full ∧
      ticket.live = true ∧ m.ticket = some 0 ∧ ∀ n' m', s.Waits k n' m' ↔ n' = n ∧ m' = m := by
  cases h with
  | unused ht nobody => exact absurd hw (nobody n m)
  | held n₀ m₀ ticket ht full live holds only =>
    obtain ⟨rfl, rfl⟩ := (only n m).mp hw
    exact ⟨ticket, ht, full, live, holds, only⟩
  | concluded ticket ht full dead nobody => exact absurd hw (nobody n m)

/-- No mailbox ever gives a second ticket. -/
theorem Life.length_tickets_le (h : s.Life k) : (s.broker.box k).tickets.length ≤ 1 := by
  cases h with
  | unused tickets => simp [tickets]
  | held n m ticket tickets => simp [tickets]
  | concluded ticket tickets => simp [tickets]

/-- A ticket that waits for an answer is the only one, and held by the match that waits. -/
theorem Life.of_waiting (h : s.Life k) {i : Nat}
    (hi : (s.broker.box k).tickets[i]? = some .waiting) :
    i = 0 ∧ (s.broker.box k).tickets = [.waiting] ∧
      ∃ n m, m.ticket = some 0 ∧ ∀ n' m', s.Waits k n' m' ↔ n' = n ∧ m' = m := by
  have honly {ticket : Ticket} (htickets : (s.broker.box k).tickets = [ticket]) :
      i = 0 ∧ ticket = .waiting := by
    rw [htickets, List.getElem?_singleton] at hi
    split at hi
    · next hzero => exact ⟨hzero, Option.some.inj hi⟩
    · cases hi
  cases h with
  | unused tickets nobody =>
    rw [tickets] at hi
    cases hi
  | held n m ticket tickets full live holds only =>
    obtain ⟨hzero, rfl⟩ := honly tickets
    exact ⟨hzero, tickets, n, m, holds, only⟩
  | concluded ticket tickets full dead nobody =>
    obtain ⟨-, rfl⟩ := honly tickets
    cases dead

/-- A match that ends leaves a ticket on which nobody waits. -/
theorem Life.ended (h : s.Life k) {n i : Nat} {m : Matching} (hw : s.Waits k n m)
    (hi : m.ticket = some i) {ticket : Ticket} (dead : ticket.live = false)
    (box : s'.broker.box k = { s.broker.box k with
      tickets := (s.broker.box k).tickets.set i ticket })
    (waits : ∀ n' m', s'.Waits k n' m' ↔ n' ≠ n ∧ s.Waits k n' m') : s'.Life k := by
  obtain ⟨old, htickets, hfull, -, hholds, honly⟩ := h.of_waits hw
  obtain rfl : 0 = i := Option.some.inj (hholds.symm.trans hi)
  refine .concluded ticket ?_ ?_ dead fun n' m' hw' => ?_
  · simp [box, htickets]
  · rw [box]
    exact hfull
  · obtain ⟨hne, hbefore⟩ := (waits n' m').mp hw'
    exact hne ((honly n' m').mp hbefore).1

/-- Whatever waits, waits on a ticket of its poll. -/
theorem ticket_of_lives (h : ∀ k, s.Life k) (n : Nat) (m : Matching)
    (hn : s.call? n = some (.matching m)) : m.ticket ≠ none := by
  obtain ⟨-, -, -, -, hholds, -⟩ := (h m.proxy.poll).of_waits ⟨hn, rfl⟩
  simp [hholds]

theorem Life.turn (h : s.Life k) {offer : Option Offer} {text : Option String}
    (ht : Turn s e s' k offer text) : s'.Life k := by
  cases ht with
  | kept box waits => exact h.of_same (by rw [box]) (by rw [box]; exact id) waits
  | ended box waits => exact h.of_same (by rw [box]) (fun _ => by rw [box]; exact .inr rfl) waits
  | posted n m room ticket box waits =>
    -- Only an unused mailbox has room.
    cases h with
    | unused tickets nobody =>
      rw [tickets] at ticket box
      refine .held n m .waiting (by rw [box]; rfl) (by rw [box]; exact .inl rfl) rfl ticket ?_
      intro n' m'
      rw [waits]
      exact or_iff_left (nobody n' m')
    | held _ _ _ _ full => exact absurd full room
    | concluded _ _ full => exact absurd full room
  | @answered _ text waiting box waits =>
    obtain ⟨rfl, tickets, n, m, holds, only⟩ := h.of_waiting waiting
    obtain ⟨-, -, full, -⟩ := h.of_waits ((only n m).mpr ⟨rfl, rfl⟩)
    refine .held n m (.answered text) ?_ ?_ rfl holds fun n' m' => by rw [waits, only]
    · rw [box, tickets]
      rfl
    · rw [box]
      exact full
  | collected glances waited ticket found box waits => exact h.ended waited ticket rfl box waits
  | left waited ticket silent box waits => exact h.ended waited ticket rfl box waits

end

section
variable {setup : Setup}

/-- When offers are parked, every poll has one life in every run. -/
theorem run_life (mode : setup.settings.mode = .mailbox) (events : List Event) (k : Nat) :
    (run setup events).Life k := by
  induction events using List.reverseRecOn generalizing k with
  | nil =>
    refine .unused rfl fun n m hw => ?_
    have hnone : (run setup []).call? n = none := sound_start.free n (Nat.zero_le n)
    rw [hw.1] at hnone
    cases hnone
  | append_singleton events e ih =>
    rw [run_append]
    have hturn := (step_change setup _ e).turn mode (run_sound setup events) (ticket_of_lives ih) k
    exact (ih k).turn hturn

/-- What a step of a run does to a poll. -/
theorem run_turn (mode : setup.settings.mode = .mailbox) (events : List Event) (e : Event)
    (k : Nat) : Turn (run setup events) e (run setup (events ++ [e])) k
      (at? k ((run setup events).posted? setup e)) (at? k ((run setup events).delivered? e)) := by
  rw [run_append]
  exact (step_change setup _ e).turn mode (run_sound setup events)
    (ticket_of_lives (run_life mode events)) k

end

end History

end RelayBroker
