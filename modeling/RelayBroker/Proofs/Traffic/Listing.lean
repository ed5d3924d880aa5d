/-
  RelayBroker.Proofs.Traffic.Listing

  How long a record stays listed under its session id. The session index is shared by all
  hosts, and the ids are chosen by the proxies; so each step of every participant is held
  against it. What ends the wait of a record is said once, by `EndsWait`: it is matched, its
  match fails after its poll has ended, its host polls again or is retired, or its own poll
  ends without an offer. One more thing ends it, which is no affair of its host: another host
  polls under the same session id, and the later poll takes the id over.

  A step leaves a record listed exactly if it is none of these (`Change.lists_iff`), and so
  does a run (`run_lists_iff`).

  Main statement: `pending_until_ended`.
-/

import RelayBroker.Broker.Overview
import RelayBroker.Proofs.Traffic.Pairing

namespace RelayBroker

namespace Broker

section
variable {b : Broker} {records : List Proxy} {p proxy : Proxy}

theorem closed_setMailbox {m : Mailbox} (h : m.closed = (b.mailbox proxy).closed) (p : Proxy) :
    ((b.setMailbox proxy m).mailbox p).closed = (b.mailbox p).closed := by
  simpa [isOpen] using congrFun (isOpen_setMailbox h) p

/-! ## Listed records through the operations on the broker -/

theorem Agrees.tells (h : b.Agrees records) (hd : b.directory.Coherent) (hp : p ∈ records) :
    b.directory.Tells p where
  coherent := hd
  placed hcur := (h.current hcur).1
  unique hcur hpoll := h.eq_of_poll (h.current hcur).2 hp hpoll

/-- A listed record leaves with its host, if a record that is the current one there is
taken out. -/
theorem Agrees.lists_removeCurrent (h : b.Agrees records) (hd : b.directory.Coherent)
    (hp : p ∈ records) (hproxy : proxy ∈ records) (hcurrent : b.directory.isCurrent proxy = true) :
    (b.directory.removeHost proxy.addr).2.Lists p ↔ b.directory.Lists p ∧ proxy ≠ p := by
  have htells := h.tells hd hp
  rw [htells.lists_removeHost]
  refine and_congr_right fun hlists => not_congr ⟨fun haddr => ?_, fun heq => heq ▸ rfl⟩
  refine htells.eq_of_listed hlists ?_
  rw [haddr]
  exact (h.isCurrent_iff hproxy).mp hcurrent

/-- A listed record is the current one of its host. -/
theorem Agrees.isCurrent_of_listed (h : b.Agrees records) (hd : b.directory.Coherent)
    (hp : p ∈ records) (hlists : b.directory.Lists p) : b.directory.isCurrent p = true :=
  (h.isCurrent_iff hp).mpr (hd.current hlists)

/-- A failed match takes the record that it borrowed off the list if the poll has ended. -/
theorem Agrees.lists_giveBack (h : b.Agrees records) (hd : b.directory.Coherent)
    (hp : p ∈ records) (hproxy : proxy ∈ records) :
    (b.giveBack proxy).directory.Lists p ↔
      b.directory.Lists p ∧ ¬ (proxy = p ∧ (b.mailbox p).closed = true) := by
  rw [Broker.giveBack]
  split
  · next hnot =>
    refine (and_iff_left_of_imp fun hlists => ?_).symm
    rintro ⟨rfl, -⟩
    rw [h.isCurrent_of_listed hd hp hlists] at hnot
    cases hnot
  · next hcurrent =>
    split
    · next hclosed =>
      rw [h.lists_removeCurrent hd hp hproxy (by simpa using hcurrent)]
      refine and_congr_right fun _ => not_congr ⟨?_, And.left⟩
      rintro rfl
      exact ⟨rfl, hclosed⟩
    · next hopen =>
      refine (and_iff_left ?_).symm
      rintro ⟨rfl, hclosed⟩
      exact hopen hclosed

/-- A match takes the record that it borrowed off the list if it ends well, or if the poll has
ended. -/
theorem Agrees.lists_concludeMatch (h : b.Agrees records) (hd : b.directory.Coherent)
    (hp : p ∈ records) (hproxy : proxy ∈ records) (request : ClientRequest) (reply : Reply) :
    (b.concludeMatch request proxy reply).2.directory.Lists p ↔ b.directory.Lists p ∧
      ¬ (proxy = p ∧ ((∃ answer, (b.concludeMatch request proxy reply).1 = .ok answer) ∨
        (b.mailbox p).closed = true)) := by
  cases reply with
  | failed e => simpa [Broker.concludeMatch] using h.lists_giveBack hd hp hproxy
  | timedOut => simpa [Broker.concludeMatch] using h.lists_giveBack hd hp hproxy
  | answered answer =>
    simp only [Broker.concludeMatch, Broker.bindAnswered]
    cases hcur : b.directory.host? proxy.addr with
    | none =>
      -- Its host has left the directory, and so the record is not listed.
      refine (and_iff_left_of_imp fun hlists => ?_).symm
      rintro ⟨rfl, -⟩
      rw [hd.current hlists] at hcur
      cases hcur
    | some current =>
      show (b.directory.consume proxy).2.Lists p ↔ _
      rw [Directory.lists_consume fun hpoll => h.eq_of_poll hproxy hp hpoll]
      simp

/-- A poll that ends without an offer takes its record off the list. -/
theorem Agrees.lists_endPoll (h : b.Agrees records) (hd : b.directory.Coherent)
    (hp : p ∈ records) (hproxy : proxy ∈ records) (polled : Option Offer) :
    (b.endPoll proxy polled).2.directory.Lists p ↔
      b.directory.Lists p ∧ ¬ (proxy = p ∧ (b.endPoll proxy polled).1 = none) := by
  simp only [Broker.endPoll, withdraw]
  split
  · next hcurrent =>
    have hcurrent : b.directory.isCurrent proxy = true := hcurrent
    split
    · next hoffer =>
      rw [Option.isSome_iff_ne_none] at hoffer
      exact (and_iff_left fun hends => hoffer hends.2).symm
    · next hnone =>
      have hnone := Option.not_isSome_iff_eq_none.mp hnone
      have hleft := h.lists_removeCurrent hd hp hproxy hcurrent
      exact hleft.trans (by simp [hnone])
  · next hnot =>
    have hnot : ¬ b.directory.isCurrent proxy = true := hnot
    refine (and_iff_left_of_imp fun hlists => ?_).symm
    rintro ⟨rfl, -⟩
    exact hnot (h.isCurrent_of_listed hd hp hlists)

end

end Broker

namespace History

/-! ## What ends the wait of a record -/

/-- The record that was borrowed by the match which an event starts or lets go on. -/
def matching? (setup : Setup) (s : History) : Event → Option Proxy
  | .startMatch request =>
    match s.broker.openMatch setup.catalog request with
    | (.ok (proxy, _), _) => some proxy
    | (.error _, _) => none
  | .reply call _ | .wake call | .expire call =>
    match s.call? call with
    | some (.matching m) => some m.proxy
    | _ => none
  | _ => none

/-- What ends the wait of a record under its session id: an event, with the outcome of the
call that it ends. -/
inductive EndsWait (setup : Setup) (s : History) (proxy : Proxy) : Event → Option Outcome → Prop
  /-- A match on the record ends well. -/
  | matched {e answer} (borrowed : s.matching? setup e = some proxy) :
      EndsWait setup s proxy e (some (.matched (.ok answer)))
  /-- A match on the record fails after its mailbox was closed. -/
  | failed {e error} (borrowed : s.matching? setup e = some proxy)
      (closed : (s.broker.mailbox proxy).closed = true) :
      EndsWait setup s proxy e (some (.matched (.error error)))
  | polledAgain {poll o} (host : poll.addr = proxy.addr) :
      EndsWait setup s proxy (.register poll) o
  | retired {retiring incoming o} (host : proxy.addr ∈ retiring) :
      EndsWait setup s proxy (.rescale retiring incoming) o
  /-- The poll of the record ends without an offer. -/
  | unoffered {e} (polls : s.polling? e = some proxy) :
      EndsWait setup s proxy e (some (.polled none))

/-- A host polls under a session id. -/
inductive TakesId (sid : String) : Event → Prop
  | polls {poll} (named : poll.sid = sid) : TakesId sid (.register poll)

section
variable {setup : Setup} {s s' : History} {e : Event} {o : Option Outcome} {p proxy : Proxy}

theorem endsWait_register_iff {poll : Broker.Announcement} :
    EndsWait setup s p (.register poll) o ↔ poll.addr = p.addr := by
  refine ⟨fun hends => ?_, .polledAgain⟩
  cases hends with
  | matched borrowed | failed borrowed => cases borrowed
  | polledAgain host => exact host
  | unoffered polls => cases polls

theorem endsWait_rescale_iff {retiring incoming : List Address} :
    EndsWait setup s p (.rescale retiring incoming) o ↔ p.addr ∈ retiring := by
  refine ⟨fun hends => ?_, .retired⟩
  cases hends with
  | matched borrowed | failed borrowed => cases borrowed
  | retired host => exact host
  | unoffered polls => cases polls

/-- A match ends the wait of its record if it ends well, or if the poll of the record has
ended. -/
theorem endsWait_matched_iff (borrowed : s.matching? setup e = some proxy)
    (r : Except BrokerError String) :
    EndsWait setup s p e (some (.matched r)) ↔
      proxy = p ∧ ((∃ answer, r = .ok answer) ∨ (s.broker.mailbox p).closed = true) := by
  constructor
  · intro hends
    cases hends with
    | matched hb => exact ⟨Option.some.inj (borrowed.symm.trans hb), .inl ⟨_, rfl⟩⟩
    | failed hb closed => exact ⟨Option.some.inj (borrowed.symm.trans hb), .inr closed⟩
    | polledAgain | retired => cases borrowed
  · rintro ⟨rfl, hends⟩
    cases r with
    | ok answer => exact .matched borrowed
    | error error =>
      rcases hends with ⟨answer, hok⟩ | hclosed
      · cases hok
      · exact .failed borrowed hclosed

/-- A poll ends the wait of its record if it ends without an offer. -/
theorem endsWait_polled_iff (polls : s.polling? e = some proxy) (offer : Option Offer) :
    EndsWait setup s p e (some (.polled offer)) ↔ proxy = p ∧ offer = none := by
  constructor
  · intro hends
    cases hends with
    | polledAgain | retired => cases polls
    | unoffered hp => exact ⟨Option.some.inj (polls.symm.trans hp), rfl⟩
  · rintro ⟨rfl, rfl⟩
    exact .unoffered polls

theorem takesId_register_iff {sid : String} {poll : Broker.Announcement} :
    TakesId sid (.register poll) ↔ poll.sid = sid :=
  ⟨fun ⟨named⟩ => named, .polls⟩

/-- An event that lets a match or a poll go on takes no session id over. -/
theorem not_takesId_of_matching {sid : String} (borrowed : s.matching? setup e = some proxy) :
    ¬ TakesId sid e := by
  rintro ⟨-⟩
  cases borrowed

theorem not_takesId_of_polling {sid : String} (polls : s.polling? e = some proxy) :
    ¬ TakesId sid e := by
  rintro ⟨-⟩
  cases polls

theorem matching?_of_borrow {request : ClientRequest} {bridge : Bridge} {b : Broker}
    (checked : Broker.checkRequest setup.catalog request = .ok bridge)
    (borrowed : s.broker.borrow request.nat = (some proxy, b)) :
    s.matching? setup (.startMatch request) = some proxy := by
  simp only [matching?, Broker.openMatch, checked, borrowed]

theorem matching?_of_glances {n : Nat} {m : Matching} (glances : Glances n e)
    (waits : s.call? n = some (.matching m)) : s.matching? setup e = some m.proxy := by
  cases glances <;> simp only [matching?, waits]

theorem closed_abandoned (b : Broker) (m : Matching) (p : Proxy) :
    ((abandoned b m).mailbox p).closed = (b.mailbox p).closed := by
  rw [abandoned]
  split
  · exact Broker.closed_setMailbox (by rfl) p
  · rfl

/-! ## Steps and runs -/

/-- The end of a match, in a broker that differs from the one of the step in what is no matter
to who is listed. -/
theorem lists_of_concludeMatch {b : Broker} (h : b.Agrees s.records)
    (hd : s.broker.directory.Coherent) (hdir : b.directory = s.broker.directory)
    (hclosed : (b.mailbox p).closed = (s.broker.mailbox p).closed) (hp : p ∈ s.records)
    (hproxy : proxy ∈ s.records) (borrowed : s.matching? setup e = some proxy)
    (request : ClientRequest) (reply : Broker.Reply) :
    (b.concludeMatch request proxy reply).2.directory.Lists p ↔ s.broker.directory.Lists p ∧
      ¬ EndsWait setup s p e (some (.matched (b.concludeMatch request proxy reply).1)) ∧
      ¬ TakesId p.sid e := by
  rw [and_iff_left (not_takesId_of_matching borrowed), endsWait_matched_iff borrowed, ← hclosed,
    ← hdir]
  rw [← hdir] at hd
  exact h.lists_concludeMatch hd hp hproxy request reply

/-- The end of a poll, likewise. -/
theorem lists_of_endPoll {b : Broker} (h : b.Agrees s.records)
    (hd : s.broker.directory.Coherent) (hdir : b.directory = s.broker.directory)
    (hp : p ∈ s.records) (hproxy : proxy ∈ s.records) (polls : s.polling? e = some proxy)
    (polled : Option Offer) :
    (b.endPoll proxy polled).2.directory.Lists p ↔ s.broker.directory.Lists p ∧
      ¬ EndsWait setup s p e (some (.polled (b.endPoll proxy polled).1)) ∧
      ¬ TakesId p.sid e := by
  rw [and_iff_left (not_takesId_of_polling polls), endsWait_polled_iff polls, ← hdir]
  rw [← hdir] at hd
  exact h.lists_endPoll hd hp hproxy polled

/-- A step leaves a record listed unless it ends its wait, or another poll takes its session id
over. -/
theorem Change.lists_iff (hc : Change setup s e o s') (h : s.Sound)
    (hd : s.broker.directory.Coherent) (hp : p ∈ s.records) :
    s'.broker.directory.Lists p ↔
      s.broker.directory.Lists p ∧ ¬ EndsWait setup s p e o ∧ ¬ TakesId p.sid e := by
  have hagrees := h.order.agrees
  have htells := hagrees.tells hd hp
  -- A step that leaves the directory as it is ends no wait.
  have hsame {d : Directory} (hdir : d = s.broker.directory) (hends : ¬ EndsWait setup s p e o)
      (htakes : ¬ TakesId p.sid e) :
      d.Lists p ↔ s.broker.directory.Lists p ∧ ¬ EndsWait setup s p e o ∧ ¬ TakesId p.sid e := by
    rw [hdir, and_iff_left ⟨hends, htakes⟩]
  -- A rescale strikes off the hosts that it retires.
  have hretire {d : Directory} {retiring incoming : List Address}
      (hdir : d = s.broker.directory.removeAll retiring) :
      d.Lists p ↔ s.broker.directory.Lists p ∧ ¬ EndsWait setup s p (.rescale retiring incoming) o ∧
        ¬ TakesId p.sid (.rescale retiring incoming) := by
    have htakes : ¬ TakesId p.sid (.rescale retiring incoming) := nofun
    rw [hdir, htells.lists_removeAll, endsWait_rescale_iff, and_iff_left htakes]
  cases hc with
  | idle goesOn =>
    refine hsame rfl ?_ ?_
    · rintro (_ | _) <;> cases goesOn
    · rintro ⟨-⟩
      cases goesOn
  | unknown | awaited | noticed | settled => exact hsame rfl nofun nofun
  | answered sid answer => exact hsame (Broker.sameStores_submitAnswer ..).directory nofun nofun
  | settledLast waits sent last =>
    exact hsame (Broker.sameStores_concludeRescale (s.broker.countTransfer _) ..).directory nofun
      nofun
  | pushed checked borrowed mode =>
    exact hsame (Broker.directory_of_borrow borrowed) nofun nofun
  | parked checked borrowed mode posted =>
    have hdir := Broker.directory_of_borrow borrowed
    exact hsame hdir nofun nofun
  | refused checked =>
    refine hsame rfl ?_ nofun
    rintro (_ | ⟨borrowed, -⟩)
    simp [matching?, Broker.openMatch, checked] at borrowed
  | denied checked borrowed =>
    have hdir := Broker.directory_of_borrow borrowed
    refine hsame hdir ?_ nofun
    rintro (_ | ⟨hb, -⟩)
    simp [matching?, Broker.openMatch, checked, borrowed] at hb
  | registered poll =>
    have hlt := hagrees.lt_nextPoll hp
    have hne : p ≠ (s.broker.register poll).1 := by
      rintro rfl
      exact Nat.lt_irrefl _ hlt
    have hinsert := htells.lists_insert hne
    rw [endsWait_register_iff, takesId_register_iff]
    exact hinsert.trans (by rw [ne_comm, ne_comm (a := p.sid)]; rfl)
  | rescaledNothing => exact hretire rfl
  | rescaled relocated =>
    refine hretire ?_
    rw [broker_setBroker, (Broker.sameStores_concludeRescale ..).directory]
    exact Broker.directory_relocate relocated
  | moving relocated moved => exact hretire (Broker.directory_relocate relocated)
  | bounced checked borrowed mode posted =>
    have hpooled := hagrees.pooled_of_borrow borrowed
    have hborrowed := (h.order.borrow borrowed).agrees
    have hbox := congrFun (Broker.box_of_borrow borrowed) p.poll
    exact lists_of_concludeMatch hborrowed hd (Broker.directory_of_borrow borrowed)
      (congrArg Mailbox.closed hbox) hp
      (hagrees.of_pooled hpooled).2.2 (matching?_of_borrow checked borrowed) _ _
  | polledAtOnce entered taken =>
    exact lists_of_endPoll (h.order.takeOffer taken).agrees hd
      (Broker.sameStores_of_takeOffer taken).directory hp (List.mem_of_getElem? entered)
      (show s.polling? (.await _) = _ from entered) _
  | polled glances waits taken =>
    exact lists_of_endPoll (h.order.takeOffer taken).agrees hd
      (Broker.sameStores_of_takeOffer taken).directory hp (h.known waits)
      (polling?_of_glances glances waits) _
  | pollExpired waits nothing =>
    exact lists_of_endPoll hagrees hd rfl hp (h.known waits) (polling?_of_glances .expire waits) _
  | replied waits pushed =>
    refine lists_of_concludeMatch hagrees hd rfl rfl hp (h.known waits) ?_ _ _
    simp only [matching?, waits]
  | collected glances waits parked found =>
    have hclosed := Mailbox.closed_check found
    exact lists_of_concludeMatch (hagrees.setMailbox hclosed) hd rfl
      (Broker.closed_setMailbox hclosed _) hp (h.known waits) (matching?_of_glances glances waits)
      _ _
  | @expired call m waits silent =>
    have habandoned := (inOrder_abandoned h.order m).agrees
    exact lists_of_concludeMatch habandoned hd (sameStores_abandoned s.broker m).directory
      (closed_abandoned s.broker m p) hp
      (h.known waits) (matching?_of_glances .expire waits) _ _

/-- A run leaves a record listed exactly if none of its steps ends the wait of the record, or
takes its session id over. -/
theorem run_lists_iff (setup : Setup) (events : List Event) (more : List Event)
    (hp : p ∈ (run setup events).records) :
    (run setup (events ++ more)).broker.directory.Lists p ↔
      (run setup events).broker.directory.Lists p ∧
        ¬ ∃ before e, before ++ [e] <+: more ∧
          (EndsWait setup (run setup (events ++ before)) p e
            ((run setup (events ++ before)).step setup e).1 ∨ TakesId p.sid e) := by
  induction more using List.reverseRecOn with
  | nil => rw [List.append_nil, and_iff_left not_exists_step_nil]
  | append_singleton more e ih =>
    have hstep := (step_change setup (run setup (events ++ more)) e).lists_iff (run_sound setup _)
      (run_coherent setup _) ((records_run_append setup events more).subset hp)
    rw [← List.append_assoc, run_append, hstep, ih, exists_step_append, not_or, not_or, and_assoc]

end

/-- A pending session id keeps naming the record of its poll. After a poll has entered a record,
the id stands for this record, and an answer under it goes to the mailbox of this record,
however the run goes on, until one of these happens: a match on the record ends well, or fails
after the mailbox of the record was closed; the host polls again or is retired; the poll of the
record ends without an offer; or a host polls under the same id. From then on the id does not
stand for the record any more. -/
theorem pending_until_ended (setup : Setup) (events : List Event) (poll : Broker.Announcement)
    (more : List Event) :
    let proxy := ((run setup events).broker.register poll).1
    let after (more : List Event) := run setup (events ++ .register poll :: more)
    ((after more).broker.pendingProxy? poll.sid = some proxy ↔
      ¬ ∃ before e, before ++ [e] <+: more ∧
        (EndsWait setup (after before) proxy e ((after before).step setup e).1 ∨
          TakesId poll.sid e)) ∧
    ((after more).broker.pendingProxy? poll.sid = some proxy →
      ∀ text, (after more).broker.submitAnswer poll.sid text =
        ((((after more).broker.mailbox proxy).answer text).1,
          (after more).broker.setMailbox proxy
            (((after more).broker.mailbox proxy).answer text).2)) := by
  intro proxy after
  constructor
  · have hentered : run setup (events ++ [.register poll]) =
        ((run setup events).step setup (.register poll)).2 := run_append ..
    have hp : proxy ∈ (run setup (events ++ [.register poll])).records := by
      rw [hentered]
      exact List.mem_append_right _ (List.mem_singleton_self _)
    have hlisted : (run setup (events ++ [.register poll])).broker.directory.Lists proxy := by
      rw [hentered]
      exact Directory.lists_insert_self _ _
    have hrun := run_lists_iff setup (events ++ [.register poll]) more hp
    simp only [List.append_assoc, List.singleton_append] at hrun
    rw [and_iff_right hlisted] at hrun
    exact hrun
  · intro hpending text
    rw [Broker.pendingProxy?] at hpending
    rw [Broker.submitAnswer, hpending]

/-- While the record of a host waits, another host polls under the same session id. That host is
no party to any match or rescale, and yet the id stands for its record. -/
theorem id_taken_over :
    ¬ ∀ (setup : Setup) (events : List Event) (poll : Broker.Announcement) (more : List Event),
      let proxy := ((run setup events).broker.register poll).1
      let after (more : List Event) := run setup (events ++ .register poll :: more)
      (¬ ∃ before e, before ++ [e] <+: more ∧
        EndsWait setup (after before) proxy e ((after before).step setup e).1) →
      (after more).broker.pendingProxy? poll.sid = some proxy := by
  intro hclaim
  let setup : Setup := ⟨Settings.standard, Catalog.builtin⟩
  let poll (last : UInt8) : Broker.Announcement :=
    ⟨"s1", "standalone", .unrestricted, .v4 10 0 0 last, 0, true⟩
  have hpending := hclaim setup [] (poll 1) [.register (poll 2)] ?_
  · revert hpending
    decide +kernel
  · -- The only step is the poll of a host at another address.
    rw [← List.nil_append [_], exists_step_append, or_iff_right not_exists_step_nil,
      endsWait_register_iff]
    decide +kernel

end History

end RelayBroker
