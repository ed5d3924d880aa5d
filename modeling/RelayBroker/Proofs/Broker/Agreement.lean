/-
  RelayBroker.Proofs.Broker.Agreement

  The pools against the directory. In a broker that `Agrees` with the records of its
  polls, what is pooled at an address is the current record of the address, if its
  mailbox is open, and nothing else. Records are told apart by the number of their poll,
  and no mailbox is closed before its poll is entered.

  There is one lemma for each operation on the broker. Those that leave both stores as
  they are, up to loads and to who waits under which session id, follow from
  `Agrees.of_same`.
-/

import RelayBroker.Broker.Matching
import RelayBroker.Broker.Notices
import RelayBroker.Broker.Polling
import RelayBroker.Proofs.Broker.Relocation
import RelayBroker.Proofs.Fleet.MailboxView

namespace RelayBroker

/-! ## Mailboxes that stay open -/

namespace Broker

/-- Whether the mailbox of a record still takes offers. -/
def isOpen (b : Broker) (proxy : Proxy) : Bool :=
  !(b.mailbox proxy).closed

theorem mailbox_setMailbox (b : Broker) (proxy p : Proxy) (m : Mailbox) :
    (b.setMailbox proxy m).mailbox p = if p.poll = proxy.poll then m else b.mailbox p := by
  simp only [mailbox, setMailbox, Table.get?_insert]
  split <;> rfl

theorem isOpen_setMailbox {b : Broker} {proxy : Proxy} {m : Mailbox}
    (h : m.closed = (b.mailbox proxy).closed) : (b.setMailbox proxy m).isOpen = b.isOpen := by
  funext p
  rw [isOpen, mailbox_setMailbox]
  split
  · -- Records of one poll share their mailbox.
    next hp => rw [h, isOpen, mailbox, mailbox, hp]
  · rfl

theorem isOpen_closeMailbox (b : Broker) (proxy p : Proxy) :
    (b.closeMailbox proxy).2.isOpen p = (p.poll ≠ proxy.poll && b.isOpen p) := by
  simp only [closeMailbox, isOpen, mailbox_setMailbox]
  split
  · next hp => simp [hp, Mailbox.close]
  · next hp => simp [hp]

/-- What is pooled at an address is its current record, if its mailbox is open. -/
structure Agrees (b : Broker) (records : List Proxy) : Prop where
  sorted : b.pools.Sorted
  pooled : ∀ a, b.pools.proxy? a = (b.directory.host? a).filter b.isOpen
  current : ∀ {a p}, b.directory.host? a = some p → p.addr = a ∧ p ∈ records
  numbered : ∀ p ∈ records, records[p.poll]? = some p
  polls : records.length = b.nextPoll
  fresh : ∀ p, b.nextPoll ≤ p.poll → b.isOpen p = true

theorem agrees_empty : empty.Agrees [] where
  sorted := Pools.sorted_empty
  pooled _ := rfl
  current h := by simp [empty] at h
  numbered := by simp
  polls := rfl
  fresh _ _ := rfl

section
variable {b b' : Broker} {records : List Proxy} {proxy : Proxy}

/-- Two records of one poll are the same. -/
theorem Agrees.eq_of_poll (h : b.Agrees records) {p q : Proxy} (hp : p ∈ records)
    (hq : q ∈ records) (hpoll : p.poll = q.poll) : p = q := by
  have heq := h.numbered p hp
  rw [hpoll, h.numbered q hq] at heq
  exact (Option.some.inj heq).symm

/-- A record is the current one of its host exactly if the directory has it there. -/
theorem Agrees.isCurrent_iff (h : b.Agrees records) (hp : proxy ∈ records) :
    b.directory.isCurrent proxy = true ↔ b.directory.host? proxy.addr = some proxy :=
  Directory.isCurrent_iff_of_unique fun _ hcur hpoll => h.eq_of_poll (h.current hcur).2 hp hpoll

/-- Fewer current records and other mailboxes, with what is pooled as it has to be. -/
theorem Agrees.of_fewer (h : b.Agrees records) (sorted : b'.pools.Sorted)
    (pooled : ∀ a, b'.pools.proxy? a = (b'.directory.host? a).filter b'.isOpen)
    (fewer : ∀ {a p}, b'.directory.host? a = some p → b.directory.host? a = some p)
    (polls : b'.nextPoll = b.nextPoll)
    (fresh : ∀ p, b.nextPoll ≤ p.poll → b'.isOpen p = b.isOpen p) : b'.Agrees records where
  sorted := sorted
  pooled := pooled
  current hcur := h.current (fewer hcur)
  numbered := h.numbered
  polls := by rw [h.polls, polls]
  fresh p hp := by
    rw [polls] at hp
    rw [fresh p hp, h.fresh p hp]

/-- Neither what is pooled nor what is current nor what is open changes. -/
theorem Agrees.of_same (h : b.Agrees records) (sorted : b'.pools.Sorted)
    (pooled : ∀ a, b'.pools.proxy? a = b.pools.proxy? a)
    (hosts : ∀ a, b'.directory.host? a = b.directory.host? a) (opened : b'.isOpen = b.isOpen)
    (polls : b'.nextPoll = b.nextPoll) : b'.Agrees records :=
  h.of_fewer sorted (fun a => by rw [pooled, hosts, opened, h.pooled])
    (fun hcur => by rwa [hosts] at hcur) polls (fun p _ => by rw [opened])

theorem Agrees.counters (h : b.Agrees records) (c : Counters) :
    Agrees { b with counters := c } records :=
  h.of_same h.sorted (fun _ => rfl) (fun _ => rfl) rfl rfl

theorem Agrees.setMailbox (h : b.Agrees records) {m : Mailbox}
    (hm : m.closed = (b.mailbox proxy).closed) : (b.setMailbox proxy m).Agrees records :=
  h.of_same h.sorted (fun _ => rfl) (fun _ => rfl) (isOpen_setMailbox hm) rfl

/-! ## Operations that keep both stores -/

theorem Agrees.setPools (h : b.Agrees records) {pools : Pools} (sorted : pools.Sorted)
    (same : ∀ a, pools.proxy? a = b.pools.proxy? a) : Agrees { b with pools } records :=
  h.of_same sorted same (fun _ => rfl) rfl rfl

theorem Agrees.borrow (h : b.Agrees records) (nat : NatClass) :
    (b.borrow nat).2.Agrees records := by
  show Agrees { b with pools := (b.pools.borrow nat).2 } records
  rcases Pools.borrow_cases h.sorted nat with ⟨heq, -⟩ | ⟨slot, -, -, hr⟩
  · rwa [heq]
  · exact h.setPools hr.sorted hr.proxy?

theorem Agrees.release (h : b.Agrees records) (addr : Address) :
    Agrees { b with pools := (b.pools.release addr).2 } records := by
  rcases Pools.release_cases h.sorted addr with ⟨heq, -⟩ | ⟨slot, -, -, -, hr⟩
  · rwa [heq]
  · exact h.setPools hr.sorted hr.proxy?

theorem Agrees.setSessions (h : b.Agrees records) (sessions : Sessions) :
    Agrees { b with sessions } records :=
  h.of_same h.sorted (fun _ => rfl) (fun _ => rfl) rfl rfl

theorem Agrees.notify (h : b.Agrees records) (cid : String) (action : SessionAction)
    (addr : Address) : (b.notify cid action addr).2.Agrees records := by
  simp only [Broker.notify]
  split
  · exact (h.release addr).setSessions _
  · exact h.setSessions _

theorem Agrees.submitAnswer (h : b.Agrees records) (sid answer : String) :
    (b.submitAnswer sid answer).2.Agrees records := by
  rw [Broker.submitAnswer]
  split
  · exact h
  · exact h.setMailbox (Mailbox.closed_answer ..)

theorem Agrees.bindAnswered (h : b.Agrees records) {request : ClientRequest}
    (hbind : b.bindAnswered request proxy = some b') : b'.Agrees records := by
  rw [Broker.bindAnswered] at hbind
  split at hbind
  · cases hbind
  · -- Only the session index and the sessions change.
    obtain rfl := Option.some.inj hbind
    exact h.of_same h.sorted (fun _ => rfl) (Directory.host?_consume _ _) rfl rfl

/-! ## Entering and forgetting records -/

theorem Agrees.register (h : b.Agrees records) (poll : Announcement) :
    (b.register poll).2.Agrees (records ++ [(b.register poll).1]) := by
  -- The number of the new poll is fresh, and so its mailbox is open.
  have hopen : b.isOpen (b.register poll).1 = true := h.fresh _ (Nat.le_refl _)
  refine
    { sorted := Pools.sorted_insert h.sorted _ _
      pooled := fun a => ?_
      current := fun {a p} hcur => ?_
      numbered := fun p hp => ?_
      polls := ?_
      fresh := fun p hp => h.fresh p (Nat.le_of_succ_le hp) }
  · simp only [Broker.register, Pools.proxy?, Pools.slot?_insert h.sorted, Directory.host?_insert]
    split
    · exact (Option.filter_some_pos hopen).symm
    · exact h.pooled a
  · simp only [Broker.register, Directory.host?_insert] at hcur
    split at hcur
    · next ha =>
      obtain rfl := Option.some.inj hcur
      exact ⟨ha.symm, List.mem_append_right _ (List.mem_singleton_self _)⟩
    · exact ⟨(h.current hcur).1, List.mem_append_left _ (h.current hcur).2⟩
  · -- The new record stands last, under the number of its poll.
    rcases List.mem_append.mp hp with hp | hp
    · have hget := h.numbered p hp
      rwa [List.getElem?_append_left (List.getElem?_eq_some_iff.mp hget).1]
    · obtain rfl := List.mem_singleton.mp hp
      show (records ++ [_])[b.nextPoll]? = _
      rw [← h.polls]
      exact List.getElem?_concat_length
  · rw [List.length_append, h.polls]
    rfl

theorem Agrees.removeHost (h : b.Agrees records) {addr : Address}
    (hgone : b.pools.proxy? addr = none) :
    Agrees { b with directory := (b.directory.removeHost addr).2 } records := by
  refine h.of_fewer h.sorted (fun a => ?_) (fun {a p} hcur => ?_) rfl (fun _ _ => rfl)
  · simp only [Directory.host?_removeHost]
    split
    · next ha => rw [ha, hgone]; rfl
    · exact h.pooled a
  · exact Directory.host?_of_removeHost hcur

theorem Agrees.giveBack (h : b.Agrees records) (proxy : Proxy) :
    (b.giveBack proxy).Agrees records := by
  rw [Broker.giveBack]
  split
  · exact h
  · next hcurrent =>
    split
    · next hclosed =>
      -- The record at the host is the one whose mailbox is closed, so it is not pooled.
      refine h.removeHost ?_
      obtain ⟨current, hcur, hpoll⟩ := Directory.isCurrent_iff.mp (by simpa using hcurrent)
      have hopen : b.isOpen current = false := by
        rw [isOpen, mailbox, hpoll, ← mailbox, hclosed]
        rfl
      rw [h.pooled, hcur, Option.filter_some_neg (by simp [hopen])]
    · exact h.release _

theorem Agrees.concludeMatch (h : b.Agrees records) (request : ClientRequest) (proxy : Proxy)
    (reply : Reply) : (b.concludeMatch request proxy reply).2.Agrees records := by
  cases reply with
  | answered answer =>
    simp only [Broker.concludeMatch]
    split
    · next hbind => exact (h.bindAnswered hbind).counters _
    · exact h.counters _
  | failed e => exact (h.giveBack proxy).counters _
  | timedOut => exact (h.giveBack proxy).counters _

/-! ## The end of a poll -/

theorem Agrees.lt_nextPoll (h : b.Agrees records) {p : Proxy} (hp : p ∈ records) :
    p.poll < b.nextPoll := by
  rw [← h.polls]
  exact (List.getElem?_eq_some_iff.mp (h.numbered p hp)).1

/-- At a host of which a record is not the current one, its mailbox shows nowhere. -/
theorem Agrees.filter_closeMailbox (h : b.Agrees records) (hp : proxy ∈ records) {a : Address}
    (ha : b.directory.host? a ≠ some proxy) :
    (b.directory.host? a).filter (b.closeMailbox proxy).2.isOpen =
      (b.directory.host? a).filter b.isOpen := by
  cases hcur : b.directory.host? a with
  | none => rfl
  | some p =>
    -- The current record is another poll, and keeps its mailbox.
    have hpoll : p.poll ≠ proxy.poll := fun heq =>
      ha (by rw [hcur, h.eq_of_poll (h.current hcur).2 hp heq])
    rw [Option.filter_some, Option.filter_some, isOpen_closeMailbox]
    simp [hpoll]

/-- A record whose poll has ended is not pooled, whether or not it is still the current
one. -/
theorem Agrees.endPoll (h : b.Agrees records) (hp : proxy ∈ records) (polled : Option Offer) :
    (b.endPoll proxy polled).2.Agrees records := by
  -- Polls to come are not the one that ends.
  have hfresh : ∀ p, b.nextPoll ≤ p.poll → (b.closeMailbox proxy).2.isOpen p = b.isOpen p := by
    intro p hle
    have hlt := h.lt_nextPoll hp
    have hpoll : p.poll ≠ proxy.poll := by omega
    simp [isOpen_closeMailbox, hpoll]
  have hclosed : (b.closeMailbox proxy).2.isOpen proxy = false := by simp [isOpen_closeMailbox]
  simp only [Broker.endPoll, withdraw]
  split
  · next hcurrent =>
    have hcur : b.directory.host? proxy.addr = some proxy := (h.isCurrent_iff hp).mp hcurrent
    have hout : (b.pools.remove proxy.addr).2.proxy? proxy.addr = none := by
      rw [Pools.proxy?_eq_none_iff, Pools.slot?_remove h.sorted, if_pos rfl]
    -- It leaves the pools; only its own mailbox has changed, so nothing else has to leave.
    have hwithdrawn : Agrees
        { (b.closeMailbox proxy).2 with pools := (b.pools.remove proxy.addr).2 } records := by
      refine h.of_fewer (Pools.sorted_remove h.sorted _) ?_ id rfl hfresh
      intro a
      by_cases ha : a = proxy.addr
      · subst ha
        have hhere : (b.directory.host? proxy.addr).filter (b.closeMailbox proxy).2.isOpen =
            none := by
          rw [hcur, Option.filter_some_neg (by simp [hclosed])]
        exact hout.trans hhere.symm
      · have haway : b.directory.host? a ≠ some proxy := fun hat => ha (h.current hat).1.symm
        have hrest : (b.pools.remove proxy.addr).2.proxy? a = b.pools.proxy? a := by
          rw [Pools.proxy?, Pools.proxy?, Pools.slot?_remove h.sorted, if_neg ha]
        exact (hrest.trans (h.pooled a)).trans (h.filter_closeMailbox hp haway).symm
    split
    · exact hwithdrawn
    · exact hwithdrawn.removeHost hout
  · next hcurrent =>
    -- A record that was replaced is current nowhere, and so it is not pooled.
    have hcur : ∀ a, b.directory.host? a ≠ some proxy := fun a hat =>
      hcurrent ((h.isCurrent_iff hp).mpr ((h.current hat).1 ▸ hat))
    exact h.of_fewer h.sorted
      (fun a => (h.pooled a).trans (h.filter_closeMailbox hp (hcur a)).symm) id rfl hfresh

/-! ## A rescale -/

theorem Agrees.relocate (h : b.Agrees records) (he : b.sessions.Exact) (retiring : List Address) :
    (b.relocate retiring).2.2.Agrees records := by
  have hmoves := Relocation.start_moves h.sorted he retiring
  have hready := (Relocation.ready_start h.sorted he retiring).moves hmoves
  have hpooled := proxy?_relocate h.sorted he retiring
  rw [relocate_eq] at hpooled ⊢
  refine h.of_fewer hready.sorted (fun a => ?_) (fun {a p} hcur => ?_) rfl (fun _ _ => rfl)
  · -- Moves change loads only, so what is pooled is what did not retire.
    rw [hpooled]
    show _ = (Directory.host? _ a).filter b.isOpen
    rw [Directory.host?_removeAll]
    split
    · rfl
    · exact h.pooled a
  · rw [Directory.host?_removeAll] at hcur
    split at hcur
    · cases hcur
    · exact hcur

end

end Broker

end RelayBroker
