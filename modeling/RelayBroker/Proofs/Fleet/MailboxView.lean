/-
  RelayBroker.Proofs.Fleet.MailboxView

  What the operations on a mailbox do: whether it stays open, what an accepted offer, an
  answer and a glance leave, and where the next answer goes. An answer never goes to a
  ticket on which nobody waits, because the slot follows the ticket that waits
  (`Directed`).
-/

import RelayBroker.Fleet.Mailbox

namespace RelayBroker

/-- Whether somebody waits on a ticket. -/
def Ticket.live : Ticket → Bool
  | .waiting | .answered _ => true
  | .spent | .abandoned => false

namespace Mailbox

/-- The offer is parked still, or the mailbox is closed: it takes no other one. -/
def Full (m : Mailbox) : Prop :=
  m.parked.isSome ∨ m.closed = true

/-! ## What the operations leave -/

theorem closed_post {m m' : Mailbox} {offer : Offer} {ticket : Nat}
    (h : m.post offer = .ok (ticket, m')) : m'.closed = m.closed := by
  simp only [post] at h
  split at h
  · cases h
  · split at h
    · cases h
    · split at h
      · cases h
      · cases h
        rfl

theorem closed_answer (m : Mailbox) (text : String) : (m.answer text).2.closed = m.closed := by
  rw [answer]
  split
  · rfl
  · split <;> rfl

theorem closed_check {m m' : Mailbox} {ticket : Nat} {glance : Glance}
    (h : m.check ticket = (glance, m')) : m'.closed = m.closed := by
  obtain rfl : (m.check ticket).2 = m' := by rw [h]
  rw [check]
  split <;> rfl

section
variable {m m' : Mailbox}

theorem eq_of_post {offer : Offer} {ticket : Nat} (h : m.post offer = .ok (ticket, m')) :
    ¬ m.Full ∧ ticket = m.tickets.length ∧ m' = { m with
      parked := some offer
      slot := some m.tickets.length
      tickets := m.tickets ++ [.waiting] } := by
  simp only [post] at h
  split at h
  · cases h
  · next hopen =>
    split at h
    · cases h
    · split at h
      · cases h
      · next hroom =>
        cases h
        exact ⟨fun hfull => hfull.elim hroom hopen, rfl, rfl⟩

theorem eq_of_answer {text : String} (h : m.answer text = (true, m')) :
    ∃ i, m.tickets[i]? = some .waiting ∧
      m' = { m with slot := none, tickets := m.tickets.set i (.answered text) } := by
  simp only [answer] at h
  split at h
  · cases h
  · next i hslot =>
    split at h
    · next hwaiting =>
      cases h
      exact ⟨i, hwaiting, rfl⟩
    · cases h

/-- An answer that reaches nobody changes nothing but where the next one would go. -/
theorem eq_of_lost {text : String} (h : m.answer text = (false, m')) :
    ∃ slot, m' = { m with slot := slot } := by
  simp only [answer] at h
  split at h
  · cases h
    exact ⟨m.slot, rfl⟩
  · split at h
    · cases h
    · cases h
      exact ⟨none, rfl⟩

theorem check_of_answered {i : Nat} {text : String}
    (h : m.tickets[i]? = some (.answered text)) :
    m.check i = (.answer text, { m with tickets := m.tickets.set i .spent }) := by
  simp only [check, h]

theorem eq_of_check {i : Nat} {text : String} (h : m.check i = (.answer text, m')) :
    m.tickets[i]? = some (.answered text) ∧ m' = { m with tickets := m.tickets.set i .spent } := by
  simp only [check] at h
  split at h
  · split at h <;> cases h
  · next hfound =>
    cases h
    exact ⟨hfound, rfl⟩
  all_goals cases h

end

/-! ## Where the next answer goes -/

/-- The next answer goes to whatever ticket waits. -/
def Directed (m : Mailbox) : Prop :=
  ∀ i, m.tickets[i]? = some .waiting → m.slot = some i

section
variable {m m' : Mailbox}

theorem directed_empty : empty.Directed := nofun

theorem Directed.post (h : m.Directed) {offer : Offer} {ticket : Nat}
    (hpost : m.post offer = .ok (ticket, m')) : m'.Directed := by
  have hnobody : ∀ i : Nat, m.tickets[i]? ≠ some .waiting := by
    -- The offer would have been refused.
    intro i hi
    have hawaits : m.awaitsAnswer = true := by simp [awaitsAnswer, h i hi, hi]
    rw [Mailbox.post, hawaits] at hpost
    split at hpost <;> cases hpost
  obtain ⟨-, rfl, rfl⟩ := eq_of_post hpost
  intro i hi
  rcases Nat.lt_or_ge i m.tickets.length with hlt | hge
  · rw [List.getElem?_append_left hlt] at hi
    exact absurd hi (hnobody i)
  · have hlast := (List.getElem?_eq_some_iff.mp hi).1
    rw [List.length_append, List.length_singleton] at hlast
    exact congrArg some (by omega)

theorem Directed.answer (h : m.Directed) (text : String) : (m.answer text).2.Directed := by
  rw [Mailbox.answer]
  split
  · exact h
  · next k hslot =>
    split
    · -- The only ticket that waits is answered.
      intro i hi
      rw [List.getElem?_set] at hi
      split at hi
      · split at hi <;> cases hi
      · next hne => exact absurd (Option.some.inj (hslot.symm.trans (h i hi))) hne
    · next hnot =>
      intro i hi
      have hi : m.tickets[i]? = some .waiting := hi
      obtain rfl : k = i := Option.some.inj (hslot.symm.trans (h i hi))
      exact absurd hi hnot

/-- A ticket that is settled waits no more. -/
theorem Directed.settle (h : m.Directed) {i : Nat} {ticket : Ticket} (hdead : ticket ≠ .waiting) :
    Directed { m with tickets := m.tickets.set i ticket } := by
  intro j hj
  rw [List.getElem?_set] at hj
  split at hj
  · split at hj
    · exact absurd (Option.some.inj hj) hdead
    · cases hj
  · exact h j hj

end

end Mailbox

end RelayBroker
