/-
  RelayBroker.Proofs.Fleet.MailboxRuns

  A mailbox through any operations: offers that come, polls that look for one, a poll that
  ends, answers, and clients that look at their tickets or leave.

  Offers are accounted for step by step: what was parked, with what an operation brings, is
  what it hands out with what is parked then (`parked_step`). What an operation does to one
  ticket is said once, by `Passes`; who gets which answer follows from it, forwards
  (`answered_run`) and backwards (`answered_before`).

  Main statement: `offers_kept_answers_directed`.
-/

import Mathlib.Data.List.Induction
import RelayBroker.Proofs.Fleet.MailboxView

namespace RelayBroker.Mailbox

/-! ## Runs -/

/-- What is done to a mailbox. -/
inductive Op where
  | post (offer : Offer)
  | take
  | close
  | answer (text : String)
  | check (ticket : Nat)
  | abandon (ticket : Nat)
deriving DecidableEq

/-- The mailbox after one operation. An offer that is refused changes nothing. -/
def step (m : Mailbox) : Op → Mailbox
  | .post offer =>
    match m.post offer with
    | .ok (_, m) => m
    | .error _ => m
  | .take => m.take.2
  | .close => m.close.2
  | .answer text => (m.answer text).2
  | .check ticket => (m.check ticket).2
  | .abandon ticket => m.abandon ticket

/-- The mailbox after some operations. -/
def run (ops : List Op) : Mailbox :=
  ops.foldl step empty

/-- The offer that an operation brings in. -/
def accepted? (m : Mailbox) : Op → Option Offer
  | .post offer =>
    match m.post offer with
    | .ok _ => some offer
    | .error _ => none
  | .take | .close | .answer _ | .check _ | .abandon _ => none

/-- The offer that an operation hands out. -/
def handed? (m : Mailbox) : Op → Option Offer
  | .take => m.take.1
  | .close => m.close.1
  | .post _ | .answer _ | .check _ | .abandon _ => none

/-- The steps from a mailbox on: each operation with the mailbox before it. -/
def traceFrom : Mailbox → List Op → List (Mailbox × Op)
  | _, [] => []
  | m, op :: ops => (m, op) :: traceFrom (m.step op) ops

/-- The offers that were accepted, in order. -/
def accepted (ops : List Op) : List Offer :=
  (traceFrom empty ops).filterMap fun (m, op) => m.accepted? op

/-- The offers that were handed out, in order. -/
def handed (ops : List Op) : List Offer :=
  (traceFrom empty ops).filterMap fun (m, op) => m.handed? op

/-- Somebody waits on a ticket, and has no answer yet. -/
def Waits (m : Mailbox) (k : Nat) : Prop :=
  m.tickets[k]? = some .waiting

instance (m : Mailbox) (k : Nat) : Decidable (m.Waits k) :=
  inferInstanceAs (Decidable (m.tickets[k]? = some .waiting))

theorem run_append (ops : List Op) (op : Op) : run (ops ++ [op]) = (run ops).step op := by
  rw [run, List.foldl_append]
  rfl

theorem traceFrom_append (m : Mailbox) (ops : List Op) (op : Op) :
    traceFrom m (ops ++ [op]) = traceFrom m ops ++ [(ops.foldl step m, op)] := by
  induction ops generalizing m with
  | nil => rfl
  | cons first ops ih =>
    rw [List.cons_append, traceFrom, ih]
    rfl

theorem accepted_append (ops : List Op) (op : Op) :
    accepted (ops ++ [op]) = accepted ops ++ ((run ops).accepted? op).toList := by
  rw [accepted, traceFrom_append, List.filterMap_append]
  rfl

theorem handed_append (ops : List Op) (op : Op) :
    handed (ops ++ [op]) = handed ops ++ ((run ops).handed? op).toList := by
  rw [handed, traceFrom_append, List.filterMap_append]
  rfl

/-! ## Offers -/

/-- No offer gets lost in an operation: what was parked and what comes in is handed out or
parked then, in this order. -/
theorem parked_step (m : Mailbox) (op : Op) :
    m.parked.toList ++ (m.accepted? op).toList =
      (m.handed? op).toList ++ (m.step op).parked.toList := by
  cases op with
  | post offer =>
    cases hpost : m.post offer with
    | ok given =>
      obtain ⟨hroom, -, hm⟩ := eq_of_post hpost
      have hempty : m.parked = none := by
        rw [← Option.not_isSome_iff_eq_none]
        exact fun hparked => hroom (.inl hparked)
      simp only [accepted?, step, handed?, hpost, hempty, hm]
    | error e =>
      simp only [accepted?, step, handed?, hpost]
      exact List.append_nil _
  | take | close => rfl
  | abandon ticket => exact List.append_nil _
  | answer text =>
    refine (List.append_nil _).trans (congrArg Option.toList ?_)
    rw [step, answer]
    split
    · rfl
    · split <;> rfl
  | check ticket =>
    refine (List.append_nil _).trans (congrArg Option.toList ?_)
    rw [step, check]
    split <;> rfl

/-- The accepted offers are those handed out, in order, and the one that is parked. -/
theorem accepted_eq (ops : List Op) : accepted ops = handed ops ++ (run ops).parked.toList := by
  induction ops using List.reverseRecOn with
  | nil => rfl
  | append_singleton ops op ih =>
    rw [accepted_append, handed_append, run_append, ih, List.append_assoc, parked_step,
      List.append_assoc]

theorem closed_step (m : Mailbox) (op : Op) :
    (m.step op).closed = (m.closed || decide (op = .close)) := by
  cases op with
  | post offer =>
    rw [step]
    split
    · next hpost => simp [closed_post hpost]
    · simp
  | take | abandon ticket => simp [step, take, abandon]
  | close => simp [step, close]
  | answer text => simp [step, closed_answer]
  | check ticket =>
    have hkept : (m.check ticket).2.closed = m.closed := closed_check rfl
    simp [step, hkept]

theorem closed_run (ops : List Op) : (run ops).closed = true ↔ .close ∈ ops := by
  induction ops using List.reverseRecOn with
  | nil => simp [run, empty]
  | append_singleton ops op ih =>
    rw [run_append, closed_step, Bool.or_eq_true, ih, decide_eq_true_iff, List.mem_append,
      List.mem_singleton, eq_comm]

/-! ## Tickets -/

/-- What an operation makes of a ticket. -/
inductive Passes (op : Op) (k : Nat) : Option Ticket → Option Ticket → Prop
  | same (ticket : Option Ticket) : Passes op k ticket ticket
  | given : Passes op k none (some .waiting)
  | answered (text : String) (here : op = .answer text) :
      Passes op k (some .waiting) (some (.answered text))
  | collected (text : String) (here : op = .check k) :
      Passes op k (some (.answered text)) (some .spent)
  | left (ticket : Ticket) (here : op = .abandon k) :
      Passes op k (some ticket) (some .abandoned)

/-- An operation that settles one ticket leaves the others alone. -/
theorem passes_set {op : Op} {tickets : List Ticket} {i k : Nat} {old new : Ticket}
    (hold : tickets[i]? = some old) (hi : Passes op i (some old) (some new)) :
    Passes op k tickets[k]? (tickets.set i new)[k]? := by
  rw [List.getElem?_set]
  split
  · next hik =>
    obtain rfl := hik
    rw [if_pos (List.getElem?_eq_some_iff.mp hold).1, hold]
    exact hi
  · exact .same _

theorem passes_step (m : Mailbox) (op : Op) (k : Nat) :
    Passes op k m.tickets[k]? (m.step op).tickets[k]? := by
  cases op with
  | post offer =>
    rw [step]
    split
    · next hpost =>
      obtain ⟨-, rfl, rfl⟩ := eq_of_post hpost
      rw [List.getElem?_append]
      split
      · exact .same _
      · next hge =>
        rw [List.getElem?_eq_none (Nat.le_of_not_lt hge), List.getElem?_singleton]
        split
        · exact .given
        · exact .same _
    · exact .same _
  | take | close => exact .same _
  | answer text =>
    rw [step]
    cases h : m.answer text with
    | mk delivered m' =>
      cases delivered with
      | true =>
        obtain ⟨i, hwaits, rfl⟩ := eq_of_answer h
        exact passes_set hwaits (.answered text rfl)
      | false =>
        obtain ⟨slot, rfl⟩ := eq_of_lost h
        exact .same _
  | check ticket =>
    rw [step, check]
    split
    · exact .same _
    · next text hanswered => exact passes_set hanswered (.collected text rfl)
    all_goals exact .same _
  | abandon ticket =>
    rw [step, abandon]
    cases h : m.tickets[ticket]? with
    | some old => exact passes_set h (.left old rfl)
    | none =>
      rw [List.set_eq_of_length_le (List.getElem?_eq_none_iff.mp h)]
      exact .same _

theorem directed_step {m : Mailbox} (h : m.Directed) (op : Op) : (m.step op).Directed := by
  cases op with
  | post offer =>
    rw [step]
    split
    · next hpost => exact h.post hpost
    · exact h
  | take | close => exact h
  | answer text => exact h.answer text
  | check ticket =>
    rw [step, check]
    split
    · exact h
    · exact h.settle (by decide)
    all_goals exact h
  | abandon ticket => exact h.settle (by decide)

theorem directed_run (ops : List Op) : (run ops).Directed := by
  induction ops using List.reverseRecOn with
  | nil => exact directed_empty
  | append_singleton ops op ih =>
    rw [run_append]
    exact directed_step ih op

section
variable {m : Mailbox} {j k : Nat}

theorem Directed.eq_of_waits (h : m.Directed) (hj : m.Waits j) (hk : m.Waits k) : j = k :=
  Option.some.inj ((h j hj).symm.trans (h k hk))

theorem Directed.answer_of_waits (h : m.Directed) (hk : m.Waits k) (text : String) :
    m.answer text =
      (true, { m with slot := none, tickets := m.tickets.set k (.answered text) }) := by
  rw [Waits] at hk
  simp only [Mailbox.answer, h k hk, hk, if_true]

theorem Directed.check_of_waits (h : m.Directed) (hk : m.Waits k) :
    m.check k = (.nothingYet, m) := by
  rw [Waits] at hk
  simp only [check, h k hk, hk, if_true]

/-- An answer is delivered exactly if somebody waits. -/
theorem Directed.answer_iff (h : m.Directed) (text : String) :
    (m.answer text).1 = true ↔ ∃ k, m.Waits k := by
  constructor
  · intro hdelivered
    obtain ⟨k, hwaits, -⟩ := eq_of_answer (Prod.ext hdelivered rfl)
    exact ⟨k, hwaits⟩
  · rintro ⟨k, hwaits⟩
    rw [h.answer_of_waits hwaits]

end

/-- An answer stays on its ticket until it is collected there or the client leaves. -/
theorem answered_run {ops : List Op} {k : Nat} {text : String}
    (h : (run ops).tickets[k]? = some (.answered text)) (more : List Op)
    (hcheck : .check k ∉ more) (habandon : .abandon k ∉ more) :
    (run (ops ++ more)).tickets[k]? = some (.answered text) := by
  induction more using List.reverseRecOn with
  | nil => rwa [List.append_nil]
  | append_singleton more op ih =>
    rw [List.mem_append, List.mem_singleton, not_or] at hcheck habandon
    have hbefore := ih hcheck.1 habandon.1
    have hpass := passes_step (run (ops ++ more)) op k
    rw [hbefore] at hpass
    rw [← List.append_assoc, run_append]
    generalize ((run (ops ++ more)).step op).tickets[k]? = after at hpass ⊢
    cases hpass with
    | same => rfl
    | collected _ here => exact absurd here.symm hcheck.2
    | left _ here => exact absurd here.symm habandon.2

/-- An answer on a ticket came while somebody waited on that ticket. -/
theorem answered_before {ops : List Op} {k : Nat} {text : String}
    (h : (run ops).tickets[k]? = some (.answered text)) :
    ∃ before, before ++ [.answer text] <+: ops ∧ (run before).Waits k := by
  induction ops using List.reverseRecOn with
  | nil => cases h
  | append_singleton ops op ih =>
    have hpass := passes_step (run ops) op k
    rw [← run_append, h] at hpass
    generalize hold : (run ops).tickets[k]? = old at hpass
    cases hpass with
    | same =>
      obtain ⟨before, hpre, hwaits⟩ := ih hold
      exact ⟨before, hpre.trans (List.prefix_append ..), hwaits⟩
    | answered _ here => exact ⟨ops, here ▸ List.prefix_refl _, hold⟩

/-- **No offer is lost and no answer goes astray.** After any operations on a mailbox the
accepted offers are those handed out, in order, and at most the one that is parked. Once
closed the mailbox refuses every offer, and a refused offer changes nothing. At most one
client waits for an answer. An answer is delivered exactly if one does: that client finds it
on its ticket whenever it looks, and the other tickets stay as they are; whatever answer is
found on a ticket came while the client waited on it. A client that waits, or has its answer,
never finds its offer dropped. -/
theorem offers_kept_answers_directed (ops : List Op) :
    let m := run ops
    accepted ops = handed ops ++ m.parked.toList ∧
    (.close ∈ ops → ∀ offer, m.post offer = .error (.signaling "proxy is no longer polling")) ∧
    (∀ offer e, m.post offer = .error e → run (ops ++ [.post offer]) = m) ∧
    (∀ j k, m.Waits j → m.Waits k → j = k) ∧
    (∀ text, (m.answer text).1 = true ↔ ∃ k, m.Waits k) ∧
    (∀ text, (m.answer text).1 = false → (m.answer text).2.tickets = m.tickets) ∧
    (∀ k text, m.Waits k →
      (m.answer text).2.tickets = m.tickets.set k (.answered text) ∧
      ∀ more, .check k ∉ more → .abandon k ∉ more →
        ((run (ops ++ .answer text :: more)).check k).1 = .answer text) ∧
    (∀ k text, (m.check k).1 = .answer text →
      ∃ before, before ++ [.answer text] <+: ops ∧ (run before).Waits k) ∧
    (∀ k, m.Waits k → m.check k = (.nothingYet, m)) ∧
    ∀ k ticket, m.tickets[k]? = some ticket → ticket.live = true →
      (m.check k).1.ending? ≠ some (.error (.signaling "proxy dropped the offer")) := by
  intro m
  have hd : m.Directed := directed_run ops
  refine ⟨accepted_eq ops, ?_, ?_, fun j k => hd.eq_of_waits, hd.answer_iff, ?_, ?_, ?_,
    fun k => hd.check_of_waits, ?_⟩
  · intro hclose offer
    rw [post, (closed_run ops).mpr hclose, if_pos rfl]
  · intro offer e hrefused
    rw [run_append, step, hrefused]
  · intro text hlost
    have heq : m.answer text = (false, (m.answer text).2) := Prod.ext hlost rfl
    obtain ⟨slot, hm⟩ := eq_of_lost heq
    rw [hm]
  · intro k text hwaits
    have hanswer := hd.answer_of_waits hwaits text
    refine ⟨by rw [hanswer], fun more hcheck habandon => ?_⟩
    have hfound : (run (ops ++ [.answer text])).tickets[k]? = some (.answered text) := by
      rw [run_append, step, hanswer]
      exact List.getElem?_set_self (List.getElem?_eq_some_iff.mp hwaits).1
    have hkept := answered_run hfound more hcheck habandon
    rw [List.append_assoc] at hkept
    exact congrArg Prod.fst (check_of_answered hkept)
  · intro k text hlook
    exact answered_before (eq_of_check (Prod.ext hlook rfl)).1
  · intro k ticket hticket hlive
    cases ticket with
    | waiting =>
      simp [hd.check_of_waits hticket, Glance.ending?]
    | answered text =>
      simp [check_of_answered hticket, Glance.ending?]
    | spent | abandoned => cases hlive

/-- A client leaves before its offer is picked up, and another offer is posted after that. -/
def leftBehind : List Op :=
  [.post ⟨"", "v=0", "", "first"⟩, .abandon 0, .take, .post ⟨"", "v=0", "", "second"⟩]

/-- The answer goes to the second client, though the poll got the offer of the first, and the
second offer is handed back when the poll ends. -/
theorem second_client_answered :
    let m := run leftBehind
    m.Waits 1 ∧ accepted leftBehind = handed leftBehind ++ m.parked.toList ∧
      (handed leftBehind).map (·.cid) = ["first"] ∧ m.close.1.map (·.cid) = some "second" ∧
      (m.answer "late").1 = true ∧
      (m.answer "late").2.tickets = [.abandoned, .answered "late"] ∧
      ((run (leftBehind ++ [.answer "late", .close])).check 1).1 = .answer "late" := by
  intro m
  obtain ⟨haccepted, -, -, -, hdelivered, -, hanswer, -⟩ := offers_kept_answers_directed leftBehind
  have hwaits : m.Waits 1 := by decide
  obtain ⟨htickets, hfound⟩ := hanswer 1 "late" hwaits
  exact ⟨hwaits, haccepted, by decide, by decide, (hdelivered "late").mpr ⟨1, hwaits⟩,
    htickets, hfound [.close] (by decide) (by decide)⟩

end RelayBroker.Mailbox
