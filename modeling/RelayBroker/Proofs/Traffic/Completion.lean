/-
  RelayBroker.Proofs.Traffic.Completion

  What a rescale answers while everything else goes on. Once its sessions are moved, the
  call waits for its instructions, and any other events may come in between; none of them
  is a concern of this call (`Change.moving_cases`). So the call ends once each of its
  instructions is settled (`rescaleOutcome_ends`), and what it answers depends on the loop
  alone (`rescaleOutcome_reports`).
-/

import RelayBroker.Proofs.Traffic.Migration

namespace RelayBroker

theorem Broker.concludeRescale_fst (b : Broker) (retired : Nat) (migrations : List Migration)
    (stranded failed : Nat) :
    (b.concludeRescale retired migrations stranded failed).1 =
      if 0 < stranded then .error (.partialMigration migrations.length stranded)
      else .ok ⟨retired, migrations, failed⟩ := by
  rw [concludeRescale]
  split <;> rfl

namespace History

/-- The outcome of a call that waits, once one of the events that come ends it. -/
def outcomeOf (setup : Setup) (call : Nat) : List Event → History → Option Outcome
  | [], _ => none
  | e :: later, s =>
    if e.call? = some call ∧ (s.step setup e).1.isSome then (s.step setup e).1
    else outcomeOf setup call later (s.step setup e).2

/-- What a rescale answers; `later` are the events that come after its sessions are moved,
its own instructions and those of anybody else. Without an outcome, some of its
instructions are still under way. -/
def rescaleOutcome (setup : Setup) (s : History) (retiring incoming : List Address)
    (later : List Event) : Option Outcome :=
  match s.step setup (.rescale retiring incoming) with
  | (some outcome, _) => some outcome
  | (none, s') => outcomeOf setup s.traffic.nextCall later s'

section
variable {setup : Setup} {s : History} {e : Event} {n : Nat} {m : Moving} {later : List Event}

/-! ## A call that waits -/

/-- An event that is no concern of a call is passed over. -/
theorem outcomeOf_cons_of_not (hnot : ¬ (e.call? = some n ∧ (s.step setup e).1.isSome)) :
    outcomeOf setup n (e :: later) s = outcomeOf setup n later (s.step setup e).2 := by
  rw [outcomeOf, if_neg hnot]

/-- The event that ends a call gives its outcome. -/
theorem outcomeOf_cons_of_ends {outcome : Outcome} (goesOn : e.call? = some n)
    (ends : (s.step setup e).1 = some outcome) :
    outcomeOf setup n (e :: later) s = some outcome := by
  rw [outcomeOf, if_pos ⟨goesOn, by rw [ends]; rfl⟩, ends]

/-- Whatever comes in between, a rescale that waits reports what it has to report. -/
theorem outcomeOf_reports (h : s.Sound) (hn : s.call? n = some (.moving m)) {outcome : Outcome}
    (ho : outcomeOf setup n later s = some outcome) : Reports m (some outcome) := by
  -- The induction is on the events to come; the rescale that waits has the same to report
  -- after each of them.
  induction later generalizing s m with
  | nil => cases ho
  | cons e later ih =>
    have hc := step_change setup s e
    have hsound := h.change hc
    rcases hc.moving_cases h hn with ⟨hsame, hnot⟩ | ⟨_, _, rfl, -, ⟨hnone, hnext⟩ | ⟨-, hended⟩⟩
    · rw [outcomeOf_cons_of_not hnot] at ho
      exact ih hsound hsame ho
    · rw [outcomeOf_cons_of_not (by simp [hnone])] at ho
      exact (reports_settleOne ..).mp (ih hsound hnext ho)
    · obtain ⟨b, failed, hreport⟩ := hended
      rw [outcomeOf_cons_of_ends rfl hreport] at ho
      exact ⟨b, failed, ho.symm⟩

/-- An instruction that is under way is counted when it is settled, and the last one ends the
rescale. -/
theorem step_settle_of_sent (setup : Setup) (hn : s.call? n = some (.moving m)) {position : Nat}
    (sent : position ∈ m.underWay) (delivered : Bool) :
    s.step setup (.settle n position delivered) =
      let counted := s.broker.countTransfer delivered
      let m' := settleOne m position delivered
      let concluded := counted.concludeRescale m'.retired m'.migrations m'.stranded m'.failed
      if m'.underWay = [] then
        (some (.rescaled concluded.1), (s.setBroker concluded.2).endCall n)
      else (none, (s.setBroker counted).setCall n (.moving m')) := by
  have hget : s.traffic.calls.get? n = some (.moving m) := hn
  have hin : m.underWay.contains position = true := List.contains_iff_mem.mpr sent
  by_cases hlast : m.underWay.erase position = []
  · simp only [step, Traffic.settleTransfer, hget, hin, settleOne, hlast, List.isEmpty_nil, if_true]
    rfl
  · have hothers : (m.underWay.erase position).isEmpty = false :=
      List.isEmpty_eq_false_iff.mpr hlast
    simp only [step, Traffic.settleTransfer, hget, hin, settleOne, hlast, hothers, if_true,
      if_false, Bool.false_eq_true]
    rfl

/-- An instruction that is under way is settled, and if it is the last one, the rescale
ends. -/
theorem settle_of_sent (setup : Setup) (hn : s.call? n = some (.moving m)) {position : Nat}
    (sent : position ∈ m.underWay) (delivered : Bool) :
    (∃ o, (s.step setup (.settle n position delivered)).1 = some o) ∨
      (s.step setup (.settle n position delivered)).1 = none ∧
        (s.step setup (.settle n position delivered)).2.call? n =
          some (.moving (settleOne m position delivered)) ∧
        (settleOne m position delivered).underWay ≠ [] := by
  have hstep := step_settle_of_sent setup hn sent delivered
  by_cases hlast : (settleOne m position delivered).underWay = []
  · simp only [if_pos hlast] at hstep
    exact .inl ⟨_, congrArg Prod.fst hstep⟩
  · simp only [if_neg hlast] at hstep
    rw [hstep]
    exact .inr ⟨rfl, (call?_setCall ..).trans (if_pos rfl), hlast⟩

/-- Whatever comes in between, a rescale that waits ends once each instruction that is
under way is settled. -/
theorem outcomeOf_ends (h : s.Sound) (hn : s.call? n = some (.moving m)) (hnd : m.underWay.Nodup)
    (hwaits : m.underWay ≠ [])
    (hall : ∀ position ∈ m.underWay, ∃ delivered, Event.settle n position delivered ∈ later) :
    ∃ outcome, outcomeOf setup n later s = some outcome := by
  induction later generalizing s m with
  | nil =>
    obtain ⟨position, hin⟩ := List.exists_mem_of_ne_nil _ hwaits
    obtain ⟨delivered, hnone⟩ := hall position hin
    exact absurd hnone List.not_mem_nil
  | cons e later ih =>
    have hc := step_change setup s e
    have hsound := h.change hc
    by_cases hsettles : ∃ position delivered,
        e = .settle n position delivered ∧ position ∈ m.underWay
    · obtain ⟨position, delivered, rfl, sent⟩ := hsettles
      rcases settle_of_sent setup hn sent delivered with ⟨o, heq⟩ | ⟨heq, hnext, hmore⟩
      · exact ⟨o, outcomeOf_cons_of_ends rfl heq⟩
      · rw [outcomeOf_cons_of_not (by simp [heq])]
        refine ih hsound hnext (hnd.erase position) hmore ?_
        intro p hp
        -- What is still under way is another instruction than the one that was settled.
        have hother := hnd.mem_erase_iff.mp hp
        obtain ⟨d, hd⟩ := hall p hother.2
        refine ⟨d, (List.mem_cons.mp hd).resolve_left fun heq => hother.1 ?_⟩
        cases heq
        rfl
    · rcases hc.moving_cases h hn with ⟨hsame, hnot⟩ | ⟨p, d, rfl, sent, -⟩
      · rw [outcomeOf_cons_of_not hnot]
        refine ih hsound hsame hnd hwaits ?_
        intro p hp
        obtain ⟨d, hd⟩ := hall p hp
        refine ⟨d, (List.mem_cons.mp hd).resolve_left fun heq => hsettles ?_⟩
        exact ⟨p, d, heq.symm, hp⟩
      · exact absurd ⟨p, d, rfl, sent⟩ hsettles

/-! ## The whole call -/

theorem call?_wait_last (s : History) (b : Broker) (c : Call) :
    ((s.setBroker b).wait c).call? s.traffic.nextCall = some c := by
  rw [call?_wait]
  exact if_pos rfl

variable {retiring : List Address}

/-- What a rescale answers depends on what its loop did, and on how many instructions
were not delivered. -/
theorem rescaleOutcome_reports (h : s.Sound) {incoming : List Address} {outcome : Outcome}
    (ho : s.rescaleOutcome setup retiring incoming later = some outcome) :
    ∃ failed, outcome = .rescaled (if 0 < (s.broker.relocate retiring).2.1 then
      .error (.partialMigration (s.broker.relocate retiring).1.length
        (s.broker.relocate retiring).2.1)
      else .ok ⟨retiring.length, (s.broker.relocate retiring).1, failed⟩) := by
  have hc := step_change setup s (.rescale retiring incoming)
  have hsound := h.change hc
  rw [rescaleOutcome] at ho
  generalize s.step setup (.rescale retiring incoming) = r at hc ho hsound
  obtain ⟨o, s'⟩ := r
  rcases hc.rescale_cases with ⟨rfl, rfl, rfl⟩ | ⟨stranded, b, relocated, rfl, rfl⟩ |
    ⟨migrations, stranded, b, relocated, -, rfl, rfl⟩
  · obtain rfl := Option.some.inj ho
    exact ⟨0, rfl⟩
  · obtain rfl := Option.some.inj ho
    rw [relocated, Broker.concludeRescale_fst]
    exact ⟨0, rfl⟩
  · obtain ⟨b', failed, hreport⟩ := outcomeOf_reports hsound (call?_wait_last ..) ho
    rw [Broker.concludeRescale_fst] at hreport
    rw [relocated]
    exact ⟨failed, Option.some.inj hreport⟩

/-- A rescale ends once all its instructions are settled. -/
theorem rescaleOutcome_ends (incoming : List Address) (h : s.Sound)
    (settled : ∀ i < (s.broker.relocate retiring).1.length,
      ∃ delivered, Event.settle s.traffic.nextCall i delivered ∈ later) :
    ∃ outcome, s.rescaleOutcome setup retiring incoming later = some outcome := by
  have hc := step_change setup s (.rescale retiring incoming)
  have hsound := h.change hc
  rw [rescaleOutcome]
  generalize s.step setup (.rescale retiring incoming) = r at hc hsound
  obtain ⟨o, s'⟩ := r
  rcases hc.rescale_cases with ⟨rfl, rfl, rfl⟩ | ⟨stranded, b, relocated, rfl, rfl⟩ |
    ⟨migrations, stranded, b, relocated, moved, rfl, rfl⟩
  · exact ⟨_, rfl⟩
  · exact ⟨_, rfl⟩
  · rw [relocated] at settled
    -- There is a session that was moved, and so an instruction that is under way.
    have hsent : List.range migrations.length ≠ [] := by
      rw [ne_eq, List.range_eq_nil, List.length_eq_zero_iff]
      exact moved
    exact outcomeOf_ends hsound (call?_wait_last ..) List.nodup_range hsent
      fun i hi => settled i (List.mem_range.mp hi)

end

end History

end RelayBroker
