/-
  RelayBroker.Proofs.Traffic.Settlement

  A rescale as one call, with nothing else in between: its hosts are retired and their
  sessions moved, and then its instructions are settled, in any order, each delivered or
  not (`rescale`). Settling touches neither pools nor directory nor sessions, so what the
  call leaves behind is what the loop arrived at (`rescale_stores`). Its outcome is that of
  a rescale with no other events than its own instructions (`rescale_fst`): the call ends
  once every instruction is settled (`rescale_ends`), and what it answers depends on the
  loop alone (`rescale_reports`).
-/

import RelayBroker.Proofs.Traffic.Completion
import RelayBroker.Proofs.Traffic.Succession

namespace RelayBroker

namespace History

/-- Settles the instructions of a rescale one after the other, each with whether it was
delivered, until the rescale ends. -/
def settleAll (setup : Setup) (call : Nat) :
    List (Nat × Bool) → History → Option Outcome × History
  | [], s => (none, s)
  | (position, delivered) :: fates, s =>
    match s.step setup (.settle call position delivered) with
    | (some outcome, s) => (some outcome, s)
    | (none, s) => settleAll setup call fates s

/-- A whole rescale; `fates` says in which order its instructions are settled, and how.
Without an outcome, some of them are still under way. -/
def rescale (setup : Setup) (s : History) (retiring incoming : List Address)
    (fates : List (Nat × Bool)) : Option Outcome × History :=
  match s.step setup (.rescale retiring incoming) with
  | (some outcome, s') => (some outcome, s')
  | (none, s') => settleAll setup s.traffic.nextCall fates s'

section
variable {setup : Setup} {s : History}

/-! ## Instructions -/

theorem stores_settle (setup : Setup) (s : History) (call position : Nat) (delivered : Bool) :
    (s.step setup (.settle call position delivered)).2.broker.SameStores s.broker := by
  have hc := step_change setup s (.settle call position delivered)
  generalize (s.step setup (.settle call position delivered)).1 = o at hc
  generalize (s.step setup (.settle call position delivered)).2 = s' at hc
  cases hc with
  | idle => exact .refl _
  | polled glances => cases glances
  | collected glances => cases glances
  | settled => exact ⟨rfl, rfl, rfl⟩
  | settledLast =>
    exact (Broker.sameStores_concludeRescale (s.broker.countTransfer delivered) ..).trans
      ⟨rfl, rfl, rfl⟩

theorem settleAll_stores (setup : Setup) (call : Nat) (fates : List (Nat × Bool)) (s : History) :
    (settleAll setup call fates s).2.broker.SameStores s.broker := by
  induction fates generalizing s with
  | nil => exact .refl _
  | cons fate fates ih =>
    have hstep := stores_settle setup s call fate.1 fate.2
    rw [settleAll]
    split
    · next heq =>
      rw [heq] at hstep
      exact hstep
    · next s' heq =>
      rw [heq] at hstep
      exact (ih s').trans hstep

theorem settleAll_sound (h : s.Sound) (call : Nat) (fates : List (Nat × Bool)) :
    (settleAll setup call fates s).2.Sound := by
  induction fates generalizing s with
  | nil => exact h
  | cons fate fates ih =>
    have hstep := h.change (step_change setup s (.settle call fate.1 fate.2))
    rw [settleAll]
    split
    · next heq =>
      rw [heq] at hstep
      exact hstep
    · next s' heq =>
      rw [heq] at hstep
      exact ih hstep

/-- The events by which instructions are settled. -/
def settlements (call : Nat) (fates : List (Nat × Bool)) : List Event :=
  fates.map fun fate => .settle call fate.1 fate.2

theorem settleAll_fst (setup : Setup) (call : Nat) (fates : List (Nat × Bool)) (s : History) :
    (settleAll setup call fates s).1 = outcomeOf setup call (settlements call fates) s := by
  induction fates generalizing s with
  | nil => rfl
  | cons fate fates ih =>
    rw [settleAll, settlements, List.map_cons]
    split
    · next heq => exact (outcomeOf_cons_of_ends rfl (by rw [heq])).symm
    · next heq => rw [outcomeOf_cons_of_not (by simp [heq]), heq, ih, settlements]

end

/-! ## The whole call -/

section
variable {s : History} (setup : Setup) (retiring incoming : List Address)
  (fates : List (Nat × Bool))

/-- A rescale leaves behind what its loop arrived at. -/
theorem rescale_stores (s : History) :
    (s.rescale setup retiring incoming fates).2.broker.SameStores
      (s.broker.relocate retiring).2.2 := by
  have hc := step_change setup s (.rescale retiring incoming)
  rw [rescale]
  generalize s.step setup (.rescale retiring incoming) = r at hc
  obtain ⟨o, s'⟩ := r
  rcases hc.rescale_cases with ⟨rfl, rfl, rfl⟩ | ⟨stranded, b, relocated, rfl, rfl⟩ |
    ⟨migrations, stranded, b, relocated, -, rfl, rfl⟩
  · exact ⟨rfl, rfl, rfl⟩
  · rw [relocated]
    exact Broker.sameStores_concludeRescale ..
  · rw [relocated]
    exact settleAll_stores setup s.traffic.nextCall fates _

theorem rescale_sound (h : s.Sound) : (s.rescale setup retiring incoming fates).2.Sound := by
  have hstep := h.change (step_change setup s (.rescale retiring incoming))
  rw [rescale]
  split
  · next heq =>
    rw [heq] at hstep
    exact hstep
  · next heq =>
    rw [heq] at hstep
    exact settleAll_sound hstep s.traffic.nextCall fates

/-- The outcome is that of a rescale with no other events than its own instructions. -/
theorem rescale_fst (s : History) : (s.rescale setup retiring incoming fates).1 =
    s.rescaleOutcome setup retiring incoming (settlements s.traffic.nextCall fates) := by
  rw [rescale, rescaleOutcome]
  rcases s.step setup (.rescale retiring incoming) with ⟨_ | outcome, s'⟩
  · exact settleAll_fst ..
  · rfl

/-- What a rescale answers depends on what its loop did, and on how many instructions
were not delivered. -/
theorem rescale_reports (h : s.Sound) {o : Outcome}
    (ho : (s.rescale setup retiring incoming fates).1 = some o) :
    ∃ failed, o = .rescaled (if 0 < (s.broker.relocate retiring).2.1 then
      .error (.partialMigration (s.broker.relocate retiring).1.length
        (s.broker.relocate retiring).2.1)
      else .ok ⟨retiring.length, (s.broker.relocate retiring).1, failed⟩) := by
  rw [rescale_fst] at ho
  exact rescaleOutcome_reports h ho

/-- A rescale ends once all its instructions are settled. -/
theorem rescale_ends (h : s.Sound)
    (settled : ∀ i < (s.broker.relocate retiring).1.length, i ∈ fates.map Prod.fst) :
    ∃ o, (s.rescale setup retiring incoming fates).1 = some o := by
  rw [rescale_fst]
  refine rescaleOutcome_ends incoming h fun i hi => ?_
  obtain ⟨fate, hfate, rfl⟩ := List.mem_map.mp (settled i hi)
  exact ⟨fate.2, List.mem_map.mpr ⟨fate, hfate, rfl⟩⟩

end

end History

end RelayBroker
