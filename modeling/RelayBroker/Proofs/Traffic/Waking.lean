/-
  RelayBroker.Proofs.Traffic.Waking

  What is left of the calls that wait when one of them goes on, and when all of them are woken. A
  call that goes on starts no other one (`Change.remains`), and one that ends is gone
  (`Change.size_lt`). If no call ends when all are woken, then none can go on
  (`wake_of_settle_nil`).
-/

import RelayBroker.Proofs.Table.Count
import RelayBroker.Proofs.Traffic.Reachable

namespace RelayBroker

/-! ## Calls that are left -/

namespace Traffic

/-- The calls of `t'` are those of `t` that are left after some have ended. No poll starts. -/
structure Remains (t t' : Traffic) : Prop where
  calls : t'.calls.keys ⊆ t.calls.keys
  polls : ∀ {n p}, t'.calls.get? n = some (.polling p) → t.calls.get? n = some (.polling p)

theorem Remains.refl (t : Traffic) : t.Remains t :=
  ⟨Finset.Subset.refl _, id⟩

theorem Remains.trans {t t' t'' : Traffic} (h : t.Remains t') (h' : t'.Remains t'') :
    t.Remains t'' :=
  ⟨h'.calls.trans h.calls, fun hn => h.polls (h'.polls hn)⟩

theorem Remains.size_le {t t' : Traffic} (h : t.Remains t') : t'.calls.size ≤ t.calls.size := by
  rw [← Table.card_keys, ← Table.card_keys]
  exact Finset.card_le_card h.calls

end Traffic

namespace History

section
variable {setup : Setup} {s s' : History} {e : Event} {o : Option Outcome} {n : Nat}

/-- A call that goes on waits on, settles one of its instructions, or ends. -/
theorem Change.goesOn_cases (hc : Change setup s e o s') (goesOn : e.call? = some n) :
    (o = none ∧ s' = s) ∨
    (∃ old new b, o = none ∧ s.call? n = some (.moving old) ∧
      s' = (s.setBroker b).setCall n (.moving new)) ∨
    ∃ c b, s.call? n = some c ∧ s' = (s.setBroker b).endCall n := by
  have hsame {call : Nat} (hcall : e.call? = some call) : call = n :=
    Option.some.inj (hcall.symm.trans goesOn)
  cases hc with
  | idle => exact .inl ⟨rfl, rfl⟩
  | unknown | registered | refused | denied | pushed | parked | bounced | awaited | polledAtOnce
  | answered | noticed | rescaledNothing | rescaled | moving => cases goesOn
  | settled waits sent others =>
    obtain rfl := hsame rfl
    exact .inr (.inl ⟨_, _, _, rfl, waits, rfl⟩)
  | polled glances waits taken =>
    obtain rfl := hsame glances.call?
    exact .inr (.inr ⟨_, _, waits, rfl⟩)
  | collected glances waits parked found =>
    obtain rfl := hsame glances.call?
    exact .inr (.inr ⟨_, _, waits, rfl⟩)
  | pollExpired waits | replied waits | expired waits | settledLast waits =>
    obtain rfl := hsame rfl
    exact .inr (.inr ⟨_, _, waits, rfl⟩)

theorem keys_endCall (s : History) (b : Broker) (n : Nat) :
    ((s.setBroker b).endCall n).traffic.calls.keys = s.traffic.calls.keys.erase n := by
  ext k
  have hcall := call?_endCall (s.setBroker b) n k
  rw [Finset.mem_erase, Table.mem_keys, Table.mem_keys]
  show (∃ c, ((s.setBroker b).endCall n).call? k = some c) ↔ k ≠ n ∧ ∃ c, s.call? k = some c
  rw [hcall]
  by_cases hk : k = n
  · simp [hk]
  · simp [hk, call?, setBroker]

/-- A call that goes on starts no other one. -/
theorem Change.remains (hc : Change setup s e o s') (goesOn : e.call? = some n) :
    s.traffic.Remains s'.traffic := by
  rcases hc.goesOn_cases goesOn with ⟨-, rfl⟩ | ⟨old, new, b, -, hn, rfl⟩ | ⟨c, b, hn, rfl⟩
  · exact .refl _
  · constructor
    · intro k hk
      rw [Table.mem_keys] at hk ⊢
      obtain ⟨c, hc⟩ := hk
      rw [show Table.get? _ k = _ from call?_setCall (s.setBroker b) n _ k] at hc
      split at hc
      · next heq => exact ⟨_, heq ▸ hn⟩
      · exact ⟨c, hc⟩
    · intro k p hk
      rw [show Table.get? _ k = _ from call?_setCall (s.setBroker b) n _ k] at hk
      split at hk
      · cases hk
      · exact hk
  · constructor
    · rw [keys_endCall]
      exact Finset.erase_subset ..
    · intro k p hk
      rw [show Table.get? _ k = _ from call?_endCall (s.setBroker b) n k] at hk
      split at hk
      · cases hk
      · exact hk

/-- A call that ends is gone. -/
theorem Change.size_lt (hc : Change setup s e o s') (goesOn : e.call? = some n)
    (ends : o.isSome) : s'.traffic.calls.size < s.traffic.calls.size := by
  rcases hc.goesOn_cases goesOn with ⟨rfl, -⟩ | ⟨_, _, _, rfl, -⟩ | ⟨c, b, hn, rfl⟩
  · cases ends
  · cases ends
  · rw [← Table.card_keys, ← Table.card_keys, keys_endCall]
    exact Finset.card_erase_lt_of_mem (Table.mem_keys.mpr ⟨c, hn⟩)

end

end History

/-! ## Calls that are woken -/

namespace Traffic

section
variable {t : Traffic} {call : Nat} {calls : List Nat}

/-- A call that is woken ends, or nothing changes. -/
theorem wake_cases (t : Traffic) (call : Nat) :
    t.wake call = (none, t) ∨ ∃ outcome, (t.wake call).1 = some outcome := by
  rw [wake]
  split
  · split
    · exact .inl rfl
    · split
      · exact .inr ⟨_, rfl⟩
      · exact .inl rfl
  · split
    · split
      · exact .inr ⟨_, rfl⟩
      · exact .inl rfl
    · exact .inl rfl
  · exact .inl rfl

theorem wakeAll_cons_of_none (h : t.wake call = (none, t)) :
    wakeAll (call :: calls) t = wakeAll calls t := by
  rw [wakeAll, h]

theorem wakeAll_cons_of_some {outcome : Outcome} (h : (t.wake call).1 = some outcome) :
    wakeAll (call :: calls) t = ((call, outcome) :: (wakeAll calls (t.wake call).2).1,
      (wakeAll calls (t.wake call).2).2) := by
  have heq : t.wake call = (some outcome, (t.wake call).2) := Prod.ext h rfl
  rw [wakeAll, heq]

/-- What every wake keeps that ends a call is kept when calls are woken one by one. -/
theorem wakeAll_induction {P : Traffic → Prop}
    (hwake : ∀ t call, P t → (t.wake call).1.isSome → P (t.wake call).2) (calls : List Nat)
    (t : Traffic) (h : P t) : P (wakeAll calls t).2 := by
  induction calls generalizing t with
  | nil => exact h
  | cons call calls ih =>
    rcases wake_cases t call with hnone | ⟨outcome, hsome⟩
    · rw [wakeAll_cons_of_none hnone]
      exact ih t h
    · rw [wakeAll_cons_of_some hsome]
      exact ih _ (hwake t call h (by rw [hsome]; rfl))

/-- A wake is a change of a history, whatever records were entered. -/
theorem wake_change (t : Traffic) (call : Nat) :
    History.Change ⟨Settings.standard, Catalog.builtin⟩ ⟨t, []⟩ (.wake call) (t.wake call).1
      ⟨(t.wake call).2, []⟩ :=
  History.wake_change _ ⟨t, []⟩ .wake

theorem wakeAll_remains (calls : List Nat) (t : Traffic) : t.Remains (wakeAll calls t).2 :=
  wakeAll_induction (fun t' call h _ => h.trans ((wake_change t' call).remains rfl)) calls t
    (.refl t)

/-- A call that ends is not there any more. -/
theorem size_wakeAll (calls : List Nat) (t : Traffic) :
    (wakeAll calls t).2.calls.size + (wakeAll calls t).1.length ≤ t.calls.size := by
  induction calls generalizing t with
  | nil => exact Nat.le_refl _
  | cons call calls ih =>
    rcases wake_cases t call with hnone | ⟨outcome, hsome⟩
    · rw [wakeAll_cons_of_none hnone]
      exact ih t
    · have hlt : (t.wake call).2.calls.size < t.calls.size :=
        (wake_change t call).size_lt rfl (by rw [hsome]; rfl)
      have hrest := ih (t.wake call).2
      rw [wakeAll_cons_of_some hsome, List.length_cons]
      dsimp only
      omega

/-- If none of the calls ends, then each of them was woken in vain. -/
theorem wake_of_wakeAll_nil (h : (wakeAll calls t).1 = []) :
    ∀ call ∈ calls, (t.wake call).1 = none := by
  induction calls with
  | nil => nofun
  | cons first calls ih =>
    rcases wake_cases t first with hnone | ⟨outcome, hsome⟩
    · rw [wakeAll_cons_of_none hnone] at h
      rintro call (_ | ⟨_, hcall⟩)
      · rw [hnone]
      · exact ih h call hcall
    · rw [wakeAll_cons_of_some hsome] at h
      cases h

/-- If no call ends when all are woken, then none can go on. -/
theorem wake_of_settle_nil (h : t.settle.1 = []) (call : Nat) : (t.wake call).1 = none := by
  cases hcall : t.calls.get? call with
  | none => rw [wake, hcall]
  | some c =>
    refine wake_of_wakeAll_nil h call ?_
    rw [List.mem_reverse, List.mem_map]
    exact ⟨(call, c), Table.get?_eq_some_iff.mp hcall, rfl⟩

end

end Traffic

end RelayBroker
