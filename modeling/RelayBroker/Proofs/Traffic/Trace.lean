/-
  RelayBroker.Proofs.Traffic.Trace

  The steps of a run, one by one: each event with the state in which it happens. What is
  said of a run as a whole, how often something happened and where something comes from,
  is said of its trace.
-/

import RelayBroker.Proofs.Traffic.Run

namespace RelayBroker

namespace History

/-- The steps from a state on, in order: each event with the state before it. -/
def traceFrom (setup : Setup) : History → List Event → List (History × Event)
  | _, [] => []
  | s, e :: events => (s, e) :: traceFrom setup (s.step setup e).2 events

/-- The steps of a run, in order. -/
def trace (setup : Setup) (events : List Event) : List (History × Event) :=
  traceFrom setup start events

theorem trace_append (setup : Setup) (events : List Event) (e : Event) :
    trace setup (events ++ [e]) = trace setup events ++ [(run setup events, e)] := by
  have hfrom (s : History) : traceFrom setup s (events ++ [e]) =
      traceFrom setup s events ++ [(events.foldl (fun s e => (s.step setup e).2) s, e)] := by
    induction events generalizing s with
    | nil => rfl
    | cons first events ih =>
      rw [List.cons_append, traceFrom, ih]
      rfl
  exact hfrom start

theorem mem_trace_append {setup : Setup} {events : List Event} {e : Event}
    {x : History × Event} :
    x ∈ trace setup (events ++ [e]) ↔ x ∈ trace setup events ∨ x = (run setup events, e) := by
  rw [trace_append, List.mem_append, List.mem_singleton]

/-- What holds after a run and did not hold at the start comes from one of its steps. -/
theorem mem_trace_of_run {setup : Setup} {P : History → Prop} {Q : History × Event → Prop}
    (hstart : ¬ P start)
    (hstep : ∀ events e, P (run setup (events ++ [e])) →
      P (run setup events) ∨ Q (run setup events, e))
    {events : List Event} (h : P (run setup events)) : ∃ x ∈ trace setup events, Q x := by
  induction events using List.reverseRecOn with
  | nil => exact absurd h hstart
  | append_singleton events e ih =>
    rcases hstep events e h with hbefore | hnow
    · obtain ⟨x, hx, hq⟩ := ih hbefore
      exact ⟨x, mem_trace_append.mpr (.inl hx), hq⟩
    · exact ⟨_, mem_trace_append.mpr (.inr rfl), hnow⟩

/-- No step takes a record back. -/
theorem Change.records {setup : Setup} {s s' : History} {e : Event} {o : Option Outcome}
    (hc : Change setup s e o s') : s.records <+: s'.records := by
  cases hc with
  | registered poll => exact List.prefix_append ..
  | idle | unknown | refused | denied | pushed | parked | bounced | awaited | polledAtOnce
  | polled | pollExpired | answered | noticed | rescaledNothing | rescaled | moving | replied
  | collected | expired | settled | settledLast => exact List.prefix_refl _

/-- The records that there are at a step of a run are there at its end. -/
theorem records_of_mem_trace {setup : Setup} {events : List Event} {x : History × Event}
    (hx : x ∈ trace setup events) : x.1.records <+: (run setup events).records := by
  induction events using List.reverseRecOn with
  | nil => cases hx
  | append_singleton events e ih =>
    have hstep := (step_change setup (run setup events) e).records
    rw [← run_append] at hstep
    rcases mem_trace_append.mp hx with hbefore | rfl
    · exact (ih hbefore).trans hstep
    · exact hstep

/-- The records that there are after a run are there however it goes on. -/
theorem records_run_append (setup : Setup) (events more : List Event) :
    (run setup events).records <+: (run setup (events ++ more)).records := by
  induction more using List.reverseRecOn with
  | nil => simp
  | append_singleton more e ih =>
    rw [← List.append_assoc, run_append]
    exact ih.trans (step_change setup _ e).records

/-- What happens at a step of a list happens at one before the last, or at the last. -/
theorem exists_step_append {α : Type} {P : List α → α → Prop} (l : List α) (a : α) :
    (∃ before b, before ++ [b] <+: l ++ [a] ∧ P before b) ↔
      (∃ before b, before ++ [b] <+: l ∧ P before b) ∨ P l a := by
  simp only [List.prefix_concat_iff]
  constructor
  · rintro ⟨before, b, heq | hpre, hp⟩
    · obtain ⟨rfl, hb⟩ := List.append_inj' heq rfl
      obtain rfl := List.singleton_inj.mp hb
      exact .inr hp
    · exact .inl ⟨before, b, hpre, hp⟩
  · rintro (⟨before, b, hpre, hp⟩ | hp)
    · exact ⟨before, b, .inr hpre, hp⟩
    · exact ⟨l, a, .inl rfl, hp⟩

theorem not_exists_step_nil {α : Type} {P : List α → α → Prop} :
    ¬ ∃ before b, before ++ [b] <+: [] ∧ P before b := by
  rintro ⟨before, b, hpre, -⟩
  simpa using List.prefix_nil.mp hpre

end History

end RelayBroker
