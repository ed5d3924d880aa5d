/-
  RelayBroker.Proofs.Simulation.Standstill

  A simulation stands still after every step. Each round of `settleWithin` lets one thing happen
  that is due, or ends calls that can go on, or moves the clock (`Round`), after the time of the
  polls whose turn has come was set running (`Arms`). What is left to do is bounded by
  `roundsLeft`: each entry of the agenda takes a round until its time has come and one to happen,
  each poll whose time does not run yet has one entry to come, and each call ends once. Every
  round leaves less to do, so the rounds that `settle` allows are enough.

  Main statement: `step_standsStill`.
-/

import RelayBroker.Proofs.Traffic.Waking
import RelayBroker.Simulation.Step

namespace RelayBroker.Simulation

/-! ## The agenda -/

namespace Agenda

section
variable {α : Type} {a a' : Agenda α} {event : α}

theorem perm_set (a : Agenda α) (delay : Nat) (event : α) :
    (a.set delay event).entries.Perm ((a.now + delay, event) :: a.entries) := by
  have hsplit := List.takeWhile_append_dropWhile (p := fun e => e.1 ≤ a.now + delay)
    (l := a.entries)
  simp only [set, List.span_eq_takeWhile_dropWhile]
  conv_rhs => rw [← hsplit]
  exact List.perm_middle

theorem mem_set {delay : Nat} {x : Nat × α} :
    x ∈ (a.set delay event).entries ↔ x = (a.now + delay, event) ∨ x ∈ a.entries := by
  rw [(a.perm_set delay event).mem_iff, List.mem_cons]

theorem of_popDue (h : a.popDue = some (event, a')) :
    ∃ time rest, time ≤ a.now ∧ a.entries = (time, event) :: rest ∧
      a' = { a with entries := rest } := by
  rw [popDue] at h
  split at h
  · next time event' rest heq =>
    split at h
    · next hdue =>
      cases h
      exact ⟨time, rest, hdue, heq, rfl⟩
    · cases h
  · cases h

theorem lt_of_popDue (h : a.popDue = none) {time : Nat} {rest : List (Nat × α)}
    (heq : a.entries = (time, event) :: rest) : a.now < time := by
  rw [popDue, heq] at h
  by_contra hle
  simp [Nat.le_of_not_lt hle] at h

theorem of_tick (h : a.tick = some a') :
    a.now < a.goal ∧ ∃ now, a' = { a with now } ∧ (now = a.goal ∨
      ∃ time event rest, a.entries = (time, event) :: rest ∧ now = min time a.goal) := by
  rw [tick] at h
  split at h
  · cases h
  · next hgoal =>
    refine ⟨Nat.lt_of_not_le hgoal, ?_⟩
    split at h
    · next time event rest heq =>
      cases h
      exact ⟨_, rfl, .inr ⟨time, event, rest, heq, rfl⟩⟩
    · cases h
      exact ⟨_, rfl, .inl rfl⟩

/-- How often something has yet to happen, or the clock has yet to move: each entry happens
once, and the clock moves for each entry whose time has not come, and to its goal. -/
def left (a : Agenda α) : Nat :=
  a.entries.length + a.entries.countP (fun e => a.now < e.1) + (decide (a.now < a.goal)).toNat

theorem left_le (a : Agenda α) : a.left ≤ 2 * a.entries.length + 1 := by
  have hcount := List.countP_le_length (p := fun e => a.now < e.1) (l := a.entries)
  have hgoal := Bool.toNat_le (decide (a.now < a.goal))
  rw [left]
  omega

theorem left_set (a : Agenda α) (delay : Nat) (event : α) :
    (a.set delay event).left ≤ a.left + 2 := by
  have hperm := a.perm_set delay event
  have hcount := hperm.countP_eq fun e => a.now < e.1
  have hnow : (a.set delay event).now = a.now := rfl
  have hgoal : (a.set delay event).goal = a.goal := rfl
  rw [left, left, hnow, hgoal, hperm.length_eq, hcount, List.length_cons, List.countP_cons]
  split <;> omega

theorem left_popDue (h : a.popDue = some (event, a')) : a'.left < a.left := by
  obtain ⟨time, rest, hdue, heq, rfl⟩ := of_popDue h
  simp only [left, heq, List.length_cons, List.countP_cons]
  omega

theorem left_tick (hnone : a.popDue = none) (h : a.tick = some a') : a'.left < a.left := by
  obtain ⟨hgoal, now, rfl, hnow⟩ := of_tick h
  have hahead (entries : List (Nat × α)) (hle : a.now ≤ now) :
      entries.countP (fun e => now < e.1) ≤ entries.countP fun e => a.now < e.1 := by
    refine List.countP_mono_left fun e _ he => ?_
    simp only [decide_eq_true_eq] at he ⊢
    omega
  have htowards : (decide (a.now < a.goal)).toNat = 1 := by simp [hgoal]
  by_cases harrived : now = a.goal
  · have hcount := hahead a.entries (by omega)
    have hthere : (decide (now < a.goal)).toNat = 0 := by simp [harrived]
    simp only [left, htowards, hthere]
    omega
  · -- The clock stops on the way, at the time of the first entry, which had not come before.
    obtain ⟨time, event, rest, heq, hmin⟩ := hnow.resolve_left harrived
    have hlt := lt_of_popDue hnone heq
    obtain rfl : now = time := by omega
    have hcount := hahead rest (by omega)
    have hgoal := Bool.toNat_le (decide (now < a.goal))
    simp only [left, heq, htowards, List.length_cons, List.countP_cons, hlt, Nat.lt_irrefl,
      decide_true, decide_false, if_true, Bool.false_eq_true, if_false]
    omega

end

end Agenda

/-! ## Rounds -/

namespace World

/-- The time of some polls is set running whose turn has come. -/
inductive Arms : World → World → Prop
  | refl (w : World) : Arms w w
  | arm {w w' : World} {call delay : Nat} {p : Proxy}
      (polls : w.traffic.calls.get? call = some (.polling p)) (untimed : call ∉ w.timed)
      (rest : Arms (w.arm call delay) w') : Arms w w'

/-- What one round can do, once the time of the polls runs whose turn has come. -/
inductive Round (w : World) : World → Prop
  | happens {event agenda} (due : w.agenda.popDue = some (event, agenda)) :
      Round w ({ w with agenda }.happen event)
  | ends {ended t} (nothing : w.agenda.popDue = none) (woken : w.traffic.settle = (ended, t))
      (some : ended ≠ []) :
      Round w (ended.foldl (fun w (call, o) => w.tell call o) (w.setTraffic t))
  | ticks {agenda} (nothing : w.agenda.popDue = none) (idle : w.traffic.settle.1 = [])
      (ticked : w.agenda.tick = some agenda) : Round w { w with agenda }

/-- Nothing is due, no call can go on, and the clock is where it was told to move. -/
structure StandsStill (w : World) : Prop where
  nothing : w.agenda.popDue = none
  idle : w.traffic.settle.1 = []
  arrived : w.agenda.tick = none

section
variable {w w' : World}

theorem launch_polling {call : Nat} {p : Proxy}
    (h : w.traffic.calls.get? call = some (.polling p)) :
    w.launch call = if w.traffic.isNext call p then
      w.arm call w.setup.settings.proxyTimeout else w := by
  simp only [launch, Traffic.needs, h]
  split <;> rfl

/-- Arming a poll leaves the calls as they are, and so the entries still to come. -/
theorem arms_foldl {arms : World → Nat × Call → World}
    (each : ∀ w call c, w.traffic.calls.get? call = some c → arms w (call, c) = w ∨
      ∃ delay p, c = .polling p ∧ call ∉ w.timed ∧ arms w (call, c) = w.arm call delay)
    (entries : List (Nat × Call)) (w : World)
    (h : ∀ e ∈ entries, w.traffic.calls.get? e.1 = some e.2) : Arms w (entries.foldl arms w) := by
  induction entries generalizing w with
  | nil => exact .refl w
  | cons e entries ih =>
    have hcall := h e (.head _)
    have hrest : ∀ e ∈ entries, w.traffic.calls.get? e.1 = some e.2 :=
      fun e he => h e (.tail _ he)
    rw [List.foldl_cons]
    rcases each w e.1 e.2 hcall with hsame | ⟨delay, p, hpolls, untimed, harmed⟩
    · rw [hsame]
      exact ih w hrest
    · rw [harmed]
      exact .arm (hpolls ▸ hcall) untimed (ih _ hrest)

theorem arms_armPolls (w : World) : Arms w w.armPolls := by
  rw [armPolls]
  refine arms_foldl (fun w call c hcall => ?_) _ w fun e he => Table.mem_entries.mp he
  cases c with
  | matching m => exact .inl rfl
  | moving m => exact .inl rfl
  | polling p =>
    dsimp only
    split
    · exact .inl rfl
    · next huntimed =>
      rw [launch_polling hcall]
      split
      · exact .inr ⟨_, p, rfl, by simpa using huntimed, rfl⟩
      · exact .inl rfl

/-- A round finds everything at a standstill, or does one thing. -/
theorem settleWithin_succ (n : Nat) (w : World) :
    (w.armPolls.StandsStill ∧ settleWithin (n + 1) w = w.armPolls) ∨
      ∃ w', w.armPolls.Round w' ∧ settleWithin (n + 1) w = settleWithin n w' := by
  simp only [settleWithin]
  split
  · next event agenda hdue => exact .inr ⟨_, .happens hdue, rfl⟩
  · next hnothing =>
    split
    · next t hidle =>
      have hidle : w.armPolls.traffic.settle.1 = [] := congrArg Prod.fst hidle
      split
      · next agenda hticked => exact .inr ⟨_, .ticks hnothing hidle hticked, rfl⟩
      · next harrived => exact .inl ⟨⟨hnothing, hidle, harrived⟩, rfl⟩
    · next ended t hsome hwoken => exact .inr ⟨_, .ends hnothing hwoken hsome, rfl⟩

/-- What arming polls and every round keep is kept however many rounds there are. -/
theorem settleWithin_induction {P : World → Prop} (arms : ∀ w, P w → P w.armPolls)
    (rounds : ∀ w w', P w → w.Round w' → P w') (n : Nat) (w : World) (h : P w) :
    P (settleWithin n w) := by
  induction n generalizing w with
  | zero => exact h
  | succ n ih =>
    rcases settleWithin_succ n w with ⟨-, heq⟩ | ⟨w', hround, heq⟩
    · rw [heq]
      exact arms w h
    · rw [heq]
      exact ih w' (rounds _ w' (arms w h) hround)

/-! ## What the parts of a round leave as it is -/

theorem tell_eq (w : World) (call : Nat) (o : Outcome) :
    ∃ tasks log, w.tell call o = { w with tasks, log } := by
  rw [tell]
  split
  · exact ⟨_, _, rfl⟩
  · exact ⟨_, _, rfl⟩

theorem tellAll_eq (w : World) (ended : List (Nat × Outcome)) :
    ∃ tasks log, ended.foldl (fun w (call, o) => w.tell call o) w = { w with tasks, log } := by
  induction ended generalizing w with
  | nil => exact ⟨_, _, rfl⟩
  | cons e ended ih =>
    obtain ⟨call, o⟩ := e
    obtain ⟨tasks, log, heq⟩ := w.tell_eq call o
    rw [List.foldl_cons]
    show ∃ tasks log, ended.foldl _ (w.tell call o) = { w with tasks, log }
    rw [heq]
    exact ih { w with tasks, log }

theorem proceed_eq (w : World) (call : Nat) (r : Option Outcome × Traffic) :
    ∃ tasks log, w.proceed call r = { w.setTraffic r.2 with tasks, log } := by
  obtain ⟨outcome, t⟩ := r
  cases outcome with
  | none => exact ⟨_, _, rfl⟩
  | some o => exact (w.setTraffic t).tell_eq call o

end

end World

/-- What an event of the agenda is to the broker. -/
def Event.act : Event → History.Event
  | .expire call => .expire call
  | .comply call position => .settle call position true
  | .miss call position => .settle call position false

/-- The call that an event of the agenda is about. -/
def Event.call : Event → Nat
  | .expire call | .comply call _ | .miss call _ => call

theorem Event.call?_act (event : Event) : event.act.call? = some event.call := by
  cases event <;> rfl

namespace World

theorem happen_eq (w : World) (setup : Setup) (records : List Proxy) (event : Event) :
    ∃ tasks log, w.happen event = { w.setTraffic
      (History.step setup ⟨w.traffic, records⟩ event.act).2.traffic with tasks, log } := by
  cases event with
  | expire call => exact w.proceed_eq call (w.traffic.expire call)
  | miss call position => exact w.proceed_eq call (w.traffic.settleTransfer call position false)
  | comply call position =>
    simp only [happen]
    split
    · exact proceed_eq { w with log := _ } call (w.traffic.settleTransfer call position true)
    · exact w.proceed_eq call (w.traffic.settleTransfer call position true)

/-! ## Rounds that are left -/

/-- The polls whose time does not run yet. -/
def untimed (w : World) : Finset Nat :=
  w.traffic.calls.keys.filter fun n =>
    (w.traffic.calls.get? n).any (fun c => c matches .polling _) ∧ n ∉ w.timed

/-- A bound on the rounds until everything stands still. -/
def roundsLeft (w : World) : Nat :=
  w.agenda.left + 2 * w.untimed.card + w.traffic.calls.size

section
variable {w w' : World}

theorem mem_untimed {n : Nat} : n ∈ w.untimed ↔
    (∃ p, w.traffic.calls.get? n = some (.polling p)) ∧ n ∉ w.timed := by
  rw [untimed, Finset.mem_filter, Option.any_eq_true]
  constructor
  · rintro ⟨-, ⟨c, hc, hpolls⟩, huntimed⟩
    cases c with
    | polling p => exact ⟨⟨p, hc⟩, huntimed⟩
    | matching m | moving m => cases hpolls
  · rintro ⟨⟨p, hp⟩, huntimed⟩
    exact ⟨Table.mem_keys.mpr ⟨_, hp⟩, ⟨_, hp, rfl⟩, huntimed⟩

theorem card_untimed_le (h : w.traffic.Remains w'.traffic) (timed : w'.timed = w.timed) :
    w'.untimed.card ≤ w.untimed.card := by
  refine Finset.card_le_card fun n hn => ?_
  obtain ⟨⟨p, hp⟩, huntimed⟩ := mem_untimed.mp hn
  exact mem_untimed.mpr ⟨⟨p, h.polls hp⟩, timed ▸ huntimed⟩

/-- What is entered for a poll was reckoned with. -/
theorem roundsLeft_arm {call : Nat} {p : Proxy}
    (polls : w.traffic.calls.get? call = some (.polling p)) (untimed : call ∉ w.timed)
    (delay : Nat) : (w.arm call delay).roundsLeft ≤ w.roundsLeft := by
  have hcall : call ∈ w.untimed := mem_untimed.mpr ⟨⟨p, polls⟩, untimed⟩
  have hsub : (w.arm call delay).untimed ⊆ w.untimed.erase call := by
    intro n hn
    obtain ⟨hpolls, hnot⟩ := mem_untimed.mp hn
    obtain ⟨hne, hnot⟩ := not_or.mp (mt List.mem_cons.mpr hnot)
    exact Finset.mem_erase.mpr ⟨hne, mem_untimed.mpr ⟨hpolls, hnot⟩⟩
  have hcard := Finset.card_le_card hsub
  have hless := Finset.card_erase_lt_of_mem hcall
  have hleft := w.agenda.left_set delay (.expire call)
  have hagenda : (w.arm call delay).agenda = w.agenda.set delay (.expire call) := rfl
  have htraffic : (w.arm call delay).traffic = w.traffic := rfl
  rw [roundsLeft, roundsLeft, hagenda, htraffic]
  omega

theorem Arms.roundsLeft_le (h : Arms w w') : w'.roundsLeft ≤ w.roundsLeft := by
  induction h with
  | refl => exact Nat.le_refl _
  | arm polls untimed rest ih => exact ih.trans (roundsLeft_arm polls untimed _)

/-- With calls that are left and less on the agenda, or fewer calls, less is left to do. -/
theorem roundsLeft_lt (h : w.traffic.Remains w'.traffic) (timed : w'.timed = w.timed)
    (less : w'.agenda.left + w'.traffic.calls.size < w.agenda.left + w.traffic.calls.size) :
    w'.roundsLeft < w.roundsLeft := by
  have huntimed := card_untimed_le h timed
  rw [roundsLeft, roundsLeft]
  omega

theorem Round.roundsLeft_lt (h : w.Round w') : w'.roundsLeft < w.roundsLeft := by
  cases h with
  | @happens event agenda due =>
    obtain ⟨tasks, log, heq⟩ := happen_eq { w with agenda } w.setup [] event
    have hremains := (History.step_change w.setup ⟨w.traffic, []⟩ event.act).remains event.call?_act
    rw [heq]
    exact World.roundsLeft_lt hremains rfl
      (Nat.add_lt_add_of_lt_of_le (Agenda.left_popDue due) hremains.size_le)
  | @ends ended t nothing woken some =>
    obtain ⟨tasks, log, heq⟩ := (w.setTraffic t).tellAll_eq ended
    have hsize := Traffic.size_wakeAll (w.traffic.calls.entries.map Prod.fst).reverse w.traffic
    have hsome := List.length_pos_iff.mpr some
    rw [← Traffic.settle, woken] at hsize
    obtain rfl : w.traffic.settle.2 = t := congrArg Prod.snd woken
    rw [heq]
    refine World.roundsLeft_lt (Traffic.wakeAll_remains ..) rfl (Nat.add_lt_add_left ?_ _)
    exact Nat.lt_of_lt_of_le (Nat.lt_add_of_pos_right hsome) hsize
  | ticks nothing idle ticked =>
    exact World.roundsLeft_lt (.refl _) rfl
      (Nat.add_lt_add_right (Agenda.left_tick nothing ticked) _)

theorem settleWithin_standsStill {n : Nat} (h : w.roundsLeft < n) :
    (settleWithin n w).StandsStill := by
  induction n generalizing w with
  | zero => exact absurd h (Nat.not_lt_zero _)
  | succ n ih =>
    rcases settleWithin_succ n w with ⟨hstill, heq⟩ | ⟨w', hround, heq⟩
    · rw [heq]
      exact hstill
    · have harm := (arms_armPolls w).roundsLeft_le
      have hless := hround.roundsLeft_lt
      rw [heq]
      exact ih (by omega)

theorem roundsLeft_le (w : World) :
    w.roundsLeft ≤ 3 * w.traffic.calls.size + 2 * w.agenda.entries.length + 1 := by
  have hleft := w.agenda.left_le
  have huntimed : w.untimed.card ≤ w.traffic.calls.size := by
    rw [← Table.card_keys]
    exact Finset.card_filter_le ..
  rw [roundsLeft]
  omega

theorem settle_standsStill (w : World) : w.settle.StandsStill :=
  settleWithin_standsStill (by have h := w.roundsLeft_le; omega)

/-- After every step, everything stands still. -/
theorem step_standsStill (w : World) (number : Nat) (s : Step) :
    (w.step number s).2.StandsStill :=
  settle_standsStill _

end

end World

end RelayBroker.Simulation
