/-
  RelayBroker.Proofs.Simulation.Availability

  No dead record stays listed as available. In a simulation in which proxies come by request
  only, each poll is started in the piece in which its record is entered, and everything that can
  go on goes on before time does. So the poll of a record has picked up its offer before the time
  of the match is up: no expiry is untimely, and every listed record stays attended.

  `Punctual` says so of a history with its agenda. It is kept by every change that is timely, by
  the arrival of a proxy, and by all that is entered into the agenda; the clock moves at a
  standstill only, where no match waits on an open mailbox (`Punctual.tick`). A simulation that
  is `Tended` stays so over every round (`Tended.round`) and every step (`Tended.step`).

  Main statement: `listed_polled_or_awaited`.
-/

import RelayBroker.Proofs.Http.Dispatch
import RelayBroker.Proofs.Simulation.Standstill
import RelayBroker.Proofs.Traffic.Attendance

namespace RelayBroker

namespace Simulation

open History

/-! ## The agenda of a broker -/

/-- Each listed record is attended, and no match on one is to expire before its poll has picked
up the offer. -/
structure Punctual (s : History) (a : Agenda Event) : Prop where
  orderly : s.Orderly
  all : s.AllAttended
  /-- Only calls that were started are to expire. -/
  numbered : ∀ {time n}, (time, .expire n) ∈ a.entries → n < s.traffic.nextCall
  later : ∀ {time n m}, (time, Event.expire n) ∈ a.entries → s.call? n = some (.matching m) →
    s.broker.directory.Lists m.proxy → (s.broker.mailbox m.proxy).closed = false → a.now < time

namespace Punctual

section
variable {setup : Setup} {s s' : History} {a a' : Agenda Event}

theorem start : Punctual History.start Agenda.empty where
  orderly := orderly_start
  all p hlists := by
    have hnone : none = some p := hlists
    cases hnone
  numbered := nofun
  later := nofun

/-- Nothing that is due is untimely. -/
theorem timely (h : Punctual s a) {time : Nat} {event : Event} (hmem : (time, event) ∈ a.entries)
    (hdue : time ≤ a.now) : ¬ s.Untimely event.act := by
  intro huntimely
  cases event with
  | comply | miss => cases huntimely
  | expire n =>
    cases huntimely with
    | expires waits listed opened =>
      have hlt := h.later hmem waits listed opened
      omega

/-- A change keeps a broker punctual unless it is untimely. -/
theorem change (mode : setup.settings.mode = .mailbox) (h : Punctual s a) {e : History.Event}
    {o : Option Outcome} (hc : Change setup s e o s') (noArrival : ∀ poll, e ≠ .register poll)
    (noAwait : ∀ k, e ≠ .await k) (timely : ¬ s.Untimely e) (now : a'.now = a.now)
    (entries : a'.entries ⊆ a.entries) : Punctual s' a' where
  orderly := h.orderly.change mode hc
  all := hc.attended mode h.orderly noArrival noAwait timely h.all
  numbered hmem := Nat.lt_of_lt_of_le (h.numbered (entries hmem)) hc.nextCall_le
  later {time n m} hmem hn hlists hopen := by
    have hbefore := hc.matching_before (h.numbered (entries hmem)) hn
    have hlisted := ((hc.lists_iff h.orderly.sound h.orderly.coherent
      (h.orderly.sound.known hbefore)).mp hlists).1
    rw [now]
    refine h.later (entries hmem) hbefore hlisted (Bool.eq_false_iff.mpr fun hclosed => ?_)
    -- A mailbox that was closed stays closed.
    have hstays := (h.orderly.turn mode hc m.proxy.poll).closed_of_closed hclosed
    rw [Broker.box_poll, hopen] at hstays
    cases hstays

/-- A proxy arrives. -/
theorem arrive (mode : setup.settings.mode = .mailbox) (h : Punctual s a)
    (poll : Broker.Announcement) : Punctual (s.arrive poll) a where
  orderly := h.orderly.arrive mode poll
  all := h.orderly.attended_arrived mode h.all poll
  numbered hmem := Nat.lt_succ_of_lt (h.numbered hmem)
  later {time n m} hmem hn hlists hopen := by
    have hlt := h.numbered hmem
    have hn : s.call? n = some (.matching m) := (call?_wait_of_lt hlt _).symm.trans hn
    exact h.later hmem hn (h.orderly.lists_of_arrive (h.orderly.sound.known hn) hlists) hopen

/-- A proxy is handed out without a match. -/
theorem borrow (h : Punctual s a) (nat : NatClass) :
    Punctual (s.setBroker (s.broker.borrow nat).2) a where
  orderly := ⟨h.orderly.sound.setBroker (h.orderly.sound.order.borrow rfl), h.orderly.coherent,
    fun k => (h.orderly.lives k).of_same rfl id fun _ _ => Iff.rfl, h.orderly.ticketed,
    h.orderly.unposted, h.orderly.directed⟩
  all p hlists := by
    have hatt := h.all p hlists
    exact ⟨hatt.polled, hatt.offered, hatt.live⟩
  numbered := h.numbered
  later := h.later

/-- Something is entered into the agenda. -/
theorem set (h : Punctual s a) {delay : Nat} {event : Event}
    (numbered : ∀ n, event = .expire n → n < s.traffic.nextCall)
    (patient : ∀ n m, event = .expire n → s.call? n = some (.matching m) → 0 < delay) :
    Punctual s (a.set delay event) where
  orderly := h.orderly
  all := h.all
  numbered hmem := by
    rcases Agenda.mem_set.mp hmem with heq | hbefore
    · exact numbered _ (congrArg Prod.snd heq).symm
    · exact h.numbered hbefore
  later hmem hn hlists hopen := by
    rcases Agenda.mem_set.mp hmem with heq | hbefore
    · have hpositive := patient _ _ (congrArg Prod.snd heq).symm hn
      have htime := congrArg Prod.fst heq
      show a.now < _
      dsimp only at htime
      omega
    · exact h.later hbefore hn hlists hopen

/-- The clock moves when everything stands still. -/
theorem tick (h : Punctual s a) (still : s.Still) (hticked : a.tick = some a') :
    Punctual s a' := by
  obtain ⟨-, now, rfl, -⟩ := Agenda.of_tick hticked
  refine ⟨h.orderly, h.all, h.numbered, fun hmem hn hlists hopen => ?_⟩
  have hp := h.orderly.mem_of_listed hlists
  have hclosed := (h.all _ hlists).closed_of_waits h.orderly hp still hn rfl
  rw [hclosed] at hopen
  cases hopen

end

end Punctual

/-! ## Simulations -/

namespace World

/-- Offers are parked, clients wait for a time, and no proxy has come but by a request. -/
structure Tended (w : World) : Prop where
  mode : w.setup.settings.mode = .mailbox
  patient : 0 < w.setup.settings.clientTimeout
  byRequest : w.records = Table.empty
  punctual : ∃ records, Punctual ⟨w.traffic, records⟩ w.agenda

namespace Tended

section
variable {w w' : World}

theorem start {setup : Setup} (mode : setup.settings.mode = .mailbox)
    (patient : 0 < setup.settings.clientTimeout) (scripts : Table Address Script) :
    (World.start setup scripts).Tended :=
  ⟨mode, patient, rfl, [], .start⟩

/-- A change that is no arrival and no expiry. -/
theorem change (h : w.Tended) {e : History.Event} {t : Traffic}
    (hstep : ∀ records, (History.step w.setup ⟨w.traffic, records⟩ e).2 = ⟨t, records⟩)
    (noArrival : ∀ poll, e ≠ .register poll) (noAwait : ∀ k, e ≠ .await k)
    (noExpiry : ∀ n, e ≠ .expire n) : (w.setTraffic t).Tended := by
  obtain ⟨records, hpunctual⟩ := h.punctual
  have hc := step_change w.setup ⟨w.traffic, records⟩ e
  rw [hstep records] at hc
  have timely : ¬ Untimely ⟨w.traffic, records⟩ e := by
    rintro ⟨-⟩
    exact noExpiry _ rfl
  exact ⟨h.mode, h.patient, h.byRequest, records,
    hpunctual.change h.mode hc noArrival noAwait timely rfl fun _ => id⟩

/-- Going on with a call is no more than what it does to the traffic. -/
theorem proceed {call : Nat} {r : Option Outcome × Traffic} (h : (w.setTraffic r.2).Tended) :
    (w.proceed call r).Tended := by
  obtain ⟨tasks, log, heq⟩ := w.proceed_eq call r
  rw [heq]
  exact ⟨h.mode, h.patient, h.byRequest, h.punctual⟩

/-! ### The agenda -/

/-- What a rescale enters is no expiry. -/
theorem set (h : w.Tended) {delay : Nat} {event : Event} (noExpiry : ∀ n, event ≠ .expire n) :
    Tended { w with agenda := w.agenda.set delay event } := by
  obtain ⟨records, hpunctual⟩ := h.punctual
  exact ⟨h.mode, h.patient, h.byRequest, records, hpunctual.set
    (fun n heq => absurd heq (noExpiry n)) fun n _ heq => absurd heq (noExpiry n)⟩

/-- The time of a call that waits is set running; a match is given some time. -/
theorem arm (h : w.Tended) {call delay : Nat} {c : Call}
    (hcall : w.traffic.calls.get? call = some c) (patient : ∀ m, c = .matching m → 0 < delay) :
    (w.arm call delay).Tended := by
  obtain ⟨records, hpunctual⟩ := h.punctual
  refine ⟨h.mode, h.patient, h.byRequest, records, hpunctual.set ?_ ?_⟩
  · intro n heq
    cases heq
    by_contra hle
    have hfree := hpunctual.orderly.sound.free call (Nat.le_of_not_lt hle)
    cases hcall.symm.trans hfree
  · intro n m heq hn
    cases heq
    exact patient m (Option.some.inj (hcall.symm.trans hn))

theorem arms (h : w.Tended) (harms : Arms w w') : w'.Tended := by
  induction harms with
  | refl => exact h
  | arm polls untimed rest ih =>
    refine ih (h.arm polls fun m hm => ?_)
    cases hm

theorem sendOrder (h : w.Tended) (call position : Nat) (order : Migration) (limit : Nat) :
    (w.sendOrder call position order limit).Tended := by
  rw [World.sendOrder]
  cases (w.script order.source).transfer with
  | comply delay => refine Tended.set (Tended.set h ?_) ?_ <;> nofun
  | fail => exact h.set nofun
  | hang => exact h.set nofun

theorem sendOrders (h : w.Tended) (call limit : Nat) (orders : List (Migration × Nat)) :
    Tended ((orders.map fun (order, position) => Need.order position order limit).foldl
      (fun w need => w.provide call need) w) := by
  induction orders generalizing w with
  | nil => exact h
  | cons x orders ih => exact ih (h.sendOrder call x.2 x.1 limit)

/-- A call that was started is launched. -/
theorem launch (h : w.Tended) (call : Nat) : (w.launch call).Tended := by
  cases hcall : w.traffic.calls.get? call with
  | none =>
    simp only [World.launch, Traffic.needs, hcall]
    exact h
  | some c =>
    cases c with
    | polling p =>
      rw [launch_polling hcall]
      split
      · refine h.arm hcall fun m hm => ?_
        cases hm
      · exact h
    | matching m =>
      -- An offer that is parked needs no push.
      obtain ⟨records, hpunctual⟩ := h.punctual
      have hticket := ticket_of_lives hpunctual.orderly.lives call m hcall
      simp only [World.launch, Traffic.needs, hcall, Option.isSome_iff_ne_none.mpr hticket,
        if_true]
      exact h.arm hcall fun _ _ => h.patient
    | moving m =>
      simp only [World.launch, Traffic.needs, hcall]
      exact h.sendOrders call _ _

/-! ### Rounds -/

/-- Whatever a round does, it is timely. -/
theorem round (h : w.Tended) (hround : w.Round w') : w'.Tended := by
  obtain ⟨records, hpunctual⟩ := h.punctual
  cases hround with
  | @happens event agenda due =>
    obtain ⟨tasks, log, heq⟩ := happen_eq { w with agenda } w.setup records event
    obtain ⟨time, rest, hdue, hentries, rfl⟩ := Agenda.of_popDue due
    have hhead : (time, event) ∈ w.agenda.entries := by
      rw [hentries]
      exact .head _
    have hrest : rest ⊆ w.agenda.entries := by
      rw [hentries]
      exact List.subset_cons_self ..
    have hc := step_change w.setup ⟨w.traffic, records⟩ event.act
    have harrival : ∀ poll, event.act ≠ .register poll := by cases event <;> nofun
    have hawait : ∀ k, event.act ≠ .await k := by cases event <;> nofun
    have hafter : Punctual (History.step w.setup ⟨w.traffic, records⟩ event.act).2
        { w.agenda with entries := rest } :=
      hpunctual.change h.mode hc harrival hawait (hpunctual.timely hhead hdue) rfl hrest
    rw [heq]
    exact ⟨h.mode, h.patient, h.byRequest, _, hafter⟩
  | @ends ended t nothing woken some =>
    obtain ⟨tasks, log, heq⟩ := (w.setTraffic t).tellAll_eq ended
    obtain rfl : w.traffic.settle.2 = t := congrArg Prod.snd woken
    rw [heq]
    refine ⟨h.mode, h.patient, h.byRequest, records, ?_⟩
    refine Traffic.wakeAll_induction (P := fun t => Punctual ⟨t, records⟩ w.agenda)
      (fun t call ht _ => ?_) _ w.traffic hpunctual
    exact ht.change h.mode (History.wake_change w.setup ⟨t, records⟩ (@Glances.wake call)) nofun
      nofun nofun rfl fun _ => id
  | ticks nothing idle ticked =>
    have hstill : History.Still ⟨w.traffic, records⟩ := Traffic.wake_of_settle_nil idle
    exact ⟨h.mode, h.patient, h.byRequest, records, hpunctual.tick hstill ticked⟩

theorem settle (h : w.Tended) : w.settle.Tended :=
  settleWithin_induction (fun w hw => hw.arms (arms_armPolls w)) (fun _ _ hw hr => hw.round hr) _ w
    h

/-! ### Steps -/

theorem answered (h : w.Tended) (sid text : String) :
    (w.setTraffic (w.traffic.submitAnswer sid text).2).Tended :=
  h.change (e := .submitAnswer sid text) (fun _ => rfl) nofun nofun nofun

theorem noticed (h : w.Tended) (cid : String) (action : SessionAction) (addr : Address) :
    (w.setTraffic (w.traffic.notify cid action addr).2).Tended :=
  h.change (e := .notify cid action addr) (fun _ => rfl) nofun nofun nofun

/-- A call is started, by a client, by a proxy that arrives, or by a rescale. -/
theorem started (h : w.Tended) {p : Progress × Traffic}
    (hstart : Service.Started w.setup w.traffic p) : (w.setTraffic p.2).Tended := by
  cases hstart with
  | matching request =>
    exact h.change (e := .startMatch request) (fun _ => rfl) nofun nofun nofun
  | moving retiring incoming =>
    exact h.change (e := .rescale retiring incoming) (fun _ => rfl) nofun nofun nofun
  | polling poll =>
    obtain ⟨records, hpunctual⟩ := h.punctual
    have harrived : (w.traffic.register poll).2.startPoll (w.traffic.register poll).1 =
        (w.traffic.register poll).2.wait (.polling (w.traffic.register poll).1) :=
      hpunctual.orderly.startPoll_arrived poll
    rw [harrived]
    exact ⟨h.mode, h.patient, h.byRequest, _, hpunctual.arrive h.mode poll⟩

/-- A request of a participant is dispatched; a proxy that polls is awaited at once. -/
theorem dispatched (h : w.Tended) {handling : Service.Handling} {service : Service}
    (hd : Service.Dispatched w.setup w.service handling service) :
    (w.setTraffic service.traffic).Tended := by
  cases hd with
  | unauthorized => exact h
  | registered poll push => cases h.mode.symm.trans push
  | answered sid text => exact h.answered sid text
  | noticed cid action addr => exact h.noticed cid action addr
  | started form start => exact h.started start
  | numbered checked => exact h.started (.matching _)

/-- A call that was started for a step waits, or has ended at once. -/
theorem begin (h : w.Tended) (task : Task) {p : Progress × Traffic}
    (hstart : Service.Started w.setup w.traffic p) : (w.begin task p).2.Tended := by
  have hstarted := h.started hstart
  obtain ⟨progress, t⟩ := p
  cases progress with
  | done o => exact hstarted
  | waiting call =>
    have hwaits : Tended { w.setTraffic t with tasks := w.tasks.insert call task } :=
      ⟨hstarted.mode, hstarted.patient, hstarted.byRequest, hstarted.punctual⟩
    exact hwaits.launch call

theorem perform (h : w.Tended) (number : Nat) {s : Step} (byRequest : ∀ poll, s ≠ .register poll) :
    (w.perform number s).2.Tended := by
  cases s with
  | register poll => exact absurd rfl (byRequest poll)
  | awaitOffer sid =>
    have hnone : w.records.get? sid = none := by rw [h.byRequest]; rfl
    simp only [World.perform, hnone]
    exact h
  | client request => exact h.begin _ (.matching request)
  | rescale retiring incoming => exact h.begin _ (.moving retiring incoming)
  | borrow nat =>
    obtain ⟨records, hpunctual⟩ := h.punctual
    exact ⟨h.mode, h.patient, h.byRequest, records, hpunctual.borrow nat⟩
  | answer sid text => exact h.answered sid text
  | notify cid action addr => exact h.noticed cid action addr
  | load | relayUrl | summary | counters => exact h
  | setScript addr script => exact ⟨h.mode, h.patient, h.byRequest, h.punctual⟩
  | release cid reply =>
    simp only [World.perform, World.release]
    split
    · exact h
    · next call hheld =>
      have hreplied := h.change (e := .reply call reply) (t := (w.traffic.reply call reply).2)
        (fun _ => rfl) (by simp) (by simp) (by simp)
      refine proceed (w := { w with held := _ }) ?_
      exact ⟨hreplied.mode, hreplied.patient, hreplied.byRequest, hreplied.punctual⟩
  | advance delay =>
    obtain ⟨records, hpunctual⟩ := h.punctual
    exact ⟨h.mode, h.patient, h.byRequest, records, hpunctual.orderly, hpunctual.all,
      hpunctual.numbered, hpunctual.later⟩
  | request peer request =>
    obtain ⟨handling, service, heq⟩ : ∃ handling service,
        w.service.handle w.setup peer request = (handling, service) := ⟨_, _, rfl⟩
    have hleft : (w.setTraffic service.traffic).Tended := by
      have hcases := Service.handle_dispatched w.service w.setup peer request
      rw [heq] at hcases
      rcases hcases with ⟨r, hsame⟩ | hdispatched
      · cases hsame
        exact h
      · exact h.dispatched hdispatched
    simp only [World.perform, heq]
    cases handling with
    | respond r => exact ⟨h.mode, h.patient, h.byRequest, hleft.punctual⟩
    | await call form =>
      refine launch (w := { w with service, tasks := _ }) ?_ call
      exact ⟨h.mode, h.patient, h.byRequest, hleft.punctual⟩

theorem step (h : w.Tended) (number : Nat) {s : Step} (byRequest : ∀ poll, s ≠ .register poll) :
    (w.step number s).2.Tended := by
  have hcleared : Tended { w with log := Log.empty } :=
    ⟨h.mode, h.patient, h.byRequest, h.punctual⟩
  exact (hcleared.perform number byRequest).settle

end

end Tended

/-! ## Runs -/

/-- A simulation from a broker that was just started, with steps that are numbered as they
come. -/
def run (setup : Setup) (scripts : Table Address Script) (steps : List Step) : World :=
  steps.zipIdx.foldl (fun w (s, number) => (w.step number s).2) (start setup scripts)

section
variable {setup : Setup} {scripts : Table Address Script} {steps : List Step}

theorem run_append (setup : Setup) (scripts : Table Address Script) (steps : List Step)
    (s : Step) : run setup scripts (steps ++ [s]) =
      ((run setup scripts steps).step steps.length s).2 := by
  rw [run, List.zipIdx_append, List.foldl_append]
  rw [run, Nat.zero_add]
  rfl

/-- A simulation in which proxies come by request stays tended, and stands still after every
step. -/
theorem run_tended (mode : setup.settings.mode = .mailbox)
    (patient : 0 < setup.settings.clientTimeout)
    (byRequest : ∀ poll, .register poll ∉ steps) :
    (run setup scripts steps).Tended ∧ (run setup scripts steps).StandsStill := by
  induction steps using List.reverseRecOn with
  | nil => exact ⟨.start mode patient scripts, rfl, rfl, rfl⟩
  | append_singleton steps s ih =>
    have htended := (ih fun poll hmem => byRequest poll (List.mem_append_left _ hmem)).1
    have hlast : ∀ poll, s ≠ .register poll := by
      rintro poll rfl
      exact byRequest poll (List.mem_append_right _ (.head _))
    rw [run_append]
    exact ⟨htended.step _ hlast, step_standsStill _ _ _⟩

end

/-- **No dead record stays listed as available.** When offers are parked, clients wait for a time,
and proxies come by request only, then after every step each record that is listed under a
session id is in one of two states. Either its mailbox is open and holds no offer, one poll
waits for it, and it is in the pool of its class and in no other. Or its mailbox is closed, it
is in no pool, and one match waits for the answer. -/
theorem listed_polled_or_awaited (setup : Setup) (scripts : Table Address Script)
    (steps : List Step) (mode : setup.settings.mode = .mailbox)
    (patient : 0 < setup.settings.clientTimeout) (byRequest : ∀ poll, .register poll ∉ steps) :
    let w := run setup scripts steps
    let b := w.broker
    ∀ sid p, b.directory.session? sid = some p →
      ((b.mailbox p).closed = false ∧ (b.mailbox p).parked = none ∧
        (∃ n, ∀ n', w.traffic.calls.get? n' = some (.polling p) ↔ n' = n) ∧
        (b.pools.unrestricted.Holds p ↔ p.nat = .unrestricted) ∧
        (b.pools.restricted.Holds p ↔ p.nat ≠ .unrestricted)) ∨
      ((b.mailbox p).closed = true ∧
        ¬ b.pools.unrestricted.Holds p ∧ ¬ b.pools.restricted.Holds p ∧
        ∃ n m, w.traffic.calls.get? n = some (.matching m) ∧ m.proxy = p ∧
          (b.mailbox p).awaitsAnswer = true ∧ (b.mailbox p).slot = m.ticket ∧
          ∀ n' m', w.traffic.calls.get? n' = some (.matching m') → m'.proxy = p → n' = n) := by
  intro w b sid p hsid
  obtain ⟨htended, hstands⟩ := run_tended mode patient byRequest
  obtain ⟨records, hpunctual⟩ := htended.punctual
  have horderly := hpunctual.orderly
  obtain rfl : p.sid = sid := horderly.coherent.named hsid
  have hp := horderly.mem_of_listed hsid
  have hstill : History.Still ⟨w.traffic, records⟩ := Traffic.wake_of_settle_nil hstands.idle
  obtain ⟨hunrestricted, hrestricted⟩ :=
    horderly.sound.order.agrees.holds_iff (horderly.coherent.current hsid)
  rcases (hpunctual.all p hsid).of_still horderly hp hstill with
    ⟨hopen, hparked, honly⟩ | ⟨hclosed, n, m, hn, hproxy, hticket, hslot, hawaits, hunique⟩
  · left
    simp only [hopen, true_and] at hunrestricted hrestricted
    exact ⟨hopen, hparked, honly, hunrestricted, hrestricted⟩
  · right
    simp only [hclosed, Bool.true_eq_false, false_and, iff_false] at hunrestricted hrestricted
    exact ⟨hclosed, hunrestricted, hrestricted, n, m, hn, hproxy, hawaits,
      hslot.trans hticket.symm, hunique⟩

/-- Two proxies come, and a client between them. -/
def matchedThenPolled : List Step :=
  let poll (sid : String) (last : UInt8) : Step :=
    .request (.v4 10 0 0 last) ⟨"POST", "/proxy", [], Text.utf8 ("[\"" ++ sid ++ "\"]")⟩
  [poll "s1" 1, .client ⟨"c1", .unrestricted, "", "a=candidate:1"⟩, poll "s2" 2]

/-- The match of the client waits for the first proxy, whose poll has picked up the offer; the
second proxy polls, and is pooled. -/
theorem one_awaited_one_polled :
    let w := run ⟨{ Settings.standard with mode := .mailbox }, Catalog.builtin⟩ Table.empty
      matchedThenPolled
    let b := w.broker
    ∃ awaited polled, b.directory.session? "s1" = some awaited ∧
      b.directory.session? "s2" = some polled ∧ (b.mailbox awaited).awaitsAnswer = true ∧
      ¬ b.pools.restricted.Holds awaited ∧ b.pools.restricted.Holds polled ∧
      ∃ n, w.traffic.calls.get? n = some (.polling polled) := by
  intro w b
  have byRequest : ∀ poll, .register poll ∉ matchedThenPolled := by simp [matchedThenPolled]
  have hlisted := listed_polled_or_awaited
    ⟨{ Settings.standard with mode := .mailbox }, Catalog.builtin⟩ Table.empty matchedThenPolled
    rfl (by decide) byRequest
  let record (poll : Nat) (sid : String) (last : UInt8) : Proxy :=
    ⟨poll, sid, "unknown", .unknown, .v4 10 0 0 last, 0⟩
  have hawaited : b.directory.session? "s1" = some (record 0 "s1" 1) := by decide +kernel
  have hpolled : b.directory.session? "s2" = some (record 1 "s2" 2) := by decide +kernel
  have hclosed : (b.mailbox (record 0 "s1" 1)).closed = true := by decide +kernel
  have hopen : (b.mailbox (record 1 "s2" 2)).closed = false := by decide +kernel
  obtain ⟨-, -, ⟨n, honly⟩, -, hpooled⟩ := (hlisted _ _ hpolled).resolve_right fun hother =>
    Bool.false_ne_true (hopen.symm.trans hother.1)
  obtain ⟨-, -, hleft, _, _, -, -, hawaits, -⟩ :=
    (hlisted _ _ hawaited).resolve_left fun hother =>
      Bool.false_ne_true (hother.1.symm.trans hclosed)
  exact ⟨_, _, hawaited, hpolled, hawaits, hleft, hpooled.mpr nofun, n, (honly n).mpr rfl⟩

end World

end Simulation

end RelayBroker
