/-
  RelayBroker.Proofs.Traffic.Interleaving

  A poll and the matches beside it, section by section. A call does not hold the broker
  from one wait to the next: the end of a poll picks up an offer, closes the mailbox and
  withdraws the record in three critical sections, and a match borrows its proxy, posts its
  offer and, if it fails, gives the client back in one section each. A `Scene` is a broker
  with one poll and any number of matches, each between two of its sections; a schedule
  says whose section is next.

  Without interruption a poll ends as `Broker.endPoll` has it (`run_endPoll`), and a match
  starts as `Traffic.startMatch` has it (`run_startMatch`). With interruptions a poll need not
  withdraw its record: a match that is refused by the closed mailbox gives its client back and
  forgets the record, and the withdrawal that follows leaves alone what is not current any
  more. Main statement: that is the only way in which the record of a poll that has returned
  can still be pooled (`out_of_pools_iff`).
-/

import RelayBroker.Proofs.Traffic.PollLife

namespace RelayBroker

/-! ## Scenes -/

/-- How far the poll has come. -/
inductive Stage where
  | listening
  /-- What was parked is picked up; the time of the poll is up if nothing was. -/
  | heard (offer : Option Offer)
  /-- The mailbox is closed. -/
  | closed (offer : Option Offer)
  | returned (offer : Option Offer)
deriving DecidableEq

/-- How far a match has come. -/
inductive Client where
  /-- A proxy is borrowed for it. -/
  | borrowed (m : Matching)
  | posted (m : Matching)
  /-- The mailbox has refused its offer. -/
  | refused (m : Matching) (error : BrokerError)
  /-- It has waited for too long. -/
  | late (m : Matching)
  | ended (r : Except BrokerError String)
deriving DecidableEq

/-- A broker with one poll and the matches beside it. -/
structure Scene where
  broker : Broker
  stage : Stage
  clients : List Client
deriving DecidableEq

/-- Whose critical section is next. -/
inductive Section where
  | poll
  | start (request : ClientRequest)
  /-- A match posts its offer, or gives its client back. -/
  | goOn (client : Nat)
  /-- The answer for a match comes. -/
  | answer (client : Nat) (text : String)
  /-- The time of a match is up. -/
  | expire (client : Nat)
deriving DecidableEq

namespace Client

/-- The match while it is under way. -/
def matching? : Client → Option Matching
  | .borrowed m | .posted m | .refused m _ | .late m => some m
  | .ended _ => none

/-- The match that is about to give its client back. -/
def failing? : Client → Option Matching
  | .refused m _ | .late m => some m
  | .borrowed _ | .posted _ | .ended _ => none

/-- The next section of a match, unless it waits. -/
def goOn (b : Broker) : Client → Client × Broker
  | .borrowed m =>
    match b.postOffer m.proxy m.offer with
    | (.ok ticket, b) => (.posted { m with ticket := some ticket }, b)
    | (.error error, b) => (.refused m error, b)
  | .refused m error =>
    let (r, b) := b.concludeMatch m.request m.proxy (.failed error)
    (.ended r, b)
  | .late m =>
    let (r, b) := b.concludeMatch m.request m.proxy .timedOut
    (.ended r, b)
  | .posted m => (.posted m, b)
  | .ended r => (.ended r, b)

/-- An answer concludes a match that waits for one. -/
def answer (b : Broker) (text : String) : Client → Client × Broker
  | .posted m =>
    let (r, b) := b.concludeMatch m.request m.proxy (.answered text)
    (.ended r, b)
  | c => (c, b)

/-- A match that waits gives up its ticket. -/
def expire (b : Broker) : Client → Client × Broker
  | .posted m => (.late m, History.abandoned b m)
  | c => (c, b)

end Client

namespace Scene

/-- The next section of the poll. -/
def poll (s : Scene) (proxy : Proxy) : Scene :=
  match s.stage with
  | .listening =>
    let (offer, b) := s.broker.takeOffer proxy
    { s with broker := b, stage := .heard offer }
  | .heard offer =>
    let (leftover, b) := s.broker.closeMailbox proxy
    { s with broker := b, stage := .closed (offer.or leftover) }
  | .closed offer =>
    { s with broker := s.broker.withdraw proxy offer.isSome, stage := .returned offer }
  | .returned _ => s

/-- A match is checked and borrows a proxy. -/
def start (s : Scene) (setup : Setup) (request : ClientRequest) : Scene :=
  match s.broker.openMatch setup.catalog request with
  | (.ok (proxy, offer), b) =>
    { s with broker := b, clients := s.clients ++ [.borrowed ⟨request, proxy, offer, none⟩] }
  | (.error error, b) => { s with broker := b, clients := s.clients ++ [.ended (.error error)] }

/-- A section of a match. -/
def update (s : Scene) (client : Nat) (f : Broker → Client → Client × Broker) : Scene :=
  match s.clients[client]? with
  | none => s
  | some c =>
    let (c, b) := f s.broker c
    { s with broker := b, clients := s.clients.set client c }

/-- One critical section, beside the poll of a record. -/
def step (setup : Setup) (proxy : Proxy) (s : Scene) : Section → Scene
  | .poll => s.poll proxy
  | .start request => s.start setup request
  | .goOn client => s.update client Client.goOn
  | .answer client text => s.update client fun b => Client.answer b text
  | .expire client => s.update client Client.expire

/-- A schedule of critical sections. -/
def run (setup : Setup) (proxy : Proxy) (s : Scene) (schedule : List Section) : Scene :=
  schedule.foldl (step setup proxy) s

theorem run_append (setup : Setup) (proxy : Proxy) (s : Scene) (schedule : List Section)
    (sec : Section) :
    s.run setup proxy (schedule ++ [sec]) = (s.run setup proxy schedule).step setup proxy sec := by
  rw [run, List.foldl_append]
  rfl

/-- The matches that wait when a poll begins. -/
def clientsOf (t : Traffic) : List Client :=
  t.calls.entries.filterMap fun
    | (_, .matching m) => some (.posted m)
    | _ => none

/-- A poll that begins to listen. -/
def listening (t : Traffic) : Scene :=
  ⟨t.broker, .listening, clientsOf t⟩

/-- The record of a match that gives its client back in a section. -/
def givesBack? (s : Scene) : Section → Option Proxy
  | .goOn client => (s.clients[client]?.bind Client.failing?).map (·.proxy)
  | _ => none

/-- A match gives its client back to the record of the poll, after the mailbox was closed and
before the record is withdrawn. -/
def Forgets (s : Scene) (proxy : Proxy) (sec : Section) : Prop :=
  (∃ offer, s.stage = .closed offer) ∧ s.givesBack? sec = some proxy

/-- The sections of a poll, one right after the other, end it as a whole. -/
theorem run_endPoll (setup : Setup) (proxy : Proxy) (b : Broker) (clients : List Client) :
    let taken := b.takeOffer proxy
    let ended := taken.2.endPoll proxy taken.1
    run setup proxy ⟨b, .listening, clients⟩ [.poll, .poll, .poll] =
      ⟨ended.2, .returned ended.1, clients⟩ := rfl

theorem update_last (b : Broker) (stage : Stage) (clients : List Client) (c : Client)
    (f : Broker → Client → Client × Broker) :
    (⟨b, stage, clients ++ [c]⟩ : Scene).update clients.length f =
      ⟨(f b c).2, stage, clients ++ [(f b c).1]⟩ := by
  simp [update]

/-- The sections of a match, one right after the other, start it as a whole. -/
theorem run_startMatch (setup : Setup) (mode : setup.settings.mode = .mailbox) (proxy : Proxy)
    (t : Traffic) (stage : Stage) (clients : List Client) (request : ClientRequest) :
    (run setup proxy ⟨t.broker, stage, clients⟩
      [.start request, .goOn clients.length, .goOn clients.length]).broker =
        (t.startMatch setup request).2.broker := by
  simp only [run, List.foldl_cons, List.foldl_nil, step, start, Traffic.startMatch, mode]
  rcases t.broker.openMatch setup.catalog request with ⟨error | ⟨p, offer⟩, b⟩
  · simp only [update_last, Client.goOn]
  · simp only [update_last, Client.goOn]
    -- The second section only has something to do if the mailbox refused the offer.
    rcases b.postOffer p offer with ⟨error | ticket, b'⟩
    · rfl
    · rfl

end Scene

/-! ## What a section of a match leaves as it is -/

namespace Broker

/-- Loads and the mailboxes of other uses apart, the pools and what is open are the same. -/
structure Beside (b b' : Broker) : Prop where
  sorted : b'.pools.Sorted
  pooled : ∀ a, b'.pools.proxy? a = b.pools.proxy? a
  opened : b'.isOpen = b.isOpen

section
variable {b b' : Broker} {proxy : Proxy}

theorem Beside.refl (hs : b.pools.Sorted) : b.Beside b := ⟨hs, fun _ => rfl, rfl⟩

theorem beside_setMailbox (hs : b.pools.Sorted) {m : Mailbox}
    (hm : m.closed = (b.mailbox proxy).closed) : b.Beside (b.setMailbox proxy m) :=
  ⟨hs, fun _ => rfl, isOpen_setMailbox hm⟩

theorem beside_borrow (hs : b.pools.Sorted) (nat : NatClass) : b.Beside (b.borrow nat).2 := by
  rcases Pools.borrow_cases hs nat with ⟨heq, -⟩ | ⟨slot, -, -, hr⟩
  · exact ⟨by rw [borrow, heq]; exact hs, fun _ => by rw [borrow, heq], rfl⟩
  · exact ⟨hr.sorted, hr.proxy?, rfl⟩

theorem beside_giveBack (hs : b.pools.Sorted) (proxy : Proxy) : b.Beside (b.giveBack proxy) := by
  rw [giveBack]
  split
  · exact .refl hs
  · split
    · exact ⟨hs, fun _ => rfl, rfl⟩
    · rcases Pools.release_cases hs proxy.addr with ⟨heq, -⟩ | ⟨slot, -, -, -, hr⟩
      · rw [heq]
        exact .refl hs
      · exact ⟨hr.sorted, hr.proxy?, rfl⟩

/-- A client that is given back makes the broker forget the record, if it is current and its
mailbox is closed. -/
theorem host?_giveBack (b : Broker) (proxy : Proxy) (a : Address) :
    (b.giveBack proxy).directory.host? a =
      if b.directory.isCurrent proxy = true ∧ b.isOpen proxy = false ∧ a = proxy.addr then none
      else b.directory.host? a := by
  rw [giveBack, isOpen]
  cases hcurrent : b.directory.isCurrent proxy with
  | false => simp
  | true =>
    cases hclosed : (b.mailbox proxy).closed with
    | false => simp
    | true => simp [Directory.host?_removeHost]

end

end Broker

/-- What a section of a match does: at most it gives the client back, and the match keeps its
record. -/
structure Client.Turn (b : Broker) (c : Client) (back : Option Proxy) (c' : Client) (b' : Broker) :
    Prop where
  beside : b.Beside b'
  hosts : ∀ a, b'.directory.host? a = match back with
    | some p => (b.giveBack p).directory.host? a
    | none => b.directory.host? a
  proxy : ∀ m', c'.matching? = some m' → ∃ m, c.matching? = some m ∧ m.proxy = m'.proxy

namespace Client

section
variable {b : Broker} (hs : b.pools.Sorted)
include hs

theorem Turn.refl (c : Client) : Turn b c none c b :=
  ⟨.refl hs, fun _ => rfl, fun m hm => ⟨m, hm, rfl⟩⟩

theorem turn_goOn (c : Client) :
    Turn b c (c.failing?.map (·.proxy)) (c.goOn b).1 (c.goOn b).2 := by
  cases c with
  | borrowed m =>
    simp only [goOn, Broker.postOffer]
    cases hpost : (b.mailbox m.proxy).post m.offer with
    | error error => exact ⟨.refl hs, fun _ => rfl, fun m' hm' => ⟨m, rfl, by cases hm'; rfl⟩⟩
    | ok posted =>
      obtain ⟨ticket, box⟩ := posted
      exact ⟨Broker.beside_setMailbox hs (Mailbox.closed_post hpost), fun _ => rfl,
        fun m' hm' => ⟨m, rfl, by cases hm'; rfl⟩⟩
  | refused m error | late m =>
    -- Beside giving the client back, the match is counted.
    have hback := Broker.beside_giveBack hs m.proxy
    exact ⟨⟨hback.sorted, hback.pooled, hback.opened⟩, fun _ => rfl, fun m' hm' => by cases hm'⟩
  | posted m | ended r => exact .refl hs _

theorem turn_answer (text : String) (c : Client) :
    Turn b c none (c.answer b text).1 (c.answer b text).2 := by
  cases c with
  | posted m =>
    simp only [answer, Broker.concludeMatch, Broker.bindAnswered]
    cases hhost : b.directory.host? m.proxy.addr with
    | none => exact ⟨⟨hs, fun _ => rfl, rfl⟩, fun _ => rfl, fun m' hm' => by cases hm'⟩
    | some current =>
      exact ⟨⟨hs, fun _ => rfl, rfl⟩, Directory.host?_consume _ _, fun m' hm' => by cases hm'⟩
  | borrowed m | refused m error | late m | ended r => exact .refl hs _

theorem turn_expire (c : Client) : Turn b c none (c.expire b).1 (c.expire b).2 := by
  cases c with
  | posted m =>
    have hproxy (m' : Matching) (hm' : (Client.late m).matching? = some m') :
        ∃ m₀, (Client.posted m).matching? = some m₀ ∧ m₀.proxy = m'.proxy := ⟨m', hm', rfl⟩
    simp only [expire, History.abandoned]
    split
    · exact ⟨Broker.beside_setMailbox hs rfl, fun _ => rfl, hproxy⟩
    · exact ⟨.refl hs, fun _ => rfl, hproxy⟩
  | borrowed m | refused m error | late m | ended r => exact .refl hs _

end

end Client

namespace Scene

/-- The matches are about records that were entered. -/
def Known (s : Scene) (records : List Proxy) : Prop :=
  ∀ c ∈ s.clients, ∀ m, c.matching? = some m → m.proxy ∈ records

/-- What a section of a match does to a scene. -/
structure Aside (s : Scene) (sec : Section) (s' : Scene) (records : List Proxy) : Prop where
  stage : s'.stage = s.stage
  beside : s.broker.Beside s'.broker
  hosts : ∀ a, s'.broker.directory.host? a = match s.givesBack? sec with
    | some p => (s.broker.giveBack p).directory.host? a
    | none => s.broker.directory.host? a
  known : s'.Known records

section
variable {setup : Setup} {proxy : Proxy} {s : Scene} {records : List Proxy}

theorem aside_start (h : s.Known records) (hs : s.broker.pools.Sorted)
    (pooled : ∀ {a p}, s.broker.pools.proxy? a = some p → p ∈ records) (request : ClientRequest) :
    s.Aside (.start request) (s.start setup request) records := by
  have hclients {c : Client} (hc : ∀ m, c.matching? = some m → m.proxy ∈ records) {b : Broker} :
      ({ s with broker := b, clients := s.clients ++ [c] } : Scene).Known records := by
    intro c₁ hin
    rcases List.mem_append.mp hin with hbefore | hlast
    · exact h c₁ hbefore
    · rwa [List.mem_singleton.mp hlast]
  simp only [start, Broker.openMatch]
  cases hcheck : Broker.checkRequest setup.catalog request with
  | error error => exact ⟨rfl, .refl hs, fun _ => rfl, hclients (by simp [Client.matching?])⟩
  | ok bridge =>
    obtain ⟨borrowed, b, hborrow⟩ : ∃ borrowed b, s.broker.borrow request.nat = (borrowed, b) :=
      ⟨_, _, rfl⟩
    have hbeside : s.broker.Beside b := by
      have hb := Broker.beside_borrow hs request.nat
      rwa [hborrow] at hb
    have hdir := Broker.directory_of_borrow hborrow
    cases borrowed with
    | none =>
      simp only [hborrow]
      exact ⟨rfl, ⟨hbeside.sorted, hbeside.pooled, hbeside.opened⟩,
        fun a => congrArg (·.host? a) hdir, hclients (by simp [Client.matching?])⟩
    | some p =>
      simp only [hborrow]
      have hpools : (s.broker.pools.borrow request.nat).1 = some p := congrArg Prod.fst hborrow
      refine ⟨rfl, hbeside, fun a => congrArg (·.host? a) hdir, hclients fun m hm => ?_⟩
      cases hm
      exact pooled (Pools.pooled_of_borrow hs hpools)

theorem aside_update (h : s.Known records) (hs : s.broker.pools.Sorted) (sec : Section)
    (client : Nat) (f : Broker → Client → Client × Broker)
    (nobody : s.clients[client]? = none → s.givesBack? sec = none)
    (turn : ∀ c, s.clients[client]? = some c →
      c.Turn s.broker (s.givesBack? sec) (f s.broker c).1 (f s.broker c).2) :
    s.Aside sec (s.update client f) records := by
  rw [update]
  cases hc : s.clients[client]? with
  | none => exact ⟨rfl, .refl hs, fun a => by rw [nobody hc], h⟩
  | some c =>
    obtain ⟨beside, hosts, keeps⟩ := turn c hc
    refine ⟨rfl, beside, hosts, fun c₁ hin m' hm' => ?_⟩
    rcases List.mem_or_eq_of_mem_set hin with hbefore | rfl
    · exact h c₁ hbefore m' hm'
    · obtain ⟨m, hm, heq⟩ := keeps m' hm'
      exact heq ▸ h c (List.mem_of_getElem? hc) m hm

/-- A section of a match beside the poll. -/
theorem aside_step (h : s.Known records) (hs : s.broker.pools.Sorted)
    (pooled : ∀ {a p}, s.broker.pools.proxy? a = some p → p ∈ records) (sec : Section)
    (hsec : sec ≠ .poll) : s.Aside sec (s.step setup proxy sec) records := by
  cases sec with
  | poll => exact absurd rfl hsec
  | start request => exact aside_start h hs pooled request
  | goOn client =>
    refine aside_update h hs (.goOn client) client Client.goOn (fun hnone => ?_) fun c hc => ?_
    · simp [givesBack?, hnone]
    · rw [givesBack?, hc]
      exact Client.turn_goOn hs c
  | answer client text =>
    exact aside_update h hs (.answer client text) client (Client.answer · text) (fun _ => rfl)
      fun c _ => Client.turn_answer hs text c
  | expire client =>
    exact aside_update h hs (.expire client) client Client.expire (fun _ => rfl)
      fun c _ => Client.turn_expire hs c

end

/-! ## The record of the poll -/

/-- What holds in every scene that goes back to a broker: no record is entered any more. -/
structure Inv (b₀ : Broker) (records : List Proxy) (s : Scene) : Prop where
  sorted : s.broker.pools.Sorted
  pooled : ∀ {a p}, s.broker.pools.proxy? a = some p → b₀.pools.proxy? a = some p
  hosts : ∀ {a p}, s.broker.directory.host? a = some p → b₀.directory.host? a = some p
  known : s.Known records

/-- How the record of the poll stands, if it was pooled. It is forgotten only between the
closing of its mailbox and its withdrawal, and then it stays in the pools. -/
def Stands (s : Scene) (proxy : Proxy) (forgotten : Prop) : Prop :=
  match s.stage with
  | .listening | .heard _ =>
    s.broker.pools.proxy? proxy.addr = some proxy ∧
      s.broker.directory.host? proxy.addr = some proxy ∧ s.broker.isOpen proxy = true ∧ ¬ forgotten
  | .closed _ =>
    s.broker.pools.proxy? proxy.addr = some proxy ∧ s.broker.isOpen proxy = false ∧
      (s.broker.directory.host? proxy.addr = some proxy ↔ ¬ forgotten)
  | .returned _ => s.broker.pools.proxy? proxy.addr = some proxy ↔ forgotten

section
variable {setup : Setup} {proxy : Proxy} {b₀ : Broker} {records : List Proxy} {s s' : Scene}
  {sec : Section}

/-- Only a record that was entered can be the current one. -/
theorem Inv.isCurrent_iff (h : s.Inv b₀ records) (h₀ : b₀.Agrees records) {p : Proxy}
    (hp : p ∈ records) :
    s.broker.directory.isCurrent p = true ↔ s.broker.directory.host? p.addr = some p :=
  Directory.isCurrent_iff_of_unique fun _ hcur hpoll =>
    h₀.eq_of_poll (h₀.current (h.hosts hcur)).2 hp hpoll

theorem known_givesBack? (h : s.Known records) {sec : Section} {p : Proxy}
    (hback : s.givesBack? sec = some p) : p ∈ records := by
  cases sec with
  | goOn client =>
    obtain ⟨m, hfailing, rfl⟩ := Option.map_eq_some_iff.mp hback
    obtain ⟨c, hc, hm⟩ := Option.bind_eq_some_iff.mp hfailing
    refine h c (List.mem_of_getElem? hc) m ?_
    cases c with
    | refused m₁ error | late m₁ => exact hm
    | borrowed m₁ | posted m₁ | ended r => cases hm
  | poll | start request | answer client text | expire client => cases hback

/-- A section of a match makes the broker forget the current record of an address exactly if
it gives a client back to it and its mailbox is closed. -/
theorem Aside.host?_iff (ha : s.Aside sec s' records) (h : s.Inv b₀ records)
    (h₀ : b₀.Agrees records) (hp : proxy ∈ records) :
    s'.broker.directory.host? proxy.addr = some proxy ↔
      s.broker.directory.host? proxy.addr = some proxy ∧
        ¬ (s.broker.isOpen proxy = false ∧ s.givesBack? sec = some proxy) := by
  rw [ha.hosts]
  cases hback : s.givesBack? sec with
  | none => simp
  | some q =>
    simp only [Broker.host?_giveBack, Option.some.injEq]
    have hcurrent := h.isCurrent_iff h₀ (known_givesBack? h.known hback)
    split
    · next hcond =>
      obtain ⟨hq, hclosed, haddr⟩ := hcond
      have hq := hcurrent.mp hq
      refine iff_of_false (by simp) ?_
      rintro ⟨hcur, hnot⟩
      obtain rfl : q = proxy := Option.some.inj (hq.symm.trans (haddr ▸ hcur))
      exact hnot ⟨hclosed, rfl⟩
    · next hcond =>
      refine ⟨fun hcur => ⟨hcur, ?_⟩, And.left⟩
      rintro ⟨hclosed, rfl⟩
      exact hcond ⟨hcurrent.mpr hcur, hclosed, rfl⟩

theorem Aside.inv (ha : s.Aside sec s' records) (h : s.Inv b₀ records) : s'.Inv b₀ records := by
  refine ⟨ha.beside.sorted, fun hpooled => h.pooled (ha.beside.pooled _ ▸ hpooled), ?_, ha.known⟩
  intro a p hcur
  rw [ha.hosts] at hcur
  split at hcur
  · rw [Broker.host?_giveBack] at hcur
    split at hcur
    · cases hcur
    · exact h.hosts hcur
  · exact h.hosts hcur

/-- A section of a match changes how the record stands only by forgetting it. -/
theorem Aside.stands (ha : s.Aside sec s' records) (h : s.Inv b₀ records)
    (h₀ : b₀.Agrees records) (hp : proxy ∈ records) {forgotten : Prop}
    (hstands : s.Stands proxy forgotten) :
    s'.Stands proxy (forgotten ∨ s.Forgets proxy sec) := by
  have hhost := ha.host?_iff h h₀ hp
  have hopened : s'.broker.isOpen proxy = s.broker.isOpen proxy := congrFun ha.beside.opened proxy
  rw [Stands] at hstands
  rw [Stands, ha.stage, ha.beside.pooled, hopened, hhost]
  cases hstage : s.stage with
  | listening | heard offer =>
    rw [hstage] at hstands
    obtain ⟨hpooled, hcur, hopen, hnot⟩ := hstands
    have hkept : ¬ (s.broker.isOpen proxy = false ∧ s.givesBack? sec = some proxy) := by
      simp [hopen]
    have hno : ¬ s.Forgets proxy sec := by simp [Forgets, hstage]
    exact ⟨hpooled, ⟨hcur, hkept⟩, hopen, not_or.mpr ⟨hnot, hno⟩⟩
  | closed offer =>
    rw [hstage] at hstands
    obtain ⟨hpooled, hclosed, hcur⟩ := hstands
    have hforgets : s.Forgets proxy sec ↔ s.givesBack? sec = some proxy := by
      simp [Forgets, hstage]
    refine ⟨hpooled, hclosed, ?_⟩
    rw [hcur, hforgets, not_or, and_iff_right hclosed]
  | returned offer =>
    rw [hstage] at hstands
    have hno : ¬ s.Forgets proxy sec := by simp [Forgets, hstage]
    rw [or_iff_left hno]
    exact hstands

/-- The sections of the poll forget no other record, and enter none. -/
theorem Inv.poll (h : s.Inv b₀ records) : (s.poll proxy).Inv b₀ records := by
  rw [Scene.poll]
  cases s.stage with
  | listening | heard offer => exact ⟨h.sorted, h.pooled, h.hosts, h.known⟩
  | returned offer => exact h
  | closed offer =>
    simp only [Broker.withdraw]
    split
    · have hsorted := Pools.sorted_remove h.sorted proxy.addr
      have hpooled {a : Address} {p : Proxy}
          (hp : (s.broker.pools.remove proxy.addr).2.proxy? a = some p) :
          b₀.pools.proxy? a = some p := by
        rw [Pools.proxy?, Pools.slot?_remove h.sorted] at hp
        split at hp
        · cases hp
        · exact h.pooled hp
      split
      · exact ⟨hsorted, hpooled, h.hosts, h.known⟩
      · exact ⟨hsorted, hpooled, fun hcur => h.hosts (Directory.host?_of_removeHost hcur), h.known⟩
    · exact ⟨h.sorted, h.pooled, h.hosts, h.known⟩

/-- The withdrawal takes the record out of the pools, unless it is forgotten. -/
theorem Stands.poll {forgotten : Prop} (hstands : s.Stands proxy forgotten)
    (h : s.Inv b₀ records) (h₀ : b₀.Agrees records) (hp : proxy ∈ records) :
    (s.poll proxy).Stands proxy forgotten := by
  have hcurrent := h.isCurrent_iff h₀ hp
  rw [Scene.poll]
  cases hstage : s.stage with
  | listening =>
    simp only [Stands, hstage] at hstands ⊢
    obtain ⟨hpooled, hcur, hopen, hnot⟩ := hstands
    have hkept : (s.broker.takeOffer proxy).2.isOpen = s.broker.isOpen :=
      Broker.isOpen_setMailbox rfl
    exact ⟨hpooled, hcur, hkept ▸ hopen, hnot⟩
  | heard offer =>
    simp only [Stands, hstage] at hstands ⊢
    obtain ⟨hpooled, hcur, -, hnot⟩ := hstands
    have hclosed : (s.broker.closeMailbox proxy).2.isOpen proxy = false := by
      simp [Broker.isOpen_closeMailbox]
    exact ⟨hpooled, hclosed, iff_of_true hcur hnot⟩
  | closed offer =>
    simp only [Stands, hstage] at hstands ⊢
    obtain ⟨hpooled, -, hhost⟩ := hstands
    rw [← hcurrent] at hhost
    rw [Broker.withdraw]
    split
    · next hcur =>
      -- Current, so not forgotten: it leaves the pools.
      have hgone : (s.broker.pools.remove proxy.addr).2.proxy? proxy.addr = none := by
        rw [Pools.proxy?, Pools.slot?_remove h.sorted, if_pos rfl]
        rfl
      have hnot := hhost.mp hcur
      split <;> simp [hgone, hnot]
    · next hcur => exact iff_of_true hpooled (not_not.mp (mt hhost.mpr hcur))
  | returned offer => simpa only [Stands, hstage] using hstands

/-- One section, the poll's or another one. -/
theorem Inv.step (h : s.Inv b₀ records) (h₀ : b₀.Agrees records) (sec : Section) :
    (s.step setup proxy sec).Inv b₀ records := by
  by_cases hsec : sec = .poll
  · subst hsec
    exact h.poll
  · refine (aside_step h.known h.sorted (fun hp => ?_) sec hsec).inv h
    exact (h₀.of_pooled (h.pooled hp)).2.2

theorem Stands.step {forgotten : Prop} (hstands : s.Stands proxy forgotten)
    (h : s.Inv b₀ records) (h₀ : b₀.Agrees records) (hp : proxy ∈ records) (sec : Section) :
    (s.step setup proxy sec).Stands proxy (forgotten ∨ s.Forgets proxy sec) := by
  by_cases hsec : sec = .poll
  · subst hsec
    have hno : ¬ s.Forgets proxy .poll := fun hforgets => by cases hforgets.2
    rw [or_iff_left hno]
    exact hstands.poll h h₀ hp
  · refine (aside_step h.known h.sorted (fun hp => ?_) sec hsec).stands h h₀ hp hstands
    exact (h₀.of_pooled (h.pooled hp)).2.2

end

/-! ## Schedules -/

/-- Some section of a schedule makes the broker forget the record between the closing of its
mailbox and its withdrawal. -/
def Forgotten (setup : Setup) (proxy : Proxy) (s : Scene) (schedule : List Section) : Prop :=
  ∃ before sec, before ++ [sec] <+: schedule ∧ (s.run setup proxy before).Forgets proxy sec

section
variable {setup : Setup} {proxy : Proxy} {b₀ : Broker} {records : List Proxy} {s : Scene}

theorem forgotten_nil : ¬ s.Forgotten setup proxy [] := by
  rintro ⟨before, sec, hpre, -⟩
  simpa using List.prefix_nil.mp hpre

theorem forgotten_append (schedule : List Section) (sec : Section) :
    s.Forgotten setup proxy (schedule ++ [sec]) ↔
      s.Forgotten setup proxy schedule ∨ (s.run setup proxy schedule).Forgets proxy sec := by
  simp only [Forgotten, List.prefix_concat_iff]
  constructor
  · rintro ⟨before, sec₁, heq | hpre, hforgets⟩
    · obtain ⟨rfl, hsec⟩ := List.append_inj' heq rfl
      obtain rfl := List.singleton_inj.mp hsec
      exact .inr hforgets
    · exact .inl ⟨before, sec₁, hpre, hforgets⟩
  · rintro (⟨before, sec₁, hpre, hforgets⟩ | hforgets)
    · exact ⟨before, sec₁, .inr hpre, hforgets⟩
    · exact ⟨schedule, sec, .inl rfl, hforgets⟩

theorem run_inv (h : s.Inv b₀ records) (h₀ : b₀.Agrees records) (schedule : List Section) :
    (s.run setup proxy schedule).Inv b₀ records := by
  induction schedule using List.reverseRecOn with
  | nil => exact h
  | append_singleton schedule sec ih =>
    rw [run_append]
    exact ih.step h₀ sec

theorem run_stands (h : s.Inv b₀ records) (h₀ : b₀.Agrees records) (hp : proxy ∈ records)
    (hstands : s.Stands proxy False) (schedule : List Section) :
    (s.run setup proxy schedule).Stands proxy (s.Forgotten setup proxy schedule) := by
  induction schedule using List.reverseRecOn with
  | nil =>
    rw [iff_false_intro forgotten_nil]
    exact hstands
  | append_singleton schedule sec ih =>
    rw [run_append, forgotten_append]
    exact ih.step (run_inv h h₀ schedule) h₀ hp sec

end

/-! ## Beside a run -/

theorem clientsOf_known {t : History} (h : t.Sound) : (listening t.traffic).Known t.records := by
  intro c hin m hm
  obtain ⟨⟨n, call⟩, hcall, heq⟩ := List.mem_filterMap.mp hin
  cases call with
  | matching m₁ =>
    cases heq
    cases hm
    exact h.known (Table.mem_entries.mp hcall)
  | polling p | moving r => cases heq

theorem inv_listening {t : History} (h : t.Sound) :
    (listening t.traffic).Inv t.broker t.records where
  sorted := h.order.agrees.sorted
  pooled hp := hp
  hosts hp := hp
  known := clientsOf_known h

theorem stands_listening {t : History} (h : t.Sound) {proxy : Proxy}
    (hpooled : t.broker.pools.proxy? proxy.addr = some proxy) :
    (listening t.traffic).Stands proxy False := by
  obtain ⟨hcur, hopen, -⟩ := h.order.agrees.of_pooled hpooled
  exact ⟨hpooled, hcur, hopen, not_false⟩

/-- When a poll has returned, beside matches that were waiting and matches that came since,
section by section and in any order, its record is in neither pool and is handed out to
nobody, except in one case: it was pooled when the poll began to listen, and a match that
was refused or had waited for too long gave its client back to it after its mailbox was
closed and before it was withdrawn. Then it is still in the pools. -/
theorem out_of_pools_iff (setup : Setup) (events : List History.Event) (proxy : Proxy)
    (entered : proxy ∈ (History.run setup events).records) (schedule : List Section)
    (offer : Option Offer) :
    let start := listening (History.run setup events).traffic
    let scene := start.run setup proxy schedule
    let out (p : Pools) : Prop := ¬ p.unrestricted.Holds proxy ∧ ¬ p.restricted.Holds proxy
    scene.stage = .returned offer →
      ((out scene.broker.pools ∧ ∀ nat, (scene.broker.borrow nat).1 ≠ some proxy) ↔
        out start.broker.pools ∨ ¬ start.Forgotten setup proxy schedule) := by
  intro start scene out ended
  have hsound := History.run_sound setup events
  have h₀ := hsound.order.agrees
  have hinv : scene.Inv (History.run setup events).broker (History.run setup events).records :=
    run_inv (inv_listening hsound) h₀ schedule
  have hout (p : Pools) (hs : p.Sorted) : out p ↔ ¬ p.proxy? proxy.addr = some proxy := by
    rw [← Pools.holds_iff hs, not_or]
  have hnobody (hgone : out scene.broker.pools) (nat : NatClass) :
      (scene.broker.borrow nat).1 ≠ some proxy := fun hb =>
    (hout _ hinv.sorted).mp hgone (Pools.pooled_of_borrow hinv.sorted hb)
  rw [and_iff_left_of_imp hnobody, hout _ hinv.sorted, hout start.broker.pools h₀.sorted]
  by_cases hpooled : start.broker.pools.proxy? proxy.addr = some proxy
  · have hstands : scene.Stands proxy (start.Forgotten setup proxy schedule) :=
      run_stands (inv_listening hsound) h₀ entered (stands_listening hsound hpooled) schedule
    rw [Stands, ended] at hstands
    rw [or_iff_right (not_not.mpr hpooled)]
    exact not_congr hstands
  · -- What was not pooled when the poll began is not pooled since.
    exact iff_of_true (fun hp => hpooled (hinv.pooled hp)) (.inl hpooled)

/-- A match borrows the only proxy; the poll hears nothing and closes the mailbox; the match
is refused and gives its client back; the poll withdraws its record. -/
def refusedAtTheEnd : List Section :=
  [.start ⟨"c1", .unrestricted, "", "a=candidate:1"⟩, .poll, .poll, .goOn 0, .goOn 0, .poll]

/-- The record is handed out after its poll has returned. -/
theorem handed_out_after_poll :
    let setup : Setup := ⟨{ Settings.standard with mode := .mailbox }, Catalog.builtin⟩
    let host : Address := .v4 10 0 0 1
    let events : List History.Event :=
      [.register ⟨"s1", "standalone", .unrestricted, host, 0, true⟩]
    let proxy : Proxy := ⟨0, "s1", "standalone", .unrestricted, host, 0⟩
    let start := listening (History.run setup events).traffic
    let scene := start.run setup proxy refusedAtTheEnd
    proxy ∈ (History.run setup events).records ∧ scene.stage = .returned none ∧
      scene.broker.directory.host? host = none ∧
      scene.broker.pools.slots = [⟨proxy, 1⟩] ∧
      (scene.broker.borrow .unrestricted).1 = some proxy ∧
      start.Forgotten setup proxy refusedAtTheEnd := by
  intro setup host events proxy start scene
  have entered : proxy ∈ (History.run setup events).records := by decide +kernel
  have ended : scene.stage = .returned none := by decide +kernel
  have forgotten : scene.broker.directory.host? host = none := by decide +kernel
  have pooled : scene.broker.pools.slots = [⟨proxy, 1⟩] := by decide +kernel
  have handed : (scene.broker.borrow .unrestricted).1 = some proxy := by decide +kernel
  refine ⟨entered, ended, forgotten, pooled, handed, ?_⟩
  by_contra hnever
  have hout := (out_of_pools_iff setup events proxy entered refusedAtTheEnd none ended).mpr
    (.inr hnever)
  exact hout.2 .unrestricted handed

end Scene

end RelayBroker
