/-
  RelayBroker.Simulation.World

  A broker among scripted proxies. Time stands still until everything that can go on
  has gone on; then the clock moves to where something is due next, and what that sets
  going goes on at that time, before the clock moves again.
-/

import RelayBroker.Broker.Needs
import RelayBroker.Http.Service
import RelayBroker.Simulation.Agenda
import RelayBroker.Simulation.Script

namespace RelayBroker.Simulation

/-! ## State -/

/-- What is set to happen at a time. -/
inductive Event where
  /-- The time of a match or a poll is up. -/
  | expire (call : Nat)
  /-- A proxy complies with an order of a rescale. -/
  | comply (call position : Nat)
  /-- An order of a rescale fails, or its time is up. -/
  | miss (call position : Nat)
deriving DecidableEq, Repr

/-- Who waits for the outcome of a call: the step that started it, and how the outcome
is told if the step was a request. -/
structure Task where
  step : Nat
  form : Option Service.Form
deriving DecidableEq, Repr

/-- What became of a call. -/
inductive Ending where
  | outcome (o : Outcome)
  | response (r : Http.Response)

/-- What happened during a step. -/
structure Log where
  /-- The calls that ended, by the step that started them. -/
  ended : List (Nat × Ending)
  /-- The offers that were pushed. -/
  offers : List (Proxy × Offer)
  /-- The orders that were complied with. -/
  orders : List Migration

/-- A log without entries. -/
def Log.empty : Log := ⟨[], [], []⟩

/-- A broker, the time, and the proxies and calls around it. -/
structure World where
  setup : Setup
  service : Service
  agenda : Agenda Event
  scripts : Table Address Script
  /-- The matches whose offers are held back, the oldest first. -/
  held : List (Nat × String)
  /-- The calls whose time runs. -/
  timed : List Nat
  /-- The record of the last registration under each session id. -/
  records : Table String Proxy
  tasks : Table Nat Task
  log : Log

namespace World

/-- A broker that was just started. -/
def start (setup : Setup) (scripts : Table Address Script) : World :=
  ⟨setup, Service.empty, Agenda.empty, scripts, [], [], Table.empty, Table.empty, Log.empty⟩

/-- The traffic of the broker. -/
def traffic (w : World) : Traffic :=
  w.service.traffic

/-- The broker itself. -/
def broker (w : World) : Broker :=
  w.traffic.broker

/-- Replaces the traffic of the broker. -/
def setTraffic (w : World) (t : Traffic) : World :=
  { w with service := { w.service with traffic := t } }

/-- The script of a proxy. -/
def script (w : World) (addr : Address) : Script :=
  (w.scripts.get? addr).getD Script.obliging

/-- Whether a call waits. -/
def isWaiting (w : World) (call : Nat) : Bool :=
  w.traffic.calls.contains call

/-! ## Going on with calls -/

/-- How the outcome of a task is told. -/
def Task.ending (setup : Setup) (task : Task) (o : Outcome) : Ending :=
  match task.form with
  | none => .outcome o
  | some form => .response (form.respond setup o)

/-- Tells whoever waits for a call how it ended. -/
def tell (w : World) (call : Nat) (o : Outcome) : World :=
  match w.tasks.get? call with
  | none => w
  | some task => { w with
      tasks := w.tasks.erase call
      log := { w.log with ended := w.log.ended ++ [(task.step, Task.ending w.setup task o)] } }

/-- Takes over what came of going on with a call. -/
def proceed (w : World) (call : Nat) : Option Outcome × Traffic → World
  | (none, t) => w.setTraffic t
  | (some o, t) => (w.setTraffic t).tell call o

/-- A proxy replies to the offer of a match. -/
def reply (w : World) (call : Nat) (r : Except BrokerError String) : World :=
  w.proceed call (w.traffic.reply call r)

/-- Lets the time of a call run. -/
def arm (w : World) (call delay : Nat) : World :=
  { w with agenda := w.agenda.set delay (.expire call), timed := call :: w.timed }

/-! ## Proxies at work -/

/-- A proxy gets the offer of a match. -/
def pushOffer (w : World) (call : Nat) (proxy : Proxy) (offer : Offer) : World :=
  let w := { w with log := { w.log with offers := w.log.offers ++ [(proxy, offer)] } }
  match (w.script proxy.addr).offer with
  | .answer text => w.reply call (.ok text)
  | .fail reason => w.reply call (.error (.signaling reason))
  | .hang => w
  | .hold => { w with held := w.held ++ [(call, offer.cid)] }

/-- A proxy gets an order of a rescale, which is settled after `limit` at the latest. -/
def sendOrder (w : World) (call position : Nat) (order : Migration) (limit : Nat) : World :=
  let agenda := match (w.script order.source).transfer with
    | .comply delay => (w.agenda.set delay (.comply call position)).set limit (.miss call position)
    | .fail => w.agenda.set 0 (.miss call position)
    | .hang => w.agenda.set limit (.miss call position)
  { w with agenda }

/-- Sees to something that a call needs. -/
def provide (w : World) (call : Nat) : Need → World
  | .offer proxy offer => w.pushOffer call proxy offer
  | .order position order limit => w.sendOrder call position order limit
  | .expiry delay => w.arm call delay

/-- Sees to all that a call needs which was just started. -/
def launch (w : World) (call : Nat) : World :=
  (w.traffic.needs w.setup.settings call).foldl (fun w need => w.provide call need) w

/-- The oldest offer of a client that is held back, if its match still waits. -/
def heldCall? (w : World) (cid : String) : Option Nat :=
  (w.held.find? fun h => h.2 = cid && w.isWaiting h.1).map Prod.fst

/-- A proxy replies to the oldest offer of a client that it held back; tells whether
there is one. -/
def release (w : World) (cid : String) (r : Except BrokerError String) : Bool × World :=
  match w.heldCall? cid with
  | none => (false, w)
  | some call => (true, { w with held := w.held.filter (·.1 ≠ call) }.reply call r)

/-! ## Standstill -/

/-- Lets the time of those polls run whose turn has come since they were started. -/
def armPolls (w : World) : World :=
  w.traffic.calls.entries.foldl (fun w (call, pending) =>
    match pending with
    | .polling _ => if w.timed.contains call then w else w.launch call
    | _ => w) w

/-- The migration that an order of a rescale is about, if the order is under way. -/
def order? (w : World) (call position : Nat) : Option Migration :=
  match w.traffic.calls.get? call with
  | some (.moving m) => if m.underWay.contains position then m.migrations[position]? else none
  | _ => none

/-- Something happens whose time has come. -/
def happen (w : World) : Event → World
  | .expire call => w.proceed call (w.traffic.expire call)
  | .comply call position =>
    -- An order that is settled already, because its time was up, is not counted.
    let w := match w.order? call position with
      | some order => { w with log := { w.log with orders := w.log.orders ++ [order] } }
      | none => w
    w.proceed call (w.traffic.settleTransfer call position true)
  | .miss call position => w.proceed call (w.traffic.settleTransfer call position false)

/-- Lets everything go on that can, up to the time at which the clock is to stop, in
at most so many rounds. -/
def settleWithin : (rounds : Nat) → World → World
  | 0, w => w
  | n + 1, w =>
    let w := w.armPolls
    match w.agenda.popDue with
    | some (event, agenda) => settleWithin n ({ w with agenda }.happen event)
    | none =>
      -- Nothing is due. What the last event set going goes on now.
      match w.traffic.settle with
      | ([], _) =>
        -- Everything stands still, and so time goes on.
        match w.agenda.tick with
        | some agenda => settleWithin n { w with agenda }
        | none => w
      | (ended, t) =>
        settleWithin n (ended.foldl (fun w (call, o) => w.tell call o) (w.setTraffic t))

/-- Lets everything go on that can, up to the time at which the clock is to stop. A call
ends once and has at most one event left to be set, and the clock moves once for each
event and to its goal. -/
def settle (w : World) : World :=
  settleWithin (3 * w.traffic.calls.size + 2 * w.agenda.entries.length + 2) w

end World

end RelayBroker.Simulation
