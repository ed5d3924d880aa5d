/-
  RelayBroker.Simulation.Step

  What can be done to a broker in a simulation, step by step, and what each step
  shows: its result unless it waits, the results of earlier steps that came, and what
  reached the proxies.
-/

import RelayBroker.Broker.Overview
import RelayBroker.Simulation.World

namespace RelayBroker.Simulation

/-- A step of a simulation. -/
inductive Step where
  | register (poll : Broker.Announcement)
  /-- The record last registered under a session id waits for an offer. -/
  | awaitOffer (sid : String)
  | client (request : ClientRequest)
  | rescale (retiring incoming : List Address)
  /-- A proxy is handed out without a match. -/
  | borrow (nat : NatClass)
  | answer (sid text : String)
  | notify (cid : String) (action : SessionAction) (addr : Address)
  | load (addr : Address)
  | relayUrl
  | summary
  | counters
  /-- A proxy goes by another script from now on. -/
  | setScript (addr : Address) (script : Script)
  /-- A proxy replies to an offer that it held back. -/
  | release (cid : String) (reply : Except BrokerError String)
  | advance (delay : Nat)
  | request (peer : Address) (request : Http.Request)

/-- The result of a step. -/
inductive Result where
  | registered (proxy : Proxy)
  | ending (e : Ending)
  | borrowed (proxy : Option Proxy)
  | flag (b : Bool)
  | load (n : Option Nat)
  | relayUrl (url : String)
  | summary (s : Summary)
  | counters (c : Counters)
  /-- The step has no result. -/
  | nothing

/-- What a step shows. -/
structure Report where
  /-- The result; none if the step waits. -/
  result : Option Result
  /-- The results of earlier steps that came, in the order of the steps. -/
  finished : List (Nat × Ending)
  /-- The offers that were pushed. -/
  offers : List (Proxy × Offer)
  /-- The orders that were complied with. -/
  orders : List Migration

namespace World

/-! ## Carrying out a step -/

/-- Takes over what came of starting a call for a step. -/
def begin (w : World) (task : Task) : Progress × Traffic → Option Result × World
  | (.done o, t) => (some (.ending (Task.ending w.setup task o)), w.setTraffic t)
  | (.waiting call, t) =>
    let w := w.setTraffic t
    (none, { w with tasks := w.tasks.insert call task }.launch call)

/-- Carries out a step with a number; gives its result unless it waits. -/
def perform (w : World) (number : Nat) : Step → Option Result × World
  | .register poll =>
    let (proxy, t) := w.traffic.register poll
    let w := w.setTraffic t
    (some (.registered proxy), { w with records := w.records.insert poll.sid proxy })
  | .awaitOffer sid =>
    match w.records.get? sid with
    | none => (some .nothing, w)
    | some proxy => w.begin ⟨number, none⟩ (w.traffic.startPoll proxy)
  | .client request => w.begin ⟨number, none⟩ (w.traffic.startMatch w.setup request)
  | .rescale retiring incoming =>
    w.begin ⟨number, none⟩ (w.traffic.startRescale retiring incoming)
  | .borrow nat =>
    let (proxy, t) := w.traffic.borrow nat
    (some (.borrowed proxy), w.setTraffic t)
  | .answer sid text =>
    let (delivered, t) := w.traffic.submitAnswer sid text
    (some (.flag delivered), w.setTraffic t)
  | .notify cid action addr =>
    let (applied, t) := w.traffic.notify cid action addr
    (some (.flag applied), w.setTraffic t)
  | .load addr => (some (.load (w.broker.load? addr)), w)
  | .relayUrl => (some (.relayUrl w.setup.relayUrl), w)
  | .summary => (some (.summary w.broker.summary), w)
  | .counters => (some (.counters w.broker.counters), w)
  | .setScript addr script =>
    (some .nothing, { w with scripts := w.scripts.insert addr script })
  | .release cid reply =>
    let (released, w) := w.release cid reply
    (some (.flag released), w)
  | .advance delay => (some .nothing, { w with agenda := w.agenda.advance delay })
  | .request peer request =>
    match w.service.handle w.setup peer request with
    | (.respond r, service) => (some (.ending (.response r)), { w with service })
    | (.await call form, service) =>
      { w with service }.begin ⟨number, some form⟩ (.waiting call, service.traffic)

/-! ## Running steps -/

/-- Carries out a step, lets everything go on that can, and reports. -/
def step (w : World) (number : Nat) (s : Step) : Report × World :=
  let (started, w) := { w with log := Log.empty }.perform number s
  let w := w.settle
  let came := (w.log.ended.find? (·.1 = number)).map fun e => Result.ending e.2
  ({ result := started.or came
     finished := (w.log.ended.filter (·.1 ≠ number)).mergeSort (·.1 ≤ ·.1)
     offers := w.log.offers
     orders := w.log.orders }, w)

/-- The steps whose results have not come, in their order. -/
def unfinished (w : World) : List Nat :=
  (w.tasks.values.map (·.step)).mergeSort

end World

end RelayBroker.Simulation
