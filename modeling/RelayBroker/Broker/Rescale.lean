/-
  RelayBroker.Broker.Rescale

  Retiring hosts. All of them leave the pools and the directory first; then their
  sessions are moved to other proxies, host by host and in the order in which they
  were bound. The first session for which there is no proxy ends the rescale, and
  what was moved stays moved.
-/

import RelayBroker.Broker.Basic

namespace RelayBroker

/-- A client that was moved from one host to another. -/
structure Migration where
  cid : String
  source : Address
  target : Address
deriving DecidableEq, Repr

/-- The outcome of a rescale that placed every session. -/
structure RescaleReport where
  retired : Nat
  migrations : List Migration
  transfersFailed : Nat
deriving DecidableEq, Repr

/-- How far the sessions of retired hosts have been moved. -/
structure Relocation where
  pools : Pools
  sessions : Sessions
  migrations : List Migration
deriving DecidableEq

namespace Relocation

/-- Moves sessions of a host, until there is no proxy for one; gives the number of
sessions left. -/
def moveSessions (host : Address) : List Session → Relocation → Relocation × Nat
  | [], r => (r, 0)
  | session :: rest, r =>
    match r.pools.borrow session.nat with
    | (none, _) => (r, rest.length + 1)
    | (some proxy, pools) =>
      moveSessions host rest {
        pools
        sessions := (r.sessions.rebind session.cid proxy.addr).2
        migrations := r.migrations ++ [⟨session.cid, host, proxy.addr⟩] }

/-- Moves the sessions of hosts, until there is no proxy for one; gives the number of
sessions left on the host that was being cleared. -/
def clearHosts : List Address → Relocation → Relocation × Nat
  | [], r => (r, 0)
  | host :: hosts, r =>
    match moveSessions host (r.sessions.ofHost host) r with
    | (r, 0) => clearHosts hosts { r with sessions := (r.sessions.dropHost host).2 }
    | (r, left) => (r, left)

end Relocation

namespace Broker

/-- Takes a host out of the pools and the directory. -/
def retireHost (b : Broker) (host : Address) : Broker :=
  { b with
    pools := (b.pools.remove host).2
    directory := (b.directory.removeHost host).2 }

/-- Retires hosts and moves their sessions; gives the moves and the number of sessions
left behind on the host where it ended. -/
def relocate (b : Broker) (retiring : List Address) : List Migration × Nat × Broker :=
  -- All hosts leave first, so that no session moves to a host that retires as well.
  let b := retiring.foldl retireHost b
  let (r, stranded) := Relocation.clearHosts retiring ⟨b.pools, b.sessions, []⟩
  (r.migrations, stranded, { b with pools := r.pools, sessions := r.sessions })

/-- Counts an instruction that was settled. -/
def countTransfer (b : Broker) (delivered : Bool) : Broker :=
  { b with counters := b.counters.transfer delivered }

/-- Ends a rescale once all its instructions are settled. -/
def concludeRescale (b : Broker) (retired : Nat) (migrations : List Migration)
    (stranded failed : Nat) : Except BrokerError RescaleReport × Broker :=
  if 0 < stranded then
    (.error (.partialMigration migrations.length stranded),
      { b with counters := b.counters.rescale false })
  else
    (.ok ⟨retired, migrations, failed⟩, { b with counters := b.counters.rescale true })

end Broker

end RelayBroker
