/-
  RelayBroker.Broker.Overview

  What the operator sees: the load of every pooled proxy, and how many proxies of
  each kind wait for a client.
-/

import RelayBroker.Broker.Basic

namespace RelayBroker

/-- How many proxies wait for a client, by type and by class, how many are pooled, and
how many clients have sessions. -/
structure Summary where
  available : Nat
  /-- By type, in the order of the types' names. -/
  byType : List (String × Nat)
  restricted : Nat
  unrestricted : Nat
  unknown : Nat
  pooled : Nat
  sessions : Nat
deriving DecidableEq, Repr

/-- The text for the operator. -/
def Summary.render (s : Summary) : String :=
  "current snowflakes available: " ++ toString s.available ++ "\n" ++
  String.join (s.byType.map fun (type, n) => "\t" ++ type ++ " proxies: " ++ toString n ++ "\n") ++
  "\nNAT Types available:\n\trestricted: " ++ toString s.restricted ++
  "\n\tunrestricted: " ++ toString s.unrestricted ++
  "\n\tunknown: " ++ toString s.unknown ++
  "\n\npooled proxies: " ++ toString s.pooled ++
  "\nlive client sessions: " ++ toString s.sessions

namespace Broker

/-- The load of a host that is pooled. -/
def load? (b : Broker) (addr : Address) : Option Nat :=
  b.pools.load? addr

/-- The host that carries a client. -/
def sessionHost? (b : Broker) (cid : String) : Option Address :=
  (b.sessions.get? cid).map (·.host)

/-- The record that waits under a session id. -/
def pendingProxy? (b : Broker) (sid : String) : Option Proxy :=
  b.directory.session? sid

/-- Every pooled proxy with its load, in the order of the addresses. -/
def loads (b : Broker) : List Slot :=
  b.pools.slots.mergeSort fun s t => s.proxy.addr.rank ≤ t.proxy.addr.rank

/-- How often each text occurs, in the order of the texts. -/
def tally (texts : List String) : List (String × Nat) :=
  let counts := texts.foldl (fun (t : Table String Nat) s => t.insert s ((t.get? s).getD 0 + 1))
    Table.empty
  counts.entries.mergeSort fun a b => a.1 ≤ b.1

/-- The numbers for the operator. -/
def summary (b : Broker) : Summary :=
  let pending := b.directory.pending
  let ofClass (nat : NatClass) : Nat := pending.countP fun p => p.nat = nat
  { available := b.directory.pendingSize
    byType := tally (pending.map (·.type))
    restricted := ofClass .restricted
    unrestricted := ofClass .unrestricted
    unknown := ofClass .unknown
    pooled := b.pools.size
    sessions := b.sessions.size }

end Broker

end RelayBroker
