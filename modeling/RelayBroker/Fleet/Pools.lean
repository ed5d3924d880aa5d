/-
  RelayBroker.Fleet.Pools

  The proxies that can be handed out, in two pools. Restricted proxies are handed to
  unrestricted clients first; all other clients can only use an unrestricted proxy.
  A proxy that has not shown to be unrestricted counts as restricted.
-/

import RelayBroker.Fleet.LoadHeap

namespace RelayBroker

/-- The pool of unrestricted proxies and the pool of all others. -/
structure Pools where
  unrestricted : LoadHeap
  restricted : LoadHeap
deriving DecidableEq

namespace Pools

def empty : Pools := ⟨LoadHeap.empty, LoadHeap.empty⟩

instance : Inhabited Pools := ⟨empty⟩

/-! ## Views -/

/-- The pool of proxies of a class. -/
def ofClass (p : Pools) : NatClass → LoadHeap
  | .unrestricted => p.unrestricted
  | .restricted | .unknown => p.restricted

/-- How many proxies there are. -/
def size (p : Pools) : Nat :=
  p.unrestricted.size + p.restricted.size

/-- Whether there are no proxies. -/
def isEmpty (p : Pools) : Bool :=
  p.unrestricted.isEmpty && p.restricted.isEmpty

/-- The load of a host that is pooled. -/
def load? (p : Pools) (addr : Address) : Option Nat :=
  (p.unrestricted.load? addr).or (p.restricted.load? addr)

/-- All slots, those of the unrestricted pool first, each pool in heap order. -/
def slots (p : Pools) : List Slot :=
  p.unrestricted.slots.toList ++ p.restricted.slots.toList

/-! ## Operations -/

/-- Takes out the proxy at a host, with its load. -/
def remove (p : Pools) (addr : Address) : Option Slot × Pools :=
  match p.unrestricted.remove addr with
  | (some slot, rest) => (some slot, { p with unrestricted := rest })
  | (none, _) =>
    let (slot, rest) := p.restricted.remove addr
    (slot, { p with restricted := rest })

/-- Puts a proxy into the pool of its class; a proxy of the same host leaves whichever
pool it is in and is given back. -/
def insert (p : Pools) (proxy : Proxy) (load : Nat) : Option Proxy × Pools :=
  let (replaced, rest) := p.remove proxy.addr
  let p' : Pools := match proxy.nat with
    | .unrestricted => { rest with unrestricted := (rest.unrestricted.insert proxy load).2 }
    | .restricted | .unknown => { rest with restricted := (rest.restricted.insert proxy load).2 }
  (replaced.map (·.proxy), p')

/-- Hands out the least loaded unrestricted proxy. -/
def borrowUnrestricted (p : Pools) : Option Proxy × Pools :=
  let (proxy, rest) := p.unrestricted.borrow
  (proxy, { p with unrestricted := rest })

/-- Hands out the best proxy for a client of a class. -/
def borrow (p : Pools) : NatClass → Option Proxy × Pools
  | .unrestricted =>
    match p.restricted.borrow with
    | (some proxy, rest) => (some proxy, { p with restricted := rest })
    | (none, _) => p.borrowUnrestricted
  | .restricted | .unknown => p.borrowUnrestricted

/-- Takes one client off a host, in whichever pool it is; tells whether there was one
to take. -/
def release (p : Pools) (addr : Address) : Bool × Pools :=
  match p.unrestricted.release addr with
  | (true, rest) => (true, { p with unrestricted := rest })
  | (false, _) =>
    let (released, rest) := p.restricted.release addr
    (released, { p with restricted := rest })

end Pools

end RelayBroker
