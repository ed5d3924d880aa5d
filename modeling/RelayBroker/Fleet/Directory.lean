/-
  RelayBroker.Fleet.Directory

  Proxies by host and by session id. The host index holds the current record of each
  host until the host polls again or is retired; the session index holds the records
  that still wait to be handed a client.
-/

import RelayBroker.Fleet.Proxy
import RelayBroker.Table

namespace RelayBroker

/-- The two indexes. -/
structure Directory where
  bySession : Table String Proxy
  byHost : Table Address Proxy
deriving DecidableEq

namespace Directory

def empty : Directory := ⟨Table.empty, Table.empty⟩

instance : Inhabited Directory := ⟨empty⟩

/-! ## Views -/

/-- The record that waits under a session id. -/
def session? (d : Directory) (sid : String) : Option Proxy :=
  d.bySession.get? sid

/-- The current record of a host. -/
def host? (d : Directory) (addr : Address) : Option Proxy :=
  d.byHost.get? addr

/-- The records that wait to be handed a client. -/
def pending (d : Directory) : List Proxy :=
  d.bySession.values

/-- How many records wait to be handed a client. -/
def pendingSize (d : Directory) : Nat :=
  d.bySession.size

/-- How many hosts there are. -/
def size (d : Directory) : Nat :=
  d.byHost.size

/-- Whether there are no hosts. -/
def isEmpty (d : Directory) : Bool :=
  d.byHost.isEmpty

/-- Whether a record is the current one of its host. -/
def isCurrent (d : Directory) (proxy : Proxy) : Bool :=
  match d.host? proxy.addr with
  | some current => current.poll = proxy.poll
  | none => false

/-! ## Operations -/

/-- Ends the wait of a record and tells whether it waited. A later poll may wait under
the same session id; it stays. -/
def consume (d : Directory) (proxy : Proxy) : Bool × Directory :=
  match d.session? proxy.sid with
  | some current =>
    if current.poll = proxy.poll then (true, { d with bySession := d.bySession.erase proxy.sid })
    else (false, d)
  | none => (false, d)

/-- Enters a record under its host and its session id. The earlier record of the host
no longer waits and is given back. -/
def insert (d : Directory) (proxy : Proxy) : Option Proxy × Directory :=
  let previous := d.host? proxy.addr
  -- A record that is entered again is its own predecessor: it is struck from the
  -- session index and comes back into it.
  let entered : Directory := { d with byHost := d.byHost.insert proxy.addr proxy }
  let cleared := match previous with
    | some old => (entered.consume old).2
    | none => entered
  (previous, { cleared with bySession := cleared.bySession.insert proxy.sid proxy })

/-- Forgets a host and gives back its record. -/
def removeHost (d : Directory) (addr : Address) : Option Proxy × Directory :=
  match d.host? addr with
  | none => (none, d)
  | some proxy =>
    (some proxy, (({ d with byHost := d.byHost.erase addr } : Directory).consume proxy).2)

end Directory

end RelayBroker
