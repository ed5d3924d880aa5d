/-
  RelayBroker.Session.Sessions

  The live sessions of clients, by client id, and the clients of each host in the
  order in which they were bound to it. A client is listed under a host exactly while
  its session is bound to that host.
-/

import RelayBroker.Address
import RelayBroker.NatClass
import RelayBroker.Session.Action
import RelayBroker.Table

namespace RelayBroker

/-- A client and the host that carries it. -/
structure Session where
  cid : String
  nat : NatClass
  host : Address
deriving DecidableEq, Repr

/-- The sessions by client id, and the client ids by host. -/
structure Sessions where
  byClient : Table String Session
  byHost : Table Address (List String)
deriving DecidableEq

namespace Sessions

def empty : Sessions := ⟨Table.empty, Table.empty⟩

instance : Inhabited Sessions := ⟨empty⟩

/-! ## Views -/

/-- The session of a client. -/
def get? (s : Sessions) (cid : String) : Option Session :=
  s.byClient.get? cid

/-- How many sessions there are. -/
def size (s : Sessions) : Nat :=
  s.byClient.size

/-- Whether there are no sessions. -/
def isEmpty (s : Sessions) : Bool :=
  s.byClient.isEmpty

/-- The sessions of a host, in the order in which they were bound to it. -/
def ofHost (s : Sessions) (host : Address) : List Session :=
  ((s.byHost.get? host).getD []).filterMap s.get?

/-! ## Operations -/

/-- Lists a client last under a host, unless it is listed there. -/
def link (s : Sessions) (cid : String) (host : Address) : Sessions :=
  let ids := (s.byHost.get? host).getD []
  { s with byHost := s.byHost.insert host (if ids.contains cid then ids else ids ++ [cid]) }

/-- Strikes a client from the list of a host; a list that becomes empty goes. -/
def unlink (s : Sessions) (cid : String) (host : Address) : Sessions :=
  match s.byHost.get? host with
  | none => s
  | some ids =>
    let rest := ids.filter fun (id : String) => id ≠ cid
    { s with byHost := if rest.isEmpty then s.byHost.erase host else s.byHost.insert host rest }

/-- Binds a client to a host, whether or not it has a session. -/
def bind (s : Sessions) (cid : String) (nat : NatClass) (host : Address) : Sessions :=
  -- A client that is bound again, even to the same host, moves to the end of the list.
  let freed := match s.get? cid with
    | some old => s.unlink cid old.host
    | none => s
  ({ freed with byClient := freed.byClient.insert cid ⟨cid, nat, host⟩ } : Sessions).link cid host

/-- Moves the session of a client to another host; tells whether there is one. -/
def rebind (s : Sessions) (cid : String) (host : Address) : Bool × Sessions :=
  match s.get? cid with
  | none => (false, s)
  | some old =>
    let moved : Sessions := { s with byClient := s.byClient.insert cid { old with host := host } }
    (true, (moved.unlink cid old.host).link cid host)

/-- Ends the session of a client if it is bound to a host; tells whether it was. -/
def unbind (s : Sessions) (cid : String) (host : Address) : Bool × Sessions :=
  match s.get? cid with
  | none => (false, s)
  | some session =>
    if session.host = host then
      (true, ({ s with byClient := s.byClient.erase cid } : Sessions).unlink cid host)
    else (false, s)

/-- Applies what a host says about a client; tells whether it applied. -/
def notice (s : Sessions) (cid : String) (action : SessionAction) (host : Address) :
    Bool × Sessions :=
  match action with
  | .add => s.rebind cid host
  | .remove => s.unbind cid host

/-- Drops the list of a host and gives it back. -/
def dropHost (s : Sessions) (host : Address) : List String × Sessions :=
  ((s.byHost.get? host).getD [], { s with byHost := s.byHost.erase host })

end Sessions

end RelayBroker
