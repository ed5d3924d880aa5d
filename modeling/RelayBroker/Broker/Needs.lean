/-
  RelayBroker.Broker.Needs

  What a call that waits needs from outside the broker: that something is sent to a
  proxy and the reply comes back, or that the call is told when its time is up.
-/

import RelayBroker.Broker.Traffic

namespace RelayBroker

/-- Something that a waiting call needs. -/
inductive Need where
  /-- An offer is to be pushed to a proxy, and the call goes on with its reply. -/
  | offer (proxy : Proxy) (offer : Offer)
  /-- An order is to be sent to the old host of a client, and is settled by the reply
  or after a time. -/
  | order (position : Nat) (migration : Migration) (limit : Nat)
  /-- The call expires after a time. -/
  | expiry (delay : Nat)
deriving DecidableEq, Repr

namespace Traffic

/-- What a call needs that was just started. The time of a poll whose turn has not
come does not run yet. -/
def needs (t : Traffic) (settings : Settings) (call : Nat) : List Need :=
  match t.calls.get? call with
  | some (.matching m) =>
    let expiry := Need.expiry settings.clientTimeout
    if m.ticket.isSome then [expiry] else [.offer m.proxy m.offer, expiry]
  | some (.polling proxy) =>
    if t.isNext call proxy then [.expiry settings.proxyTimeout] else []
  | some (.moving m) =>
    m.migrations.zipIdx.map fun (migration, position) =>
      .order position migration settings.transferTimeout
  | none => []

end Traffic

end RelayBroker
