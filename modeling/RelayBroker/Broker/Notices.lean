/-
  RelayBroker.Broker.Notices

  What proxies send on their own: answers to offers, and notices that they took on a
  client or lost one.
-/

import RelayBroker.Broker.Basic

namespace RelayBroker.Broker

/-- Hands an answer to whoever waits for it. False if no record waits under the
session id, or nobody waits on its offer. -/
def submitAnswer (b : Broker) (sid : String) (answer : String) : Bool × Broker :=
  match b.directory.session? sid with
  | none => (false, b)
  | some proxy =>
    let (delivered, m) := (b.mailbox proxy).answer answer
    (delivered, b.setMailbox proxy m)

/-- Applies a notice of a host about a client; tells whether it applied. A host that
lost a client has one client less to carry. -/
def notify (b : Broker) (cid : String) (action : SessionAction) (addr : Address) : Bool × Broker :=
  let (applied, sessions) := b.sessions.notice cid action addr
  let pools := if applied && action = .remove then (b.pools.release addr).2 else b.pools
  (applied, { b with sessions, pools })

end RelayBroker.Broker
