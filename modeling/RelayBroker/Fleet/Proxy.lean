/-
  RelayBroker.Fleet.Proxy

  A proxy as its latest poll announced it. Every poll makes a record of its own, so
  two records are the same exactly if they come from the same poll.
-/

import RelayBroker.Address
import RelayBroker.NatClass

namespace RelayBroker

/-- The record that a poll makes. -/
structure Proxy where
  /-- The number of the poll. -/
  poll : Nat
  /-- The session id that the proxy chose for this poll. -/
  sid : String
  /-- The kind of program that the proxy runs. -/
  type : String
  nat : NatClass
  /-- The host from which the poll came. -/
  addr : Address
  /-- How many clients the proxy said it serves. -/
  clients : Nat
deriving DecidableEq, Repr, Inhabited

end RelayBroker
