/-
  RelayBroker.Wire.RescaleOrder

  The order to retire proxies, with the proxies that are to come.
-/

import RelayBroker.Address.Endpoint
import RelayBroker.Wire.Decode

namespace RelayBroker.Wire

/-- An order as it is written, hosts being named by texts. -/
structure RescaleOrder where
  retiring : List String
  incoming : List String
deriving DecidableEq, Repr

namespace RescaleOrder

/-- How an order is written. -/
def shape : Json.Shape RescaleOrder where
  name := "RescaleRequest"
  blank := ⟨[], []⟩
  fields := [
    .strings "oldIPs" fun hosts order => { order with retiring := hosts },
    .strings "newIPs" fun hosts order => { order with incoming := hosts }]

/-- Reads an order: the hosts to retire and the hosts to come. -/
def decode (body : Octets) : Except BrokerError (List Address × List Address) := do
  let order ← decodeBody "rescale" shape body
  let retiring ← order.retiring.mapM Address.ofHostName
  let incoming ← order.incoming.mapM Address.ofHostName
  return (retiring, incoming)

end RescaleOrder

end RelayBroker.Wire
