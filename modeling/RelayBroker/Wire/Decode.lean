/-
  RelayBroker.Wire.Decode

  How a message that cannot be read is reported to its sender.
-/

import RelayBroker.Error
import RelayBroker.Json.Record

namespace RelayBroker.Wire

/-- Reads a record from the body of the message called `what`. -/
def decodeBody {σ : Type} (what : String) (shape : Json.Shape σ) (body : Octets) :
    Except BrokerError σ :=
  (Json.decode shape body).mapError fun fault => .badRequest (what ++ ": " ++ fault.message)

end RelayBroker.Wire
