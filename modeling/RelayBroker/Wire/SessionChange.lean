/-
  RelayBroker.Wire.SessionChange

  The notice of a proxy that it took on a client or lost one.
-/

import RelayBroker.Wire.Decode

namespace RelayBroker.Wire

/-- A notice about the session of a client. -/
structure SessionChange where
  cid : String
  action : String
deriving DecidableEq, Repr

namespace SessionChange

/-- How a notice is written. -/
def shape : Json.Shape SessionChange where
  name := "ClientChange"
  blank := ⟨"", ""⟩
  fields := [
    .string "Cid" true fun s change => { change with cid := s },
    .string "Action" true fun s change => { change with action := s }]

/-- Reads a notice. -/
def decode (body : Octets) : Except BrokerError SessionChange :=
  decodeBody "client change" shape body

end SessionChange

end RelayBroker.Wire
