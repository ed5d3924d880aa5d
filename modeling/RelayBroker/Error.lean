/-
  RelayBroker.Error

  What can go wrong, how it is told, and the HTTP status that goes with it.
-/

namespace RelayBroker

/-- Why a request, an operation or a set-up step failed. -/
inductive BrokerError where
  /-- A participant sent something malformed. -/
  | badRequest (detail : String)
  /-- No pooled proxy is eligible for the client. -/
  | noCapacity
  /-- The matched proxy did not answer in time. -/
  | timeout
  /-- A response could not be produced. -/
  | internal (detail : String)
  /-- The client named a relay that is not listed. -/
  | unknownBridge (fingerprint : String)
  /-- A rescale could not place every session. -/
  | partialMigration (migrated stranded : Nat)
  /-- The exchange with a proxy failed. -/
  | signaling (detail : String)
  /-- The broker is set up wrongly. -/
  | config (detail : String)
deriving DecidableEq, Repr

namespace BrokerError

/-- The text that tells the error. -/
def message : BrokerError → String
  | badRequest detail => "bad request: " ++ detail
  | noCapacity => "no snowflake proxies currently available"
  | timeout => "timed out waiting for answer!"
  | internal detail => "internal error: " ++ detail
  | unknownBridge fingerprint => "unknown bridge fingerprint: " ++ fingerprint
  | partialMigration migrated stranded =>
    "rescale stranded " ++ toString stranded ++ " session(s) after migrating " ++ toString migrated
  | signaling detail => "signaling error: " ++ detail
  | config detail => "configuration error: " ++ detail

/-- The status code with which the error reaches a participant. -/
def status : BrokerError → Nat
  | badRequest _ | unknownBridge _ => 400
  | noCapacity => 503
  | timeout => 504
  | internal _ | partialMigration _ _ | signaling _ | config _ => 500

end BrokerError

end RelayBroker
