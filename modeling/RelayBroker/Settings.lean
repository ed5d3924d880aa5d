/-
  RelayBroker.Settings

  The settings of a broker and how they are read from the environment. A number that
  cannot be read is replaced by its default; a listening address that cannot be read
  stops the broker.
-/

import RelayBroker.Address.Endpoint
import RelayBroker.Text.Keyword

namespace RelayBroker

/-- How an offer reaches its proxy. -/
inductive SignalingMode where
  /-- It is sent to the proxy's own service. -/
  | push
  /-- It waits for the next poll of the proxy, and the answer is posted. -/
  | mailbox
deriving DecidableEq, Repr

namespace SignalingMode

/-- The mode that a word names; every other word means pushing. -/
def parse (s : String) : SignalingMode :=
  let word := Text.upper s
  if word = "MAILBOX" ∨ word = "LEGACY" then mailbox else push

/-- The word for a mode. -/
def name : SignalingMode → String
  | push => "push"
  | mailbox => "mailbox"

end SignalingMode

/-- The settings of a broker. Times are in milliseconds. -/
structure Settings where
  listenAddress : Endpoint
  /-- How many connections are served at once. -/
  concurrencyLimit : Nat
  /-- Longer bodies are refused. -/
  maxBodySize : Nat
  /-- How long a client waits for the answer of its proxy. -/
  clientTimeout : Nat
  /-- How long the poll of a proxy waits for an offer. -/
  proxyTimeout : Nat
  /-- How long one instruction to hand over a client may take. -/
  transferTimeout : Nat
  /-- The port of every proxy's own service. -/
  proxyPort : Nat
  mode : SignalingMode
  bridgeListPath : Option String
  /-- The token that a rescale order has to bear, if there is one. -/
  rescaleToken : Option String
  /-- Whether the operator's page lists every proxy. -/
  debugVerbose : Bool
  logFormat : String
deriving DecidableEq, Repr

namespace Settings

/-- Where a broker listens unless told otherwise. -/
def defaultListenAddress : Endpoint := ⟨.v4 0 0 0 0, 0, 8080⟩

/-- The settings of a broker that is told nothing. -/
def standard : Settings where
  listenAddress := defaultListenAddress
  concurrencyLimit := 1024
  maxBodySize := 100000
  clientTimeout := 10000
  proxyTimeout := 10000
  transferTimeout := 5000
  proxyPort := 51821
  mode := .push
  bridgeListPath := none
  rescaleToken := none
  debugVerbose := false
  logFormat := "json"

instance : Inhabited Settings := ⟨standard⟩

/-- Why there are no settings. -/
inductive Fault where
  | listenAddress
deriving DecidableEq, Repr

/-- The text that tells the fault. -/
def Fault.message : Fault → String
  | listenAddress => "LISTEN_ADDR must be a valid socket address: AddrParseError(Socket)"

/-- Reads the settings from variables. -/
def ofVariables (get? : String → Option String) : Except Fault Settings :=
  let number (limit : Nat) (name : String) (default : Nat) : Nat :=
    ((get? name).bind (Number.bounded? limit)).getD default
  let seconds (name : String) (default : Nat) : Nat :=
    number Number.max64 name default * 1000
  let nonempty (name : String) : Option String :=
    (get? name).filter (· ≠ "")
  let listenAddress? := match get? "LISTEN_ADDR" with
    | some text => Endpoint.parse? text
    | none => some defaultListenAddress
  match listenAddress? with
  | none => .error .listenAddress
  | some listenAddress => .ok {
      listenAddress
      concurrencyLimit := number Number.max64 "CONCURRENCY_LIMIT" 1024
      maxBodySize := number Number.max64 "MAX_BODY_SIZE" 100000
      clientTimeout := seconds "CLIENT_TIMEOUT_SECS" 10
      proxyTimeout := seconds "PROXY_TIMEOUT_SECS" 10
      transferTimeout := seconds "TRANSFER_TIMEOUT_SECS" 5
      proxyPort := number Number.max16 "PROXY_HTTP_PORT" 51821
      mode := SignalingMode.parse ((get? "SIGNALING_MODE").getD "push")
      bridgeListPath := nonempty "BRIDGE_LIST_PATH"
      rescaleToken := nonempty "RESCALE_TOKEN"
      debugVerbose := match get? "DEBUG_VERBOSE" with
        | some text => Text.lower text = "true" ∨ text = "1"
        | none => false
      logFormat := (get? "LOG_FORMAT").getD "json" }

end Settings

end RelayBroker
