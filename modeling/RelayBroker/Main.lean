/-
  RelayBroker.Main

  The program: it reads its settings and its list of bridges, listens, and lets the
  broker handle what comes in. Whatever the broker does happens in one piece, under a
  lock; what a waiting call needs is seen to beside it.
-/

import RelayBroker.Broker.Needs
import RelayBroker.Http.ProxyClient
import RelayBroker.Http.Reply
import RelayBroker.Http.Service
import Std.Http

namespace RelayBroker.Live

open Std.Async

/-! ## State -/

/-- A service at work, and who waits for which call. -/
structure Desk where
  service : Service
  waiting : Table Nat (IO.Promise Outcome)

/-- A broker that runs. -/
structure Running where
  setup : Setup
  desk : Std.Mutex Desk

/-- Tells whoever waits for a call how it ended. -/
def Desk.tell (desk : Desk) (ended : Nat × Outcome) : BaseIO Desk := do
  match desk.waiting.get? ended.1 with
  | none => return desk
  | some promise =>
    promise.resolve ended.2
    return { desk with waiting := desk.waiting.erase ended.1 }

/-- Lets everything go on that can. -/
def Desk.settle (desk : Desk) : BaseIO Desk := do
  let (ended, traffic) := desk.service.traffic.settle
  ended.foldlM Desk.tell { desk with service := { desk.service with traffic } }

/-- Lets a call go on, and then everything else that can. -/
def Desk.goOn (desk : Desk) (call : Nat) (step : Traffic → Option Outcome × Traffic) :
    BaseIO Desk := do
  let (outcome, traffic) := step desk.service.traffic
  let desk := { desk with service := { desk.service with traffic } }
  match outcome with
  | some outcome => (← desk.tell (call, outcome)).settle
  | none => desk.settle

/-- Lets a call of a running broker go on. -/
def Running.goOn (r : Running) (call : Nat) (step : Traffic → Option Outcome × Traffic) :
    BaseIO Unit :=
  r.desk.atomically do
    set (← (← get).goOn call step)

/-! ## Addresses -/

/-- The address as the network layer has it. -/
def networkAddress : Address → Std.Net.IPAddr
  | .v4 a b c d => .v4 ⟨#v[a, b, c, d]⟩
  | .v6 groups => .v6 ⟨groups⟩

/-- The address with a port. -/
def socketAddress (addr : Address) (port : Nat) : Std.Net.SocketAddress :=
  match networkAddress addr with
  | .v4 host => .v4 ⟨host, port.toUInt16⟩
  | .v6 host => .v6 ⟨host, port.toUInt16⟩

/-- The host at the other end of a connection. -/
def hostOf : Std.Net.SocketAddress → Address
  | .v4 s => .v4 s.addr.octets[0] s.addr.octets[1] s.addr.octets[2] s.addr.octets[3]
  | .v6 s => .v6 s.addr.segments

/-! ## Sending to proxies -/

/-- Everything that comes over a connection until it is closed. -/
def receiveAll (socket : TCP.Socket.Client) : Async ByteArray := do
  let mut all := ByteArray.empty
  repeat
    match ← socket.recv? 65536 with
    | some octets => all := all ++ octets
    | none => break
  return all

/-- Sends a request to a proxy and waits for the reply. -/
def send (r : Running) (addr : Address) (request : Http.ProxyClient.Outgoing) :
    Async Http.Reply := do
  let endpoint : Endpoint := ⟨addr, 0, r.setup.settings.proxyPort⟩
  let socket ← TCP.Socket.Client.mk
  socket.connect (socketAddress addr r.setup.settings.proxyPort)
  let head := "\r\n".intercalate [request.line, "Host: " ++ endpoint.text,
    "Content-Type: " ++ request.contentType,
    "Content-Length: " ++ toString request.body.length, "Connection: close", "", ""]
  socket.send (head.toUTF8 ++ ⟨request.body.toArray⟩)
  match Http.Reply.read? (← receiveAll socket).toList with
  | some reply => return reply
  | none => throw (IO.userError "the proxy sent no reply")

/-- Pushes an offer to a proxy. -/
def pushOffer (r : Running) (proxy : Proxy) (offer : Offer) :
    Async (Except BrokerError String) := do
  try
    let reply ← send r proxy.addr (Http.ProxyClient.pushOffer offer)
    return Http.ProxyClient.readAnswer reply.status reply.body
  catch e => return .error (.signaling (toString e))

/-- Sends an order to the old host of a client; tells whether it was delivered. -/
def sendOrder (r : Running) (order : Migration) : Async Bool := do
  try
    let reply ← send r order.source (Http.ProxyClient.orderOf order)
    return (Http.ProxyClient.readReceipt reply.status).isOk
  catch _ => return false

/-- Waits for a number of milliseconds. -/
def pause (delay : Nat) : Async Unit :=
  sleep (Std.Time.Millisecond.Offset.ofNat delay)

/-- Sees to something that a call needs. -/
def Running.provide (r : Running) (call : Nat) : Need → Async Unit
  | .offer proxy offer => background (do
      let reply ← pushOffer r proxy offer
      r.goOn call fun t => t.reply call reply : Async Unit)
  | .order position order limit => do
    background (do
      let delivered ← sendOrder r order
      r.goOn call fun t => t.settleTransfer call position delivered : Async Unit)
    background (do
      pause limit
      r.goOn call fun t => t.settleTransfer call position false : Async Unit)
  | .expiry delay => background (do
      pause delay
      r.goOn call fun t => t.expire call : Async Unit)

/-! ## Handling requests -/

/-- What is left to do for a request: to send a response, or to see to what a call
needs and to wait for its outcome. -/
inductive Pending where
  | respond (response : Http.Response)
  | await (call : Nat) (form : Service.Form) (needs : List Need) (promise : IO.Promise Outcome)

instance : Inhabited Outcome := ⟨.polled none⟩

/-- Starts to handle a request. -/
def Running.start (r : Running) (peer : Address) (request : Http.Request) : BaseIO Pending :=
  r.desk.atomically do
    let desk ← get
    let (handling, service) := desk.service.handle r.setup peer request
    let desk := { desk with service }
    match handling with
    | .respond response =>
      set (← desk.settle)
      return .respond response
    | .await call form =>
      let promise ← IO.Promise.new
      let needs := service.traffic.needs r.setup.settings call
      set (← { desk with waiting := desk.waiting.insert call promise }.settle)
      return .await call form needs promise

/-- Handles a request. -/
def Running.handle (r : Running) (peer : Address) (request : Http.Request) :
    Async Http.Response := do
  match ← r.start peer request with
  | .respond response => return response
  | .await call form needs promise =>
    for need in needs do
      r.provide call need
    return form.respond r.setup (← await promise)

/-- Reads a body up to one octet more than is accepted. -/
def readBody (limit : Nat) (stream : Std.Http.Body.Stream) : Async Octets := do
  let mut all := ByteArray.empty
  for chunk in stream do
    all := all ++ chunk.data
    if limit < all.size then break
  return all.toList

/-- Handles what came over a connection. -/
def Running.onRequest (r : Running) (request : Std.Http.Request Std.Http.Body.Stream) :
    Async (Std.Http.Response Std.Http.Body.Any) := do
  let peer := match request.extensions.get Std.Http.Server.RemoteAddr with
    | some remote => hostOf remote.addr
    | none => default
  let body ← readBody r.setup.settings.maxBodySize request.body
  let response ← r.handle peer {
    method := toString request.line.method
    target := toString request.line.uri
    headers := request.line.headers.toList.map fun (name, value) =>
      (toString name, Text.utf8 (toString value))
    body }
  let status := (Std.Http.Status.ofCode none response.status.toUInt16).getD .internalServerError
  let headers := response.headers.foldl (fun headers (name, value) => headers.insert! name value)
    Std.Http.Headers.empty
  let full ← ((Std.Http.Response.new.status status).headers headers).fromBytes
    ⟨response.body.toArray⟩
  return full

/-! ## Starting -/

/-- What the file system has at a path. -/
def fileContent (path : String) : IO Catalog.FileContent := do
  try
    return .octets (← IO.FS.readBinFile path).toList
  catch _ =>
    let opens ← IO.FS.withFile path .read (fun _ => pure true) <|> pure false
    return if opens then .directory else .missing

/-- The bridges that a broker with the given settings serves. -/
def catalogOf (settings : Settings) : IO (Except BrokerError Catalog) := do
  match settings.bridgeListPath with
  | none => return .ok Catalog.builtin
  | some path => return Catalog.ofFile path (← fileContent path)

/-- Serves until the process ends. -/
def serve (setup : Setup) : Async Unit := do
  let settings := setup.settings
  let running : Running := ⟨setup, ← Std.Mutex.new ⟨Service.empty, Table.empty⟩⟩
  let address := socketAddress settings.listenAddress.host settings.listenAddress.port
  let server ← Std.Http.Server.serve address
    (Std.Http.Server.Handler.ofFn fun request => running.onRequest request)
    { maxConnections := settings.concurrencyLimit, maxBodySize := Number.max64, serverName := none }
  server.waitShutdown

/-- The variables that settings are read from. -/
def variableNames : List String :=
  ["LISTEN_ADDR", "CONCURRENCY_LIMIT", "MAX_BODY_SIZE", "CLIENT_TIMEOUT_SECS",
    "PROXY_TIMEOUT_SECS", "TRANSFER_TIMEOUT_SECS", "PROXY_HTTP_PORT", "SIGNALING_MODE",
    "BRIDGE_LIST_PATH", "RESCALE_TOKEN", "DEBUG_VERBOSE", "LOG_FORMAT"]

/-- Runs a broker with the settings of the environment. -/
def run : IO UInt32 := do
  let values ← variableNames.mapM fun name => return (name, ← IO.getEnv name)
  match Settings.ofVariables fun name => (values.lookup name).join with
  | .error fault =>
    IO.eprintln fault.message
    return 1
  | .ok settings =>
    match ← catalogOf settings with
    | .error e =>
      IO.eprintln e.message
      return 1
    | .ok catalog =>
      (serve ⟨settings, catalog⟩).block
      return 0

end RelayBroker.Live

/-- Runs the program. -/
def main : IO UInt32 :=
  RelayBroker.Live.run
