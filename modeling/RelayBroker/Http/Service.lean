/-
  RelayBroker.Http.Service

  The broker as an HTTP service: which request starts which operation, and how the
  outcome is told. A request that is refused changes nothing.

  Clients speak two dialects. One sends a bare session description and reads the bare
  answer; the other sends a versioned poll and is told the answer or an error in a
  document, unless the request itself is malformed.
-/

import RelayBroker.Broker.Overview
import RelayBroker.Broker.Traffic
import RelayBroker.Http.Message
import RelayBroker.Wire.ClientPoll
import RelayBroker.Wire.ProxyAnswer
import RelayBroker.Wire.ProxyPoll
import RelayBroker.Wire.RescaleOrder
import RelayBroker.Wire.SessionChange

namespace RelayBroker

/-- A broker with its calls, and how many clients sent a bare description. -/
structure Service where
  traffic : Traffic
  bareClients : Nat
deriving DecidableEq

namespace Service

open Http

/-- A service that was just started. -/
def empty : Service := ⟨Traffic.empty, 0⟩

instance : Inhabited Service := ⟨empty⟩

/-! ## Telling outcomes -/

/-- How the outcome of a call is told. -/
inductive Form where
  | proxyPoll
  | clientPoll
  | bareClient
  | rescale
deriving DecidableEq, Repr

/-- Tells an error by its status and its text. -/
def refusal (e : BrokerError) : Response :=
  .text e.status e.message

/-- Tells a client in a document what came of its poll. -/
def clientReply : Except BrokerError String → Response
  | .ok answer => .document (Wire.ClientReply.ofAnswer answer).encode
  | .error (.badRequest detail) => refusal (.badRequest detail)
  | .error e => .document (Wire.ClientReply.ofError e.message).encode

/-- Tells a client the bare answer. -/
def bareReply : Except BrokerError String → Response
  | .ok answer => .document (Text.utf8 answer)
  | .error e => refusal e

/-- Tells a polling proxy what came of its poll. -/
def proxyReply (relayUrl : String) : Option Offer → Response
  | some offer => .document (Wire.ProxyReply.matched offer.sdp offer.natType relayUrl).encode
  | none => .document (Wire.ProxyReply.noMatch relayUrl).encode

/-- Tells what came of a rescale. -/
def rescaleReply : Except BrokerError RescaleReport → Response
  | .ok _ => .text 200 "success"
  | .error e => refusal e

/-- Tells the outcome of a call. -/
def Form.respond (setup : Setup) (form : Form) (outcome : Outcome) : Response :=
  match outcome with
  | .matched r => if form = .bareClient then bareReply r else clientReply r
  | .polled offer => proxyReply setup.relayUrl offer
  | .rescaled r => rescaleReply r

/-- The response to a request, or the call for whose outcome it waits. -/
inductive Handling where
  | respond (r : Response)
  | await (call : Nat) (form : Form)

/-- Goes on with a call that was started. -/
def Form.handling (setup : Setup) (form : Form) : Progress → Handling
  | .done outcome => .respond (form.respond setup outcome)
  | .waiting call => .await call form

/-! ## Pages -/

/-- The page for the operator. -/
def debugPage (s : Service) (setup : Setup) : String :=
  let b := s.traffic.broker
  b.summary.render ++ "\n\n" ++ b.counters.render ++
    (if setup.settings.debugVerbose then
      "\n\npooled proxies by address:" ++ String.join (b.loads.map fun slot =>
        "\n\t" ++ slot.proxy.addr.text ++ " " ++ slot.proxy.nat.name ++
          " load=" ++ toString slot.load)
    else "") ++ "\n"

/-! ## Participants -/

/-- A proxy polls. -/
def handleProxyPoll (s : Service) (setup : Setup) (peer : Address) (body : Octets) :
    Except BrokerError (Handling × Service) := do
  let poll ← Wire.ProxyPoll.decode body
  let (proxy, traffic) := s.traffic.register {
    sid := poll.sid
    type := poll.effectiveType
    nat := NatClass.parse poll.nat
    addr := peer
    clients := poll.clients
    pattern := poll.relayPattern.isSome }
  match setup.settings.mode with
  | .push => return (.respond (proxyReply setup.relayUrl none), { s with traffic })
  | .mailbox =>
    let (progress, traffic) := traffic.startPoll proxy
    return (Form.handling setup .proxyPoll progress, { s with traffic })

/-- A client sends a bare session description. -/
def handleBareClient (s : Service) (setup : Setup) (peer : Address) (request : Request) :
    Except BrokerError (Handling × Service) := do
  let offer := Text.ofUtf8Lossy request.body
  -- Refused before a client id is given out, so that the request leaves no trace.
  checkDescription offer
  let nat := match request.header? "Snowflake-NAT-Type" with
    | some tag => NatClass.parse tag
    | none => .unknown
  let cid := "legacy-" ++ peer.text ++ "-" ++ toString s.bareClients
  let (progress, traffic) := s.traffic.startMatch setup ⟨cid, nat, "", offer⟩
  return (Form.handling setup .bareClient progress, ⟨traffic, s.bareClients + 1⟩)

/-- A client sends a poll. -/
def handleClientPoll (s : Service) (setup : Setup) (body : Octets) :
    Except BrokerError (Handling × Service) := do
  let poll ← Wire.ClientPoll.decode body
  let (progress, traffic) :=
    s.traffic.startMatch setup ⟨poll.cid, NatClass.parse poll.nat, poll.fingerprint, poll.offer⟩
  return (Form.handling setup .clientPoll progress, { s with traffic })

/-- A client asks for a proxy; a bare description starts with a brace. -/
def handleClient (s : Service) (setup : Setup) (peer : Address) (request : Request) :
    Except BrokerError (Handling × Service) :=
  if request.body.head? = some 0x7B then s.handleBareClient setup peer request
  else s.handleClientPoll setup request.body

/-- A proxy posts its answer to an offer. -/
def handleAnswer (s : Service) (body : Octets) : Except BrokerError (Handling × Service) := do
  let message ← Wire.ProxyAnswer.decode body
  checkDescription message.answer
  let (delivered, traffic) := s.traffic.submitAnswer message.sid message.answer
  return (.respond (.document (Wire.AnswerReply.of delivered).encode), { s with traffic })

/-- A proxy gives notice about a client. -/
def handleChange (s : Service) (peer : Address) (body : Octets) :
    Except BrokerError (Handling × Service) := do
  let change ← Wire.SessionChange.decode body
  match SessionAction.parse? change.action with
  | none => throw (.badRequest ("unknown action " ++ Text.quoted change.action))
  | some action =>
    let (_, traffic) := s.traffic.notify change.cid action peer
    return (.respond (.text 200 ""), { s with traffic })

/-- Whether a request bears the token that a rescale order needs, if one is set. -/
def isAuthorized (setup : Setup) (request : Request) : Bool :=
  match setup.settings.rescaleToken with
  | none => true
  | some token => request.header? "Authorization" = some ("Bearer " ++ token)

/-- The operator orders a rescale. -/
def handleRescale (s : Service) (setup : Setup) (request : Request) :
    Except BrokerError (Handling × Service) := do
  if !isAuthorized setup request then
    return (.respond (.text 401 "unauthorized"), s)
  let (retiring, incoming) ← Wire.RescaleOrder.decode request.body
  let (progress, traffic) := s.traffic.startRescale retiring incoming
  return (Form.handling setup .rescale progress, { s with traffic })

/-! ## Requests -/

/-- The places where participants send their requests. -/
inductive Route where
  | proxy
  | client
  | answer
  | change
  | rescale
deriving DecidableEq, Repr

/-- The route at a path. -/
def Route.ofPath? (path : String) : Option Route :=
  if path = "/proxy" then some proxy
  else if path = "/client" then some client
  else if path = "/answer" then some answer
  else if path = "/change-client" then some change
  else if path = "/rescale" then some rescale
  else none

/-- Handles a request of a participant whose body is not too long. -/
def handleRoute (s : Service) (setup : Setup) (peer : Address) (request : Request) :
    Route → Except BrokerError (Handling × Service)
  | .proxy => s.handleProxyPoll setup peer request.body
  | .client => s.handleClient setup peer request
  | .answer => s.handleAnswer request.body
  | .change => s.handleChange peer request.body
  | .rescale => s.handleRescale setup request

/-- Handles a request of a host. -/
def handle (s : Service) (setup : Setup) (peer : Address) (request : Request) :
    Handling × Service :=
  let respond (r : Response) : Handling × Service := (.respond r, s)
  let path := request.path
  if request.method = "OPTIONS" then respond (.text 200 "")
  else if path = "/robots.txt" then respond (.text 200 "User-agent: *\nDisallow: /\n")
  else if path = "/debug" then respond (.text 200 (s.debugPage setup))
  else match Route.ofPath? path with
    | none => respond (.text 404 "404 page not found\n")
    | some route =>
      if request.method ≠ "POST" then respond (.text 405 "")
      -- The body is looked at only where one is expected.
      else if setup.settings.maxBodySize < request.body.length then
        respond (refusal (.badRequest "unreadable body: length limit exceeded"))
      else match s.handleRoute setup peer.canonical request route with
        | .ok handled => handled
        | .error e => respond (refusal e)

end Service

end RelayBroker
