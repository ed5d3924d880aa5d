/-
  RelayBroker.Http.ProxyClient

  The broker as a client of a proxy's own service: what it sends when it pushes an
  offer or orders a client to be handed over, and how it reads what comes back.
-/

import RelayBroker.Broker.Rescale
import RelayBroker.Fleet.Mailbox
import RelayBroker.Json.Writer
import RelayBroker.Wire.ClientPoll

namespace RelayBroker.Http.ProxyClient

/-- A request to a proxy. -/
structure Outgoing where
  path : String
  body : Octets
deriving DecidableEq, Repr

/-- The first line of a request. -/
def Outgoing.line (r : Outgoing) : String :=
  "POST " ++ r.path ++ " HTTP/1.1"

/-- The media type of what is sent. -/
def Outgoing.contentType (_ : Outgoing) : String :=
  "application/json"

/-- Why a status code was chosen, as far as the standards name it. -/
def reason? : Nat → Option String
  | 100 => "Continue" | 101 => "Switching Protocols" | 102 => "Processing"
  | 200 => "OK" | 201 => "Created" | 202 => "Accepted" | 203 => "Non Authoritative Information"
  | 204 => "No Content" | 205 => "Reset Content" | 206 => "Partial Content"
  | 207 => "Multi-Status" | 208 => "Already Reported" | 226 => "IM Used"
  | 300 => "Multiple Choices" | 301 => "Moved Permanently" | 302 => "Found" | 303 => "See Other"
  | 304 => "Not Modified" | 305 => "Use Proxy" | 307 => "Temporary Redirect"
  | 308 => "Permanent Redirect"
  | 400 => "Bad Request" | 401 => "Unauthorized" | 402 => "Payment Required"
  | 403 => "Forbidden" | 404 => "Not Found" | 405 => "Method Not Allowed"
  | 406 => "Not Acceptable" | 407 => "Proxy Authentication Required" | 408 => "Request Timeout"
  | 409 => "Conflict" | 410 => "Gone" | 411 => "Length Required" | 412 => "Precondition Failed"
  | 413 => "Payload Too Large" | 414 => "URI Too Long" | 415 => "Unsupported Media Type"
  | 416 => "Range Not Satisfiable" | 417 => "Expectation Failed" | 418 => "I'm a teapot"
  | 421 => "Misdirected Request" | 422 => "Unprocessable Entity" | 423 => "Locked"
  | 424 => "Failed Dependency" | 425 => "Too Early" | 426 => "Upgrade Required"
  | 428 => "Precondition Required" | 429 => "Too Many Requests"
  | 431 => "Request Header Fields Too Large" | 451 => "Unavailable For Legal Reasons"
  | 500 => "Internal Server Error" | 501 => "Not Implemented" | 502 => "Bad Gateway"
  | 503 => "Service Unavailable" | 504 => "Gateway Timeout" | 505 => "HTTP Version Not Supported"
  | 506 => "Variant Also Negotiates" | 507 => "Insufficient Storage" | 508 => "Loop Detected"
  | 510 => "Not Extended" | 511 => "Network Authentication Required"
  | _ => none

/-- A status code with its reason. -/
def statusText (status : Nat) : String :=
  toString status ++ " " ++ (reason? status).getD "<unknown status code>"

/-- Whether a status code tells success. -/
def isSuccess (status : Nat) : Bool :=
  200 ≤ status && status ≤ 299

/-! ## Offers -/

/-- Pushes an offer. -/
def pushOffer (offer : Offer) : Outgoing where
  path := "/add"
  body := Json.writeObject [("NatType", .text offer.natType), ("Sdp", .text offer.sdp),
    ("Fingerprint", .text offer.fingerprint), ("Cid", .text offer.cid)]

/-- Reads what a proxy replied to an offer: an answer or an error of its own. -/
def readAnswer (status : Nat) (body : Octets) : Except BrokerError String :=
  if !isSuccess status then
    .error (.signaling ("proxy rejected offer with status " ++ statusText status))
  else match Json.decode Wire.ClientReply.shape body with
    | .error _ =>
      .error (.signaling "undecodable proxy reply: error decoding response body")
    | .ok reply =>
      if reply.error ≠ "" then .error (.signaling reply.error)
      else if reply.answer = "" then .error (.signaling "proxy sent an empty answer")
      else .ok reply.answer

/-! ## Transfers -/

/-- Orders a client to be handed over to another proxy. -/
def orderTransfer (cid newHost : String) (now : Bool) : Outgoing where
  path := "/transfer"
  body := Json.writeObject [("Cid", .text cid), ("NewIp", .text newHost),
    ("TransferNow", .flag now)]

/-- The order that goes to the old host of a client that was moved. -/
def orderOf (m : Migration) : Outgoing :=
  orderTransfer m.cid m.target.text true

/-- Reads what a proxy replied to an order. -/
def readReceipt (status : Nat) : Except BrokerError Unit :=
  if isSuccess status then .ok ()
  else .error (.signaling ("transfer rejected with status " ++ statusText status))

end RelayBroker.Http.ProxyClient
