/-
  RelayBroker.Address.Endpoint

  An address with a port, and the reading of host names in requests, where an
  address may be given with or without a port and in any of its spellings.
-/

import RelayBroker.Address.Parser
import RelayBroker.Address.Printer
import RelayBroker.Error
import RelayBroker.Text.Blank

namespace RelayBroker

/-- Where a service listens: a host, the network zone of an IPv6 host (zero if
none is named), and a port. -/
structure Endpoint where
  host : Address
  zone : Nat
  port : Nat
deriving DecidableEq, Repr

namespace Endpoint

open Address

/-- A colon and a port. -/
def readPort (cs : List Char) : Option (Nat × List Char) :=
  expect ':' cs >>= readNumber Number.max16

/-- A percent sign and a zone, or nothing for zone zero. -/
def readZone (cs : List Char) : Nat × List Char :=
  (expect '%' cs >>= readNumber Number.max32).getD (0, cs)

/-- An IPv4 address and a port. -/
def readV4 (cs : List Char) : Option (Endpoint × List Char) := do
  let (host, cs) ← Address.readV4 cs
  let (port, cs) ← readPort cs
  return (⟨host, 0, port⟩, cs)

/-- An IPv6 address in brackets and a port. -/
def readV6 (cs : List Char) : Option (Endpoint × List Char) := do
  let cs ← expect '[' cs
  let (host, cs) ← Address.readV6 cs
  let (zone, cs) := readZone cs
  let cs ← expect ']' cs
  let (port, cs) ← readPort cs
  return (⟨host, zone, port⟩, cs)

/-- The endpoint that a text spells. -/
def parse? (s : String) : Option Endpoint :=
  whole? (readV4 s.toList <|> readV6 s.toList)

/-- The text of an endpoint. -/
def text (e : Endpoint) : String :=
  match e.host with
  | .v4 .. => e.host.text ++ ":" ++ toString e.port
  | .v6 _ =>
    let zone := if e.zone = 0 then "" else "%" ++ toString e.zone
    "[" ++ e.host.text ++ zone ++ "]:" ++ toString e.port

end Endpoint

/-- The host that a participant names by its address, with or without a port and
with blanks around it. -/
def Address.ofHostName (raw : String) : Except BrokerError Address :=
  let name := Text.trim raw
  match Address.parse? name <|> (Endpoint.parse? name).map (·.host) with
  | some host => .ok host.canonical
  | none => .error (.badRequest ("invalid address: " ++ name))

end RelayBroker
