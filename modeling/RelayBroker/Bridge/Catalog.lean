/-
  RelayBroker.Bridge.Catalog

  The bridges that clients may name by fingerprint. A list of bridges holds one JSON
  record a line; the first record is the default bridge, and of several records with
  one fingerprint a look-up finds the last.
-/

import RelayBroker.Bridge.Fingerprint
import RelayBroker.Json.Record
import RelayBroker.Table

namespace RelayBroker

/-- A bridge: the relay that proxies connect a client to. -/
structure Bridge where
  name : String
  url : String
  fingerprint : Fingerprint
deriving DecidableEq, Repr

/-- The bridges by fingerprint, and the one for clients that name none. -/
structure Catalog where
  bridges : Table Fingerprint Bridge
  default : Bridge
deriving DecidableEq

namespace Catalog

/-- The catalog of one bridge. -/
def ofDefault (bridge : Bridge) : Catalog :=
  ⟨Table.empty.insert bridge.fingerprint bridge, bridge⟩

/-- How many bridges there are. -/
def size (c : Catalog) : Nat :=
  c.bridges.size

/-! ## Look-up -/

/-- The bridge with a fingerprint. -/
def lookup (c : Catalog) (f : Fingerprint) : Except BrokerError Bridge :=
  match c.bridges.get? f with
  | some bridge => .ok bridge
  | none => .error (.unknownBridge f.text)

/-- The bridge that a client asks for; a blank text asks for the default. -/
def resolve (c : Catalog) (raw : String) : Except BrokerError Bridge :=
  if Text.trim raw = "" then .ok c.default
  else Fingerprint.parse raw >>= c.lookup

/-! ## The bridge that is built in -/

/-- The fingerprint of the bridge that is built in. -/
def builtinFingerprint : Fingerprint :=
  ⟨#v[0x2B, 0x28, 0x0B, 0x23, 0xE1, 0x10, 0x7B, 0xB6, 0x2A, 0xBF,
      0xC4, 0x0D, 0xDC, 0xC8, 0x82, 0x48, 0x14, 0xF8, 0x0A, 0x72]⟩

/-- The catalog for a broker without a list of its own. -/
def builtin : Catalog :=
  ofDefault ⟨"default", "wss://snowflake.torproject.net/", builtinFingerprint⟩

/-! ## Reading a list -/

/-- A record of the list. -/
structure Entry where
  displayName : String
  webSocketAddress : String
  fingerprint : String
deriving DecidableEq, Repr

/-- How a record is written. -/
def Entry.shape : Json.Shape Entry where
  name := "BridgeRecord"
  blank := ⟨"", "", ""⟩
  fields := [
    .string "displayName" false fun s entry => { entry with displayName := s },
    .string "webSocketAddress" true fun s entry => { entry with webSocketAddress := s },
    .string "fingerprint" true fun s entry => { entry with fingerprint := s }]

/-- Splits octets behind every line feed; a carriage return before the feed goes
too. The octets behind the last feed are a line if there are any. `line` is the line
so far, its last octet first. -/
def splitLines (line : Octets) : Octets → List Octets
  | [] => if line.isEmpty then [] else [line.reverse]
  | b :: rest =>
    if b = 0x0A then
      let line := match line with
        | c :: before => if c = 0x0D then before else line
        | [] => []
      line.reverse :: splitLines [] rest
    else splitLines (b :: line) rest

/-- The bridge on a line, or nothing on a blank line. -/
def readLine (number : Nat) (line : Octets) : Except BrokerError (Option Bridge) := do
  let some text := Text.ofUtf8? line | throw (.config "stream did not contain valid UTF-8")
  if Text.trim text = "" then return none
  let wrong (what : String) : BrokerError :=
    .config ("bridge list line " ++ toString number ++ ": " ++ what)
  let entry ← (Json.decode Entry.shape line).mapError fun fault => wrong fault.message
  let fingerprint ← (Fingerprint.parse entry.fingerprint).mapError fun e => wrong e.message
  return some ⟨entry.displayName, entry.webSocketAddress, fingerprint⟩

/-- The catalog with one more bridge; the first is the default. -/
def add (c : Option Catalog) (bridge : Bridge) : Catalog :=
  match c with
  | none => ofDefault bridge
  | some c => { c with bridges := c.bridges.insert bridge.fingerprint bridge }

/-- Reads lines, the first of which has the number `number`. -/
def readLines (number : Nat) (c : Option Catalog) :
    List Octets → Except BrokerError (Option Catalog)
  | [] => .ok c
  | line :: lines =>
    match readLine number line with
    | .error e => .error e
    | .ok none => readLines (number + 1) c lines
    | .ok (some bridge) => readLines (number + 1) (some (add c bridge)) lines

/-- Reads a list of bridges. -/
def read (octets : Octets) : Except BrokerError Catalog :=
  match readLines 1 none (splitLines [] octets) with
  | .error e => .error e
  | .ok none => .error (.config "bridge list is empty")
  | .ok (some c) => .ok c

/-! ## Reading a file -/

/-- What the file system has at a path. -/
inductive FileContent where
  | octets (o : Octets)
  | missing
  | directory
deriving DecidableEq, Repr

/-- Reads the list of bridges at a path. -/
def ofFile (path : String) : FileContent → Except BrokerError Catalog
  | .octets o => read o
  | .missing => .error (.config (path ++ ": No such file or directory (os error 2)"))
  | .directory => .error (.config "Is a directory (os error 21)")

end Catalog

end RelayBroker
