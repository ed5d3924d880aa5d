/-
  RelayBroker.Http.Reply

  What a proxy sends back over a connection that it closes behind its reply: a status
  line, headers, and a body that may be cut into chunks.
-/

import RelayBroker.Number.Natural
import RelayBroker.Text.Utf8

namespace RelayBroker.Http

/-- The reply of a proxy, as far as the broker looks at it. -/
structure Reply where
  status : Nat
  body : Octets
deriving DecidableEq, Repr

namespace Reply

/-! ## The head -/

/-- The octets in front of the first empty line, and those behind it. -/
def splitHead? : Octets → Option (Octets × Octets)
  | 0x0D :: 0x0A :: 0x0D :: 0x0A :: rest => some ([], rest)
  | b :: rest => (splitHead? rest).map fun (head, body) => (b :: head, body)
  | [] => none

/-- The code in a status line, which stands between its first two blanks. -/
def status? (line : String) : Option Nat := do
  let code ← (line.splitOn " ")[1]?
  code.toNat?

/-- Whether a header line tells that the body is cut into chunks. -/
def tellsChunks (line : String) : Bool :=
  let word := line.toLower
  word.startsWith "transfer-encoding:" && word.endsWith "chunked"

/-! ## The body -/

/-- The octets behind the first line feed. -/
def behindLine (o : Octets) : Octets :=
  (o.dropWhile (· ≠ 0x0A)).drop 1

/-- The length in front of a chunk. -/
def chunkLength (o : Octets) : Nat :=
  Number.ofDigits 16 (Number.spanDigits (fun (b : UInt8) => Number.hexValue? b.toNat) o).1

/-- Joins at most so many chunks, up to the first empty one. -/
def joinChunks : (chunks : Nat) → Octets → Octets
  | 0, _ => []
  | n + 1, o =>
    let length := chunkLength o
    if length = 0 then []
    else
      let rest := behindLine o
      rest.take length ++ joinChunks n (behindLine (rest.drop length))

/-- Reads all that came over a connection. -/
def read? (o : Octets) : Option Reply := do
  let (head, body) ← splitHead? o
  let lines := (Text.ofUtf8Lossy head).splitOn "\r\n"
  let status ← lines.head? >>= status?
  return ⟨status, if lines.any tellsChunks then joinChunks body.length body else body⟩

end Reply

end RelayBroker.Http
