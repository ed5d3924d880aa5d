/-
  RelayBroker.Counters

  What the broker counts: polls by kind of proxy, outcomes of client requests,
  rescales and transfers; and their text for the operator.
-/

import RelayBroker.NatClass
import RelayBroker.Table

namespace RelayBroker

/-- The counts since the broker was started. -/
structure Counters where
  /-- Polls by the type of the proxy, a slash, and its class. -/
  polls : Table String Nat
  pollsWithPattern : Nat
  pollsWithoutPattern : Nat
  matched : Nat
  deniedRestricted : Nat
  deniedUnrestricted : Nat
  timeouts : Nat
  failures : Nat
  rescalesCompleted : Nat
  rescalesPartial : Nat
  transfersSent : Nat
  transfersFailed : Nat
deriving DecidableEq

namespace Counters

def zero : Counters := ⟨Table.empty, 0, 0, 0, 0, 0, 0, 0, 0, 0, 0, 0⟩

instance : Inhabited Counters := ⟨zero⟩

/-! ## Counting -/

/-- The name under which the polls of a kind of proxy are counted. -/
def pollKey (type : String) (nat : NatClass) : String :=
  type ++ "/" ++ nat.name

/-- A proxy polled; `pattern` tells whether it accepts relays by pattern. -/
def poll (c : Counters) (type : String) (nat : NatClass) (pattern : Bool) : Counters :=
  let key := pollKey type nat
  let counted := { c with polls := c.polls.insert key ((c.polls.get? key).getD 0 + 1) }
  if pattern then { counted with pollsWithPattern := c.pollsWithPattern + 1 }
  else { counted with pollsWithoutPattern := c.pollsWithoutPattern + 1 }

/-- A client got an answer. -/
def clientMatched (c : Counters) : Counters :=
  { c with matched := c.matched + 1 }

/-- There was no proxy for a client. -/
def clientDenied (c : Counters) : NatClass → Counters
  | .unrestricted => { c with deniedUnrestricted := c.deniedUnrestricted + 1 }
  | .restricted | .unknown => { c with deniedRestricted := c.deniedRestricted + 1 }

/-- A proxy did not answer in time. -/
def clientTimeout (c : Counters) : Counters :=
  { c with timeouts := c.timeouts + 1 }

/-- The exchange with a proxy failed. -/
def clientFailure (c : Counters) : Counters :=
  { c with failures := c.failures + 1 }

/-- A rescale ended. -/
def rescale (c : Counters) (complete : Bool) : Counters :=
  if complete then { c with rescalesCompleted := c.rescalesCompleted + 1 }
  else { c with rescalesPartial := c.rescalesPartial + 1 }

/-- An instruction to hand over a client was settled. -/
def transfer (c : Counters) (delivered : Bool) : Counters :=
  if delivered then { c with transfersSent := c.transfersSent + 1 }
  else { c with transfersFailed := c.transfersFailed + 1 }

/-! ## Views -/

/-- The polls by kind of proxy, in the order of the kinds' names. -/
def pollsSorted (c : Counters) : List (String × Nat) :=
  c.polls.entries.mergeSort fun a b => a.1 ≤ b.1

/-- The text for the operator. -/
def render (c : Counters) : String :=
  "proxy polls:\n" ++
  String.join (c.pollsSorted.map fun (key, n) => "\t" ++ key ++ ": " ++ toString n ++ "\n") ++
  "polls with relay pattern: " ++ toString c.pollsWithPattern ++ "\n" ++
  "polls without relay pattern: " ++ toString c.pollsWithoutPattern ++ "\n" ++
  "client matches: " ++ toString c.matched ++ "\n" ++
  "client denied (restricted): " ++ toString c.deniedRestricted ++ "\n" ++
  "client denied (unrestricted): " ++ toString c.deniedUnrestricted ++ "\n" ++
  "client timeouts: " ++ toString c.timeouts ++ "\n" ++
  "client failures: " ++ toString c.failures ++ "\n" ++
  "rescales completed: " ++ toString c.rescalesCompleted ++ "\n" ++
  "rescales partial: " ++ toString c.rescalesPartial ++ "\n" ++
  "transfers sent: " ++ toString c.transfersSent ++ "\n" ++
  "transfers failed: " ++ toString c.transfersFailed

end Counters

end RelayBroker
