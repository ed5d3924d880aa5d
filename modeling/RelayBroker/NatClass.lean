/-
  RelayBroker.NatClass

  How a host is reachable from outside, as far as it knows.
-/

import RelayBroker.Text.Keyword

namespace RelayBroker

/-- What a proxy or a client declares about the NAT in front of it. -/
inductive NatClass where
  /-- Inbound connections are accepted. -/
  | unrestricted
  /-- Inbound connections need help. -/
  | restricted
  /-- Not determined. -/
  | unknown
deriving DecidableEq, Repr, Inhabited

namespace NatClass

/-- The class a tag names; every other tag means that it is unknown. -/
def parse (s : String) : NatClass :=
  let word := Text.keyword s
  if word = "unrestricted" then unrestricted
  else if word = "restricted" then restricted
  else unknown

/-- The tag of a class. -/
def name : NatClass → String
  | unrestricted => "unrestricted"
  | restricted => "restricted"
  | unknown => "unknown"

end NatClass

end RelayBroker
