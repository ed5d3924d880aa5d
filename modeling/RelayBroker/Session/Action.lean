/-
  RelayBroker.Session.Action

  What a proxy says about the session of a client.
-/

import RelayBroker.Text.Keyword

namespace RelayBroker

/-- A proxy took on a client, or lost one. -/
inductive SessionAction where
  | add
  | remove
deriving DecidableEq, Repr

namespace SessionAction

/-- The action that a word names. -/
def parse? (s : String) : Option SessionAction :=
  let word := Text.keyword s
  if word = "add" then some add
  else if word = "remove" ∨ word = "delete" then some remove
  else none

/-- The word for an action. -/
def name : SessionAction → String
  | add => "add"
  | remove => "remove"

end SessionAction

end RelayBroker
