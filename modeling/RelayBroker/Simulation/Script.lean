/-
  RelayBroker.Simulation.Script

  What a scripted proxy does with the offers and orders that reach it.
-/

namespace RelayBroker.Simulation

/-- What a proxy does with an offer. -/
inductive OfferScript where
  | answer (text : String)
  | fail (reason : String)
  /-- It never replies. -/
  | hang
  /-- It replies when it is told to. -/
  | hold
deriving DecidableEq, Repr

/-- What a proxy does with an order to hand over a client. -/
inductive TransferScript where
  /-- It complies after a delay. -/
  | comply (delay : Nat)
  | fail
  /-- It never replies. -/
  | hang
deriving DecidableEq, Repr

/-- What a proxy does. -/
structure Script where
  offer : OfferScript
  transfer : TransferScript
deriving DecidableEq, Repr

/-- The proxy that answers every offer and complies with every order. -/
def Script.obliging : Script := ⟨.answer "ANSWER", .comply 0⟩

instance : Inhabited Script := ⟨Script.obliging⟩

end RelayBroker.Simulation
