/-
  RelayBroker.Proofs.Wire.TransferOrder

  What an order to hand over a client says. The proxy that gets it reads an object of three
  required fields, the last one a truth value (`TransferOrder.shape`), and finds in it the
  client and the new host that the broker wrote.

  Main statement: `decode_orderTransfer`.
-/

import RelayBroker.Http.ProxyClient
import RelayBroker.Proofs.Json.ReadBack

namespace RelayBroker

namespace Json

/-! ## Truth values -/

/-- Reads a truth value. -/
def readFlag : Reader Bool := fun cs =>
  match skipBlanks cs with
  | [] => .error (.ended .value)
  | b :: rest =>
    if b = 0x74 then (readWord [0x72, 0x75, 0x65] rest).map fun rest => (true, rest)
    else if b = 0x66 then (readWord [0x61, 0x6C, 0x73, 0x65] rest).map fun rest => (false, rest)
    else refuse b rest "a boolean"

/-- A field with a truth value. -/
def Field.flag {σ : Type} (name : String) (required : Bool) (store : Bool → σ → σ) : Field σ :=
  of readFlag name required store

/-- A truth value that was written is read back, whatever follows it. -/
theorem readFlag_write (b : Bool) (rest : Octets) :
    readFlag ((Item.flag b).write ++ rest) = .ok (b, rest) := by
  cases b <;> rfl

/-- A truth value is stored in a field for truth values. -/
theorem stores_flag {σ : Type} {shape : Shape σ} {name : String} {required : Bool}
    {store : Bool → σ → σ}
    (hfield : shape.fields.find? (fun f => f.name = name) = some (.flag name required store))
    (b : Bool) (record : σ) : Stores shape (name, .flag b) record (store b record) := by
  refine ⟨_, store b, hfield, fun rest => ?_, rfl⟩
  simp only [Field.flag, Field.of, readFlag_write, Except.map]

end Json

namespace Wire

/-! ## Orders -/

/-- An order to hand over a client, as the proxy reads it. -/
structure TransferOrder where
  cid : String
  newHost : String
  now : Bool
deriving DecidableEq, Repr

namespace TransferOrder

/-- How an order is written. -/
def shape : Json.Shape TransferOrder where
  name := "TransferRequest"
  blank := ⟨"", "", false⟩
  fields := [
    .string "Cid" true fun s order => { order with cid := s },
    .string "NewIp" true fun s order => { order with newHost := s },
    .flag "TransferNow" true fun b order => { order with now := b }]

/-- An order is read as it was given, whatever characters its texts have. -/
theorem decode_orderTransfer (cid newHost : String) (now : Bool) :
    Json.decode shape (Http.ProxyClient.orderTransfer cid newHost now).body =
      .ok ⟨cid, newHost, now⟩ :=
  Json.decode_writeObject
    (.cons (Json.stores_text rfl _ _) <| .cons (Json.stores_text rfl _ _) <|
      .cons (Json.stores_flag rfl _ _) <| .nil _)
    (by simp) (by simp [shape, Json.Field.string, Json.Field.flag, Json.Field.of])

end TransferOrder

end Wire

end RelayBroker
