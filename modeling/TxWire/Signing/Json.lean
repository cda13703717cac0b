import TxWire.Json.Decode
import TxWire.Json.Value
import TxWire.Signing.Basic

/-!
The body of a push request as JSON.
-/

namespace TxWire

open Json (Value)

namespace Compression

def toJson (compression : Compression) : Value := .string compression.name

/-- A compression by its name. -/
def ofName? (name : String) : Option Compression :=
  if name = Compression.none.name then some .none else Option.none

def decode : Json.Decoder Compression := Json.named ofName? [Compression.none.name]

end Compression

namespace PushBody

def toJson (body : PushBody) : Value :=
  .object
    [ ("signatures", .array (body.signatures.map .string)),
      ("compression", body.compression.toJson),
      ("packed_context_free_data", .string body.packedContextFreeData),
      ("packed_trx", .string body.packedTransaction)]

/-- The fields of a body met so far. -/
structure Draft where
  signatures : Option (List String) := none
  compression : Option Compression := none
  packedContextFreeData : Option String := none
  packedTransaction : Option String := none

/-- Bodies in documents. -/
def record : Json.Record Draft PushBody where
  name := "PackedTransaction"
  fields := ["signatures", "compression", "packed_context_free_data", "packed_trx"]
  strict := true
  draft := {}
  field? d name := match name with
    | "signatures" =>
      some (Json.field name d.signatures (Json.list Json.string)
        fun x => { d with signatures := some x })
    | "compression" =>
      some (Json.field name d.compression Compression.decode
        fun x => { d with compression := some x })
    | "packed_context_free_data" =>
      some (Json.field name d.packedContextFreeData Json.string
        fun x => { d with packedContextFreeData := some x })
    | "packed_trx" =>
      some (Json.field name d.packedTransaction Json.string
        fun x => { d with packedTransaction := some x })
    | _ => none
  finish d := do
    let signatures ← Decode.require "signatures" d.signatures
    let compression ← Decode.require "compression" d.compression
    let packedContextFreeData ← Decode.require "packed_context_free_data" d.packedContextFreeData
    let packedTransaction ← Decode.require "packed_trx" d.packedTransaction
    return { signatures, compression, packedContextFreeData, packedTransaction }

end PushBody

end TxWire
