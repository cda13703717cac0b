import TxWire.Transaction.Basic

/-!
Programs for a writer, as data: any sequence of writer operations, nested in all-or-nothing
blocks to any depth.
-/

namespace TxWire

/-- A value of any packable kind. -/
inductive WireValue
  | string (text : String)
  | level (level : PermissionLevel)
  | action (action : Action)
  | extension (extension : Extension)
  | header (header : Header)
  | transaction (transaction : Transaction)

instance : Packable WireValue where
  pack
    | .string x => pack x
    | .level x => pack x
    | .action x => pack x
    | .extension x => pack x
    | .header x => pack x
    | .transaction x => pack x
  packedSize
    | .string x => packedSize x
    | .level x => packedSize x
    | .action x => packedSize x
    | .extension x => packedSize x
    | .header x => packedSize x
    | .transaction x => packedSize x

/-- One operation on a writer. -/
inductive Operation
  | byte (b : UInt8)
  | bool (b : Bool)
  | u16 (n : UInt16)
  | u32 (n : UInt32)
  | u64 (n : UInt64)
  | varint (n : UInt64)
  | bytes (data : List UInt8)
  | varBytes (data : List UInt8)
  | string (text : String)
  | value (value : WireValue)
  | collection (items : Option (List WireValue))
  /-- Reads a variable-length number from the bytes given and writes it in eight bytes. -/
  | widen (data : List UInt8)
  /-- Writes nothing and fails. -/
  | fail (error : PackError)
  /-- Operations of which either all or none leave their mark. -/
  | atomic (steps : List Operation)

mutual

/-- What an operation does to a writer. -/
def Operation.put : Operation → Put Unit
  | .byte b => Put.byte b
  | .bool b => Put.bool b
  | .u16 n => Put.u16 n
  | .u32 n => Put.u32 n
  | .u64 n => Put.u64 n
  | .varint n => Put.varint n.toNat
  | .bytes data => Put.bytes data
  | .varBytes data => Put.varBytes data
  | .string text => Put.string text
  | .value value => pack value
  | .collection items => Put.collection items
  | .widen data => match Varint.decode data with
    | .ok (n, _) => Put.u64 n
    | .error fault => throw (.varint fault)
  | .fail error => throw error
  | .atomic steps => Put.atomic (putAll steps)

/-- What operations in a row do, up to the first that fails. -/
def putAll : List Operation → Put Unit
  | [] => pure ()
  | step :: steps => do
    step.put
    putAll steps

end

/-- Runs operations one by one, the ones after a failure too: the result of each, and the
writer after it. -/
def runEach (writer : Writer) : List Operation → Logged (List (Except PackError Unit × Writer))
  | [] => return []
  | step :: steps => do
    let (result, next) ← step.put.on writer
    return (result, next) :: (← runEach next steps)

end TxWire
