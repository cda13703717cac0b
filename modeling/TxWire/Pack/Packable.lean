import TxWire.Pack.Writer

/-!
Values with a place in the wire format: how they are packed, and how many bytes that takes with
UTF-8 strings, computed without packing.
-/

namespace TxWire

/-- A value that the wire format can hold. -/
class Packable (α : Type) where
  /-- Lays the value out. -/
  pack : α → Put Unit
  /-- The number of bytes of the layout in UTF-8. -/
  packedSize : α → Nat

export Packable (pack packedSize)

variable {α : Type} [Packable α]

/-- Packs a list: the number of elements, then each in turn. No list is packed like the empty
list. -/
def Put.collection (items : Option (List α)) : Put Unit := do
  let items := items.getD []
  Put.varint items.length
  items.forM pack

/-- The bytes of a value in UTF-8. There are none unless the whole value can be packed. -/
def packedBytes (value : α) : Logged (Except PackError (List UInt8)) := do
  let (result, writer) ← (pack value).on (Writer.empty .utf8)
  return result.map fun () => writer.bytes

/-- The size of a byte string packed with its length. -/
def varBytesSize (data : List UInt8) : Nat :=
  Varint.encodedLength data.length + data.length

/-- The size of a string packed in UTF-8. -/
def stringSize (text : String) : Nat :=
  Varint.encodedLength text.utf8ByteSize + text.utf8ByteSize

/-- The sizes of packed values, one after the other. -/
def packedSizes : List α → Nat
  | [] => 0
  | item :: items => packedSize item + packedSizes items

/-- The size of a packed list. -/
def collectionSize (items : Option (List α)) : Nat :=
  let items := items.getD []
  Varint.encodedLength items.length + packedSizes items

instance : Packable String where
  pack := Put.string
  packedSize := stringSize

end TxWire
