import TxWire.Decimal.Shortest
import TxWire.Decode.Error
import TxWire.Toml.Item

/-!
Taking data out of what a TOML document holds.
-/

namespace TxWire.Toml

open Decode (Error Found)

/-- Real numbers in messages are positional, and a tie goes up. -/
def realStyle : Binary64.Style := { tie := .up, positional := fun _ => true }

/-- What messages call an item. -/
def Item.found : Item → Found
  | .string s => .string s
  | .integer n => .whole n
  | .real x => .real (x.text realStyle)
  | .boolean b => .bool b
  | .dateTime => .map
  | .array _ => .sequence
  | .table _ _ => .map
  | .tables _ => .sequence

/-- What messages call the sort of an item. -/
def Item.sort : Item → String
  | .string _ => "string"
  | .integer _ => "integer"
  | .real _ => "float"
  | .boolean _ => "boolean"
  | .dateTime => "datetime"
  | .array _ => "array"
  | .table .complete _ => "inline table"
  | .table _ _ => "table"
  | .tables _ => "array of tables"

/-- A string. -/
def string : Item → Except Error String
  | .string s => .ok s
  | item => .error (.mismatch item.found "a string")

/-- A whole number below a limit. -/
def below (limit : Nat) (expected : String) : Item → Except Error Nat
  | .integer n => Decode.below limit expected n
  | item => .error (.mismatch item.found expected)

def u8 (item : Item) : Except Error UInt8 := UInt8.ofNat <$> below UInt8.size "u8" item

def u32 (item : Item) : Except Error UInt32 := UInt32.ofNat <$> below UInt32.size "u32" item

/-- Nothing: a table or an array without anything in it. -/
def nothing : Item → Except Error Unit
  | .table _ entries => if entries.isEmpty then .ok () else .error (.notEmpty "table")
  | .array items => if items.isEmpty then .ok () else .error (.notEmpty "table")
  | .tables elements => if elements.isEmpty then .ok () else .error (.notEmpty "array")
  | item => .error (.notTable item.sort)

/-- One of several names: the name by itself, or a table in which it is the one key and says
nothing more. -/
def named {α : Type} (ofName? : String → Option α) (known : List String) :
    Item → Except Error α
  | .string name => Decode.named ofName? known name
  | .table _ [] => .error .noName
  | .table _ [(name, item)] => do
    let result ← Decode.named ofName? known name
    nothing item
    return result
  | .table _ _ => .error .severalNames
  | _ => .error .notNameOrTable

end TxWire.Toml
