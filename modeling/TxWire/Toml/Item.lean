import TxWire.Decimal.Binary64

/-!
What a TOML document holds. The entries of a table stand in the order in which the document
brings them, each key once.
-/

namespace TxWire.Toml

/-- How a table came about, which decides what may be added to it later. -/
inductive TableKind
  /-- By a header of its own. -/
  | headed
  /-- By the header of a table within it. -/
  | implied
  /-- By a dotted key. -/
  | dotted
  /-- By braces, which say all there is to it. -/
  | complete
  deriving DecidableEq, Repr

/-- What a key stands for. -/
inductive Item
  | string (s : String)
  | integer (n : Int)
  | real (x : Binary64)
  | boolean (b : Bool)
  /-- A date, a time of day or both. -/
  | dateTime
  | array (items : List Item)
  | table (kind : TableKind) (entries : List (String × Item))
  /-- Tables that share a header in double brackets. -/
  | tables (elements : List (List (String × Item)))

/-- The entries of a table. -/
abbrev Entries := List (String × Item)

/-- Replaces what a key stands for. -/
def Entries.set (entries : Entries) (key : String) (item : Item) : Entries :=
  entries.map fun (k, old) => if k = key then (k, item) else (k, old)

/-- Adds an entry behind the others, unless there is one with that key. -/
def Entries.add? (entries : Entries) (key : String) (item : Item) : Option Entries :=
  match entries.lookup key with
  | some _ => none
  | none => some (entries ++ [(key, item)])

end TxWire.Toml
