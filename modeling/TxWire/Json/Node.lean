import TxWire.Decimal.Binary64

/-!
A JSON text as it was read, faults included.

A text is read once, as far as it is JSON. What goes wrong on the way stands in the tree at the
place where it happened, so that whoever takes the tree apart in reading order meets a fault
exactly when it gets there, and not when it stops before.

Strings and numbers can be wanted for what they say or be skipped. Skipping asks for less: half of
a surrogate pair may stand alone, and no number is too large.
-/

namespace TxWire.Json

/-- Why a text is not JSON. -/
inductive Fault
  /-- It ends too early. -/
  | truncated
  /-- A character stands where it cannot. -/
  | malformed
  deriving DecidableEq, Repr

/-- What a number says: a whole number of at most 64 bits with sign, or the nearest binary64
number. -/
inductive Number
  | whole (n : Int)
  | real (x : Binary64)
  deriving DecidableEq, Repr

/-- A token: what it says, and the fault met when it is skipped. -/
structure Token (α : Type) where
  content : Except Fault α
  skipped : Except Fault Unit

/-- The end of an array or of an object. -/
abbrev Close := Except Fault Unit

/-- A place of the text where a value is expected. A comma is always followed by another item or
member, one with a fault if nothing suitable comes, and so an object whose first key is no string
has a first member with a fault. -/
inductive Node
  | null
  | bool (b : Bool)
  | number (token : Token Number)
  | string (token : Token String)
  | array (items : List Node) (close : Close)
  | object (members : List (Token String × Node)) (close : Close)
  /-- One of the three words of JSON that breaks off. -/
  | brokenWord (f : Fault)
  | fault (f : Fault)

/-- A whole text: its value, and what comes after it. -/
structure Document where
  root : Node
  rest : Close

mutual

/-- Skips a value. -/
def Node.skip : Node → Except Fault Unit
  | .null => .ok ()
  | .bool _ => .ok ()
  | .number token => token.skipped
  | .string token => token.skipped
  | .array items close => skipItems items close
  | .object members close => skipMembers members close
  | .brokenWord f => .error f
  | .fault f => .error f

/-- Skips the items of an array. -/
def skipItems : List Node → Close → Except Fault Unit
  | [], close => close
  | item :: items, close => do
    item.skip
    skipItems items close

/-- Skips the members of an object. -/
def skipMembers : List (Token String × Node) → Close → Except Fault Unit
  | [], close => close
  | (key, value) :: members, close => do
    key.skipped
    value.skip
    skipMembers members close

end

mutual

/-- Takes a value in as a whole, with `room` more levels of nesting allowed. -/
def Node.takeIn (room : Nat) : Node → Except Fault Unit
  | .null => .ok ()
  | .bool _ => .ok ()
  | .number token => token.content.map fun _ => ()
  | .string token => token.content.map fun _ => ()
  | .array items close =>
    if room = 0 then .error .malformed else takeInItems (room - 1) items close
  | .object members close =>
    if room = 0 then .error .malformed else takeInMembers (room - 1) members close
  | .brokenWord f => .error f
  | .fault f => .error f

/-- Takes in the items of an array. -/
def takeInItems (room : Nat) : List Node → Close → Except Fault Unit
  | [], close => close
  | item :: items, close => do
    item.takeIn room
    takeInItems room items close

/-- Takes in the members of an object. -/
def takeInMembers (room : Nat) : List (Token String × Node) → Close → Except Fault Unit
  | [], close => close
  | (key, value) :: members, close => do
    let _ ← key.content
    value.takeIn room
    takeInMembers room members close

end

end TxWire.Json
