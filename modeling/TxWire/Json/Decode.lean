import TxWire.Decode.Error
import TxWire.Decimal.Shortest
import TxWire.Json.Reader

/-!
Taking data out of a JSON text.

A decoder goes through the tree in reading order and stops at the first thing that is wrong, be
it a fault of the text or data of the wrong kind.
-/

namespace TxWire.Json

/-- Why no data could be taken out of a text. -/
inductive Failure
  /-- The text is not JSON, as far as it was needed. -/
  | text (fault : Fault)
  /-- The data does not fit. -/
  | data (error : Decode.Error)
  deriving DecidableEq, Repr

/-- Something that takes data out of the value at some place. -/
abbrev Decoder (α : Type) := Node → Except Failure α

/-- A reading step whose faults are faults of the text. -/
def ofText {α : Type} (x : Except Fault α) : Except Failure α := x.mapError .text

/-- A step whose failures are about the data. -/
def ofData {α : Type} (x : Except Decode.Error α) : Except Failure α := x.mapError .data

/-- Real numbers in messages: positional from the fifth place after the point up to the sixteenth
before it, else with an exponent. A tie goes to the even last digit. -/
def realStyle : Binary64.Style :=
  { tie := .even, positional := fun power => -5 ≤ power && power < 16 }

/-- What messages call a number. -/
def Number.found : Number → Decode.Found
  | .whole n => .whole n
  | .real x => .real (x.text realStyle)

/-- The failure of a decoder that wants something else than it meets. A token is read to its end
before it is rejected, an array or object is not. -/
def mismatch (expected : String) (node : Node) : Failure :=
  let found : Except Fault Decode.Found := match node with
    | .null => .ok .null
    | .bool b => .ok (.bool b)
    | .number token => token.content.map Number.found
    | .string token => token.content.map .string
    | .array _ _ => .ok .sequence
    | .object _ _ => .ok .map
    | .brokenWord f => .error f
    | .fault f => .error f
  match found with
  | .ok found => .data (.mismatch found expected)
  | .error f => .text f

/-- A string for which something else than `a string` may be asked. -/
def stringOf (expected : String) : Decoder String
  | .string token => ofText token.content
  | node => .error (mismatch expected node)

/-- A string. -/
def string : Decoder String := stringOf "a string"

/-- Bytes as hexadecimal text. -/
def hex : Decoder (List UInt8) := fun node => do
  let text ← stringOf "a hex encoded string" node
  ofData ((Hex.decode text).mapError .notHex)

/-- The instant of a time point. -/
def instant : Decoder Instant := fun node => do
  let text ← string node
  ofData ((TimePoint.parse text).mapError .notTimePoint)

/-- A whole number below a limit. -/
def below (limit : Nat) (expected : String) : Decoder Nat
  | .number token => do
    match ← ofText token.content with
    | .whole n => ofData (Decode.below limit expected n)
    | .real x => .error (.data (.mismatch (Number.real x).found expected))
  | node => .error (mismatch expected node)

def u8 : Decoder UInt8 := fun node => UInt8.ofNat <$> below UInt8.size "u8" node

def u16 : Decoder UInt16 := fun node => UInt16.ofNat <$> below UInt16.size "u16" node

def u32 : Decoder UInt32 := fun node => UInt32.ofNat <$> below UInt32.size "u32" node

/-- Nothing. -/
def unit : Decoder Unit
  | .null => .ok ()
  | node => .error (mismatch "unit" node)

variable {α σ : Type}

/-- A list. -/
def list (item : Decoder α) : Decoder (List α)
  | .array items close => do
    let values ← items.mapM item
    ofText close
    return values
  | node => .error (mismatch "a sequence" node)

/-- Something that `null` may stand in for. -/
def optional (decoder : Decoder α) : Decoder (Option α)
  | .null => .ok none
  | node => some <$> decoder node

/-- One of several names: the name by itself, or an object in which it is the one key and says
nothing more. -/
def named (ofName? : String → Option α) (known : List String) : Decoder α
  | .string token => do ofData (Decode.named ofName? known (← ofText token.content))
  | .object [] close => do
    ofText close
    .error (.text .malformed)
  | .object ((key, value) :: more) close => do
    let result ← ofData (Decode.named ofName? known (← ofText key.content))
    unit value
    if more.isEmpty then ofText close else .error (.text .malformed)
    return result
  | .fault f => .error (.text f)
  | _ => .error (.text .malformed)

/-- A field of a record that may be given once: the decoder of its value, which puts it into the
draft of the record. -/
def field (name : String) (current : Option α) (decoder : Decoder α) (put : α → σ) : Decoder σ :=
  fun node =>
    if current.isSome then .error (.data (.duplicate name)) else put <$> decoder node

/-- How records of one type are taken out of objects, and out of arrays that have their fields
in order. The draft `σ` holds the fields met so far. -/
structure Record (σ α : Type) where
  name : String
  fields : List String
  /-- Whether an array has to have all fields. -/
  strict : Bool
  draft : σ
  field? : σ → String → Option (Decoder σ)
  finish : σ → Except Decode.Error α

namespace Record

/-- Takes in the members of an object. Those that are not fields are skipped. -/
def members (r : Record σ α) (draft : σ) : List (Token String × Node) → Except Failure σ
  | [] => .ok draft
  | (key, value) :: rest => do
    let name ← ofText key.content
    match r.field? draft name with
    | some decoder => r.members (← decoder value) rest
    | none =>
      ofText value.skip
      r.members draft rest

/-- What an array of the record should be. -/
def expected (r : Record σ α) : String :=
  s!"struct {r.name} with {r.fields.length} elements"

/-- Takes in the items of an array, of which those before were the first fields. -/
def items (r : Record σ α) (draft : σ) (taken : Nat) :
    (fields : List String) → List Node → Close → Except Failure σ
  | [], [], close => do
    ofText close
    return draft
  | [], _ :: _, _ => .error (.text .malformed)
  | _ :: _, [], close => do
    ofText close
    if r.strict then .error (.data (.tooFew taken r.expected)) else return draft
  | name :: fields, item :: rest, close => do
    match r.field? draft name with
    | some decoder => r.items (← decoder item) (taken + 1) fields rest close
    | none => r.items draft (taken + 1) fields rest close

/-- Takes a record out of an object or an array. -/
def decode (r : Record σ α) : Decoder α
  | .object members close => do
    let draft ← r.members r.draft members
    ofText close
    ofData (r.finish draft)
  | .array items close => do
    let draft ← r.items r.draft 0 r.fields items close
    ofData (r.finish draft)
  | node => .error (mismatch s!"struct {r.name}" node)

end Record

/-- Takes data out of a text with nothing but blanks after it. -/
def decode (decoder : Decoder α) (text : String) : Except Failure α := do
  let document := read text
  let value ← decoder document.root
  ofText document.rest
  return value

end TxWire.Json
