import TxWire.Bytes.Digest
import TxWire.Time.TimePoint

/-!
How a well-formed document can fail to fit the data that it should hold, and how that is worded.
-/

namespace TxWire.Decode

/-- What a document has in some place. A real number comes as its text. -/
inductive Found
  | null
  | bool (b : Bool)
  | whole (n : Int)
  | real (text : String)
  | string (s : String)
  | sequence
  | map
  deriving DecidableEq, Repr

/-- The wording of what was found. -/
def Found.message : Found → String
  | .null => "null"
  | .bool b => s!"boolean `{b}`"
  | .whole n => s!"integer `{n}`"
  | .real text => s!"floating point `{text}`"
  | .string s => s!"string {Quoted.text s}"
  | .sequence => "sequence"
  | .map => "map"

/-- Why a document does not fit. -/
inductive Error
  /-- Something of the wrong kind. -/
  | mismatch (found : Found) (expected : String)
  /-- A whole number out of bounds. -/
  | outOfRange (n : Int) (expected : String)
  /-- An array with too few items. -/
  | tooFew (length : Nat) (expected : String)
  | missing (field : String)
  | duplicate (field : String)
  /-- A name that is not among those known. -/
  | unknownName (name : String) (known : List String)
  | notHex (fault : Hex.Fault)
  | notTimePoint (fault : TimePoint.Fault)
  /-- Neither a name nor a table of one name. -/
  | notNameOrTable
  /-- A table without a name in it. -/
  | noName
  /-- A table with more than one name in it. -/
  | severalNames
  /-- A name of which a table says more than it may, with what should be empty. -/
  | notEmpty (expected : String)
  /-- A name of which a table says something other than a table. -/
  | notTable (found : String)
  deriving DecidableEq, Repr

/-- Names between backticks. -/
def quotedNames (names : List String) : String :=
  ", ".intercalate (names.map fun name => s!"`{name}`")

/-- The wording of the names to choose from. -/
def choice (names : List String) : String :=
  match names with
  | [] => "there are no variants"
  | [name] => s!"expected `{name}`"
  | [one, other] => s!"expected `{one}` or `{other}`"
  | names => s!"expected one of {quotedNames names}"

/-- The wording of a failure. -/
def Error.message : Error → String
  | .mismatch found expected => s!"invalid type: {found.message}, expected {expected}"
  | .outOfRange n expected => s!"invalid value: integer `{n}`, expected {expected}"
  | .tooFew length expected => s!"invalid length {length}, expected {expected}"
  | .missing field => s!"missing field `{field}`"
  | .duplicate field => s!"duplicate field `{field}`"
  | .unknownName name known => s!"unknown variant `{name}`, {choice known}"
  | .notHex fault => fault.message
  | .notTimePoint fault => fault.message
  | .notNameOrTable => "wanted string or table"
  | .noName => "wanted exactly 1 element, found 0 elements"
  | .severalNames => "wanted exactly 1 element, more than 1 element"
  | .notEmpty expected => s!"expected empty {expected}"
  | .notTable found => s!"expected table, found {found}"

/-- The value of a field that must be there. -/
def require {α : Type} (field : String) : Option α → Except Error α
  | some value => .ok value
  | none => .error (.missing field)

/-- A whole number from zero up to, not including, a limit. -/
def below (limit : Nat) (expected : String) (n : Int) : Except Error Nat :=
  if 0 ≤ n ∧ n < limit then .ok n.toNat else .error (.outOfRange n expected)

/-- The thing with a name, one of those known. -/
def named {α : Type} (ofName? : String → Option α) (known : List String) (name : String) :
    Except Error α :=
  match ofName? name with
  | some value => .ok value
  | none => .error (.unknownName name known)

end TxWire.Decode
