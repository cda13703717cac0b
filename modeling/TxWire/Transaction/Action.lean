import TxWire.Pack.Packable
import TxWire.Transaction.Error

/-!
A single contract call, the actor and permission pairs that authorize it, and the edits that
change it.
-/

namespace TxWire

/-! ### Permission levels -/

/-- An actor together with one of its permissions. -/
structure PermissionLevel where
  actor : String
  permission : String
  deriving DecidableEq, Repr, Inhabited

namespace PermissionLevel

/-- The permission that most actions are authorized with. -/
def active (actor : String) : PermissionLevel := { actor, permission := "active" }

/-- A permission level as people write it. -/
def display (level : PermissionLevel) : String := level.actor ++ "@" ++ level.permission

instance : Packable PermissionLevel where
  pack level := do
    Put.string level.actor
    Put.string level.permission
  packedSize level := stringSize level.actor + stringSize level.permission

end PermissionLevel

/-! ### Actions -/

/-- A contract call. Its arguments are bytes that nothing here looks into. -/
structure Action where
  account : String
  name : String
  authorization : List PermissionLevel := []
  data : List UInt8 := []
  deriving DecidableEq, Inhabited

namespace Action

/-- Adds a permission level behind those an action has. -/
def authorizedBy (action : Action) (level : PermissionLevel) : Action :=
  { action with authorization := action.authorization ++ [level] }

/-- Replaces the arguments by bytes given as hexadecimal text. -/
def withHexData (action : Action) (text : String) : Except TransactionError Action :=
  match Hex.decode text with
  | .ok data => .ok { action with data }
  | .error fault => .error (.actionData fault)

/-- The arguments as hexadecimal text. -/
def dataHex (action : Action) : String := Hex.encode action.data

instance : Packable Action where
  pack action := do
    Put.string action.account
    Put.string action.name
    Put.collection (some action.authorization)
    Put.varBytes action.data
  packedSize action :=
    stringSize action.account + stringSize action.name +
      collectionSize (some action.authorization) + varBytesSize action.data

/-- A change to an action. -/
inductive Edit
  | setAccount (account : String)
  | setName (name : String)
  | addAuthorization (level : PermissionLevel)
  | setAuthorization (levels : List PermissionLevel)
  | setData (data : List UInt8)
  | setHexData (text : String)

/-- Makes a change. Only arguments that are not hexadecimal text can be refused. -/
def Edit.apply (action : Action) : Edit → Except TransactionError Action
  | setAccount account => .ok { action with account }
  | setName name => .ok { action with name }
  | addAuthorization level => .ok (action.authorizedBy level)
  | setAuthorization levels => .ok { action with authorization := levels }
  | setData data => .ok { action with data }
  | setHexData text => action.withHexData text

end Action

end TxWire
