import TxWire.Json.Decode
import TxWire.Json.Value
import TxWire.Transaction.Basic

/-!
Transactions and their parts as JSON, in both directions.

The fields of the header stand among those of the transaction. So a transaction is taken out of
an object in two passes: the first takes in its three lists and looks at everything else closely
enough to keep it, the second takes the header out of the same object.
-/

namespace TxWire

open Json (Value Node Token Decoder Failure Close)

/-! ### Permission levels -/

namespace PermissionLevel

def toJson (level : PermissionLevel) : Value :=
  .object [("actor", .string level.actor), ("permission", .string level.permission)]

/-- The fields of a permission level met so far. -/
structure Draft where
  actor : Option String := none
  permission : Option String := none

/-- Permission levels in documents. -/
def record : Json.Record Draft PermissionLevel where
  name := "PermissionLevel"
  fields := ["actor", "permission"]
  strict := true
  draft := {}
  field? d name := match name with
    | "actor" => some (Json.field name d.actor Json.string fun x => { d with actor := some x })
    | "permission" =>
      some (Json.field name d.permission Json.string fun x => { d with permission := some x })
    | _ => none
  finish d := do
    let actor ← Decode.require "actor" d.actor
    let permission ← Decode.require "permission" d.permission
    return { actor, permission }

end PermissionLevel

/-! ### Actions -/

namespace Action

def toJson (action : Action) : Value :=
  .object
    [ ("account", .string action.account), ("name", .string action.name),
      ("authorization", .array (action.authorization.map PermissionLevel.toJson)),
      ("data", .string action.dataHex)]

/-- The fields of an action met so far. -/
structure Draft where
  account : Option String := none
  name : Option String := none
  authorization : Option (List PermissionLevel) := none
  data : Option (List UInt8) := none

/-- Actions in documents. -/
def record : Json.Record Draft Action where
  name := "Action"
  fields := ["account", "name", "authorization", "data"]
  strict := true
  draft := {}
  field? d name := match name with
    | "account" =>
      some (Json.field name d.account Json.string fun x => { d with account := some x })
    | "name" => some (Json.field name d.name Json.string fun x => { d with name := some x })
    | "authorization" =>
      some (Json.field name d.authorization (Json.list PermissionLevel.record.decode)
        fun x => { d with authorization := some x })
    | "data" => some (Json.field name d.data Json.hex fun x => { d with data := some x })
    | _ => none
  finish d := do
    let account ← Decode.require "account" d.account
    let name ← Decode.require "name" d.name
    let authorization ← Decode.require "authorization" d.authorization
    let data ← Decode.require "data" d.data
    return { account, name, authorization, data }

end Action

/-! ### Extensions -/

namespace Extension

def toJson (extension : Extension) : Value :=
  .object [("type", .number extension.kind.toNat), ("data", .string (Hex.encode extension.data))]

/-- The fields of an extension met so far. -/
structure Draft where
  kind : Option UInt16 := none
  data : Option (List UInt8) := none

/-- Extensions in documents. -/
def record : Json.Record Draft Extension where
  name := "TransactionExtension"
  fields := ["type", "data"]
  strict := true
  draft := {}
  field? d name := match name with
    | "type" => some (Json.field name d.kind Json.u16 fun x => { d with kind := some x })
    | "data" => some (Json.field name d.data Json.hex fun x => { d with data := some x })
    | _ => none
  finish d := do
    let kind ← Decode.require "type" d.kind
    let data ← Decode.require "data" d.data
    return { kind, data }

end Extension

/-! ### Headers -/

namespace Header

/-- The members of a header. -/
def members (header : Header) : List (String × Value) :=
  [ ("expiration", .string header.expiration.timePoint),
    ("ref_block_num", .number header.refBlockNum.toNat),
    ("ref_block_prefix", .number header.refBlockPrefix.toNat),
    ("max_net_usage_words", .number header.maxNetUsageWords.toNat),
    ("max_cpu_usage_ms", .number header.maxCpuUsageMs.toNat),
    ("delay_sec", .number header.delaySec.toNat)]

def toJson (header : Header) : Value := .object header.members

/-- The fields of a header met so far. -/
structure Draft where
  expiration : Option Instant := none
  refBlockNum : Option UInt16 := none
  refBlockPrefix : Option UInt32 := none
  maxNetUsageWords : Option UInt32 := none
  maxCpuUsageMs : Option UInt8 := none
  delaySec : Option UInt32 := none

/-- Headers in documents. -/
def record : Json.Record Draft Header where
  name := "TransactionHeader"
  fields :=
    [ "expiration", "ref_block_num", "ref_block_prefix", "max_net_usage_words",
      "max_cpu_usage_ms", "delay_sec"]
  strict := true
  draft := {}
  field? d name := match name with
    | "expiration" =>
      some (Json.field name d.expiration Json.instant fun x => { d with expiration := some x })
    | "ref_block_num" =>
      some (Json.field name d.refBlockNum Json.u16 fun x => { d with refBlockNum := some x })
    | "ref_block_prefix" =>
      some (Json.field name d.refBlockPrefix Json.u32 fun x => { d with refBlockPrefix := some x })
    | "max_net_usage_words" =>
      some (Json.field name d.maxNetUsageWords Json.u32
        fun x => { d with maxNetUsageWords := some x })
    | "max_cpu_usage_ms" =>
      some (Json.field name d.maxCpuUsageMs Json.u8 fun x => { d with maxCpuUsageMs := some x })
    | "delay_sec" =>
      some (Json.field name d.delaySec Json.u32 fun x => { d with delaySec := some x })
    | _ => none
  finish d := do
    let expiration ← Decode.require "expiration" d.expiration
    let refBlockNum ← Decode.require "ref_block_num" d.refBlockNum
    let refBlockPrefix ← Decode.require "ref_block_prefix" d.refBlockPrefix
    let maxNetUsageWords ← Decode.require "max_net_usage_words" d.maxNetUsageWords
    let maxCpuUsageMs ← Decode.require "max_cpu_usage_ms" d.maxCpuUsageMs
    let delaySec ← Decode.require "delay_sec" d.delaySec
    return { expiration, refBlockNum, refBlockPrefix, maxNetUsageWords, maxCpuUsageMs, delaySec }

end Header

/-! ### Transactions -/

namespace Transaction

def toJson (t : Transaction) : Value :=
  .object (t.header.members ++
    [ ("context_free_actions", .array (t.contextFreeActions.map Action.toJson)),
      ("actions", .array (t.actions.map Action.toJson)),
      ("transaction_extensions", .array (t.extensions.map Extension.toJson))])

/-- The lists of a transaction met so far. -/
structure Lists where
  contextFreeActions : Option (List Action) := none
  actions? : Option (Option (List Action)) := none
  extensions : Option (List Extension) := none

/-- The decoder of one of the lists. -/
def Lists.field? (lists : Lists) (name : String) : Option (Decoder Lists) :=
  match name with
  | "context_free_actions" =>
    some (Json.field name lists.contextFreeActions (Json.list Action.record.decode)
      fun x => { lists with contextFreeActions := some x })
  | "actions" =>
    some (Json.field name lists.actions? (Json.optional (Json.list Action.record.decode))
      fun x => { lists with actions? := some x })
  | "transaction_extensions" =>
    some (Json.field name lists.extensions (Json.list Extension.record.decode)
      fun x => { lists with extensions := some x })
  | _ => none

/-- The levels of nesting that a text may have within a transaction. -/
def nestingRoom : Nat := 126

/-- The first pass over the members of a transaction. -/
def Lists.takeIn (lists : Lists) : List (Token String × Node) → Except Failure Lists
  | [] => .ok lists
  | (key, value) :: rest => do
    let name ← Json.ofText key.content
    match lists.field? name with
    | some decoder => (← decoder value).takeIn rest
    | none =>
      Json.ofText (value.takeIn nestingRoom)
      lists.takeIn rest

/-- Takes a transaction out of an object. Each of the lists may be missing. -/
def decode : Decoder Transaction
  | .object members close => do
    let lists ← ({} : Lists).takeIn members
    Json.ofText close
    let header ← Header.record.decode (.object members close)
    return {
      header
      contextFreeActions := lists.contextFreeActions.getD []
      actions? := lists.actions?.join
      extensions := lists.extensions.getD [] }
  | node => .error (Json.mismatch "struct Transaction" node)

end Transaction

end TxWire
