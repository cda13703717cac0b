import TxWire.Transaction.Action
import TxWire.Transaction.Header

/-!
Transactions: a header, actions that need no context, actions, and extensions. These are buffers
with a numeric kind, for readers that know them.

Packing is all or nothing, and reported: a transaction with extensions draws a warning, and a
success tells how many bytes it took.
-/

namespace TxWire

/-! ### Extensions -/

/-- A buffer of some kind. -/
structure Extension where
  kind : UInt16
  data : List UInt8
  deriving DecidableEq, Inhabited

instance : Packable Extension where
  pack extension := do
    Put.varint extension.kind.toNat
    Put.varBytes extension.data
  packedSize extension :=
    Varint.encodedLength extension.kind.toNat + varBytesSize extension.data

/-! ### Transactions -/

/-- A transaction. It has no list of actions until the first is added or a list is set; that is
packed like an empty list. -/
structure Transaction where
  header : Header := {}
  contextFreeActions : List Action := []
  actions? : Option (List Action) := none
  extensions : List Extension := []
  deriving DecidableEq

instance : Inhabited Transaction := ⟨{}⟩

namespace Transaction

/-- The actions in the order in which they were added. -/
def actions (t : Transaction) : List Action := t.actions?.getD []

/-- Adds an action behind the others, making the list if there is none. -/
def addAction (t : Transaction) (action : Action) : Transaction :=
  { t with actions? := some (t.actions ++ [action]) }

/-- Adds a context-free action behind the others. -/
def addContextFreeAction (t : Transaction) (action : Action) : Transaction :=
  { t with contextFreeActions := t.contextFreeActions ++ [action] }

/-- Adds an extension behind the others. -/
def addExtension (t : Transaction) (extension : Extension) : Transaction :=
  { t with extensions := t.extensions ++ [extension] }

/-- The layout of a transaction: its header and its three lists. -/
def layout (t : Transaction) : Put Unit := do
  pack t.header
  Put.collection (some t.contextFreeActions)
  Put.collection t.actions?
  Put.collection (some t.extensions)

instance : Packable Transaction where
  pack t := do
    unless t.extensions.isEmpty do
      Put.report (.reservedExtensions t.extensions.length)
    let start ← Put.length
    Put.atomic t.layout
    Put.report (.packed t.contextFreeActions.length t.actions.length ((← Put.length) - start))
  packedSize t :=
    packedSize t.header + collectionSize (some t.contextFreeActions) +
      collectionSize t.actions? + collectionSize (some t.extensions)

end Transaction

end TxWire
