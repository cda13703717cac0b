import TxWire.Transaction.Basic

/-!
Changes to a transaction, one part at a time.
-/

namespace TxWire.Transaction

/-- A change to a transaction. -/
inductive Edit
  | header (edit : Header.Edit)
  | addAction (action : Action)
  | setActions (actions? : Option (List Action))
  | editAction (index : Nat) (edit : Action.Edit)
  | removeAction (index : Nat)
  | addContextFreeAction (action : Action)
  | addExtension (extension : Extension)

/-- What a change came to. -/
inductive Edit.Outcome
  | done
  | removed (action : Action)
  /-- There is no list of actions. -/
  | noList
  /-- The list of actions is not as long. -/
  | noSuchAction
  | failed (error : TransactionError)

/-- Makes a change. One that fails leaves the transaction as it is. -/
def Edit.apply (t : Transaction) : Edit → Transaction × Edit.Outcome
  | header edit => match edit.apply t.header with
    | .ok edited => ({ t with header := edited }, .done)
    | .error e => (t, .failed e)
  | addAction action => (t.addAction action, .done)
  | setActions actions? => ({ t with actions? }, .done)
  | editAction index edit => match t.actions? with
    | none => (t, .noList)
    | some actions => match actions[index]? with
      | none => (t, .noSuchAction)
      | some action => match edit.apply action with
        | .ok action => ({ t with actions? := some (actions.set index action) }, .done)
        | .error e => (t, .failed e)
  | removeAction index => match t.actions? with
    | none => (t, .noList)
    | some actions => match actions[index]? with
      | none => (t, .noSuchAction)
      | some action => ({ t with actions? := some (actions.eraseIdx index) }, .removed action)
  | addContextFreeAction action => (t.addContextFreeAction action, .done)
  | addExtension extension => (t.addExtension extension, .done)

/-- Makes changes one after the other. -/
def edit (t : Transaction) (edits : List Edit) : Transaction :=
  edits.foldl (fun t edit => (edit.apply t).1) t

end TxWire.Transaction
