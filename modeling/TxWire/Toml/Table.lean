import TxWire.Toml.Item

/-!
Building up the tables of a TOML document.

Every key is given once. What a document may add to a table later depends on how the table came
about: dotted keys only add to tables of dotted keys, and headers only fill in tables that were
implied so far.
-/

namespace TxWire.Toml

/-- Adds an entry under a dotted key, making the tables on the way. -/
def Entries.addDotted? (key : String) (item : Item) :
    (path : List String) → Entries → Option Entries
  | [], entries => entries.add? key item
  | step :: path, entries =>
    match entries.lookup step with
    | none => do
      let inner ← addDotted? key item path []
      return entries ++ [(step, .table .dotted inner)]
    | some (.table kind inner) =>
      if kind = .dotted ∨ (kind = .implied ∧ path ≠ []) then do
        let inner ← addDotted? key item path inner
        return entries.set step (.table kind inner)
      else none
    | some (.tables elements) =>
      -- The last of the tables was made by its header, so nothing is added to it directly.
      match elements.getLast?, path with
      | some last, _ :: _ => do
        let last ← addDotted? key item path last
        return entries.set step (.tables (elements.dropLast ++ [last]))
      | _, _ => none
    | some _ => none

/-- Works on the table at the end of a path of headers, making the tables on the way. -/
def Entries.within {α : Type} (work : Entries → Option (Entries × α)) :
    (path : List String) → Entries → Option (Entries × α)
  | [], entries => work entries
  | step :: path, entries =>
    match entries.lookup step with
    | none => do
      let (inner, result) ← within work path []
      return (entries ++ [(step, .table .implied inner)], result)
    | some (.table kind inner) =>
      if kind = .complete then none
      else do
        let (inner, result) ← within work path inner
        return (entries.set step (.table kind inner), result)
    | some (.tables elements) =>
      match elements.getLast? with
      | some last => do
        let (last, result) ← within work path last
        return (entries.set step (.tables (elements.dropLast ++ [last])), result)
      | none => none
    | some _ => none

/-- What has been read of a document: the tables that are finished, and the one that entries go
to, with the path and the sort of its header. -/
structure Builder where
  finished : Entries := []
  current : Entries := []
  path : List String := []
  isElement : Bool := false

namespace Builder

/-- Adds an entry to the present table. -/
def add? (b : Builder) (path : List String) (key : String) (item : Item) : Option Builder := do
  return { b with current := ← b.current.addDotted? key item path }

/-- Puts the present table in its place. The one before all headers is the document itself. -/
def finish? (b : Builder) : Option Entries :=
  match b.path.getLast? with
  | none => some b.current
  | some key => do
    let place (entries : Entries) : Option (Entries × Unit) :=
      if b.isElement then
        match entries.lookup key with
        | some (.tables elements) =>
          some (entries.set key (.tables (elements ++ [b.current])), ())
        | _ => none
      else do return (← entries.add? key (.table .headed b.current), ())
    return (← b.finished.within place b.path.dropLast).1

/-- Starts the table of a header. A table that was implied so far is taken up again. -/
def table? (b : Builder) (path : List String) : Option Builder := do
  let finished ← b.finish?
  let key ← path.getLast?
  let takeUp (entries : Entries) : Option (Entries × Entries) :=
    match entries.lookup key with
    | none => some (entries, [])
    | some (.table .implied inner) => some (entries.filter fun (k, _) => k ≠ key, inner)
    | some _ => none
  let (finished, current) ← finished.within takeUp path.dropLast
  return { finished, current, path }

/-- Starts one more of the tables of a header in double brackets. -/
def element? (b : Builder) (path : List String) : Option Builder := do
  let finished ← b.finish?
  let key ← path.getLast?
  let announce (entries : Entries) : Option (Entries × Unit) :=
    match entries.lookup key with
    | none => some (entries ++ [(key, .tables [])], ())
    | some (.tables _) => some (entries, ())
    | some _ => none
  let (finished, ()) ← finished.within announce path.dropLast
  return { finished, path, isElement := true }

end Builder

end TxWire.Toml
