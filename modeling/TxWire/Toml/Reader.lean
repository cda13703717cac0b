import TxWire.Toml.Scalar
import TxWire.Toml.Table

/-!
Reading a TOML document. A reading step gives what it read and the text after it, and `none` if
the text does not fit; `fuel` bounds the number of things in a row and is taken from the length
of the text.
-/

namespace TxWire.Toml

/-- The text after a comment, if there is one. -/
def skipComment (text : List Char) : List Char :=
  match text with
  | '#' :: rest => rest.dropWhile isLineChar
  | text => text

/-- The text of the next line, if only blanks and a comment are left in this one. -/
def lineEnd? (text : List Char) : Option (List Char) :=
  match skipComment (skipBlanks text) with
  | [] => some []
  | text => newline? text

/-! ### Keys -/

/-- Whether a character may stand in a key without quotes. -/
def isKeyChar (c : Char) : Bool := c.isAlphanum || c = '-' || c = '_'

/-- A key without dots. -/
def simpleKey? (text : List Char) : Option (String × List Char) :=
  match text with
  | '"' :: rest => do
    let (chars, rest) ← basicString rest
    return (String.ofList chars, rest)
  | '\'' :: rest => do
    let (chars, rest) ← literalString rest
    return (String.ofList chars, rest)
  | text =>
    match text.takeWhile isKeyChar with
    | [] => none
    | chars => some (String.ofList chars, text.drop chars.length)

/-- The parts of a dotted key, with the blanks around them. -/
def keyParts? : (fuel : Nat) → List Char → Option (List String × List Char)
  | 0, _ => none
  | fuel + 1, text => do
    let (part, rest) ← simpleKey? (skipBlanks text)
    match skipBlanks rest with
    | '.' :: rest =>
      let (parts, rest) ← keyParts? fuel rest
      return (part :: parts, rest)
    | rest => return ([part], rest)

/-- A key has to have fewer parts than this. -/
def maxKeyParts : Nat := 80

/-- A key, dotted or not. -/
def key? (text : List Char) : Option (List String × List Char) := do
  let (parts, rest) ← keyParts? (text.length + 1) text
  if parts.length < maxKeyParts then some (parts, rest) else none

/-! ### Values -/

/-- The text after the blanks, line breaks and comments at its front. A comment ends with its
line, and the text cannot end before that. -/
def skipLines (inComment : Bool) : List Char → Option (List Char)
  | [] => if inComment then none else some []
  | '\n' :: rest => skipLines false rest
  | '\r' :: '\n' :: rest => skipLines false rest
  | c :: rest =>
    if inComment then (if isLineChar c then skipLines true rest else none)
    else if isBlank c then skipLines false rest
    else if c = '#' then skipLines true rest
    else if c = '\r' then none
    else some (c :: rest)

/-- A value within an array, with the blanks and lines around it. -/
def spaced? (value? : List Char → Option (Item × List Char)) (text : List Char) :
    Option (Item × List Char) := do
  let text ← skipLines false text
  let (item, text) ← value? text
  return (item, ← skipLines false text)

/-- The items of an array from the next one or the closing bracket on. -/
def arrayItems? (value? : List Char → Option (Item × List Char)) :
    (fuel : Nat) → List Char → Option (List Item × List Char)
  | 0, _ => none
  | fuel + 1, text => do
    match ← skipLines false text with
    | ']' :: rest => return ([], rest)
    | text =>
      let (item, text) ← spaced? value? text
      match text with
      | ',' :: text =>
        let (items, rest) ← arrayItems? value? fuel text
        return (item :: items, rest)
      | ']' :: rest => return ([item], rest)
      | _ => none

/-- An entry of a table in braces, added to those before it. -/
def braceEntry? (value? : List Char → Option (Item × List Char)) (entries : Entries)
    (text : List Char) : Option (Entries × List Char) := do
  let (parts, text) ← key? text
  let key ← parts.getLast?
  let text ← mark? '=' text
  let (item, text) ← value? (skipBlanks text)
  return (← entries.addDotted? key item parts.dropLast, skipBlanks text)

/-- The entries of a table in braces from the next one on. -/
def braceEntries? (value? : List Char → Option (Item × List Char)) :
    (fuel : Nat) → Entries → List Char → Option (Entries × List Char)
  | 0, _, _ => none
  | fuel + 1, entries, text => do
    let (entries, text) ← braceEntry? value? entries text
    match text with
    | ',' :: text => braceEntries? value? fuel entries text
    | '\x7d' :: rest => return (entries, rest)
    | _ => none

/-- A value, in which arrays and tables may nest `room` levels deep. -/
def value? : (room : Nat) → List Char → Option (Item × List Char)
  | room, '[' :: rest =>
    match room with
    | 0 => none
    | room + 1 => do
      let (items, rest) ← arrayItems? (value? room) (rest.length + 1) rest
      return (.array items, rest)
  | room, '\x7b' :: rest =>
    match room with
    | 0 => none
    | room + 1 =>
      match skipBlanks rest with
      | '\x7d' :: rest => some (.table .complete [], rest)
      | rest => do
        let (entries, rest) ← braceEntries? (value? room) (rest.length + 1) [] rest
        return (.table .complete entries, rest)
  | _, text => scalar? text

/-- The levels that arrays and tables in braces may nest. -/
def nestingRoom : Nat := 79

/-! ### Lines -/

/-- A line with a header, whose first bracket has been read. -/
def header? (b : Builder) (text : List Char) : Option (Builder × List Char) :=
  match text with
  | '[' :: text => do
    let (path, text) ← key? text
    let text ← mark? ']' text
    let text ← mark? ']' text
    return (← b.element? path, ← lineEnd? text)
  | text => do
    let (path, text) ← key? text
    let text ← mark? ']' text
    return (← b.table? path, ← lineEnd? text)

/-- A line with an entry. -/
def entry? (b : Builder) (text : List Char) : Option (Builder × List Char) := do
  let (parts, text) ← key? text
  let key ← parts.getLast?
  let text ← mark? '=' text
  let (item, text) ← value? nestingRoom (skipBlanks text)
  return (← b.add? parts.dropLast key item, ← lineEnd? text)

/-- The lines of a document. -/
def lines? : (fuel : Nat) → Builder → List Char → Option Builder
  | 0, _, _ => none
  | fuel + 1, b, text =>
    match skipBlanks text with
    | [] => some b
    | c :: rest =>
      if c = '#' ∨ c = '\n' ∨ c = '\r' then do lines? fuel b (← lineEnd? (c :: rest))
      else if c = '[' then do
        let (b, rest) ← header? b rest
        lines? fuel b rest
      else do
        let (b, rest) ← entry? b (c :: rest)
        lines? fuel b rest

/-- Reads a document. A byte order mark at its start is ignored. -/
def parse? (text : String) : Option Entries :=
  let chars := match text.toList with
    | '\ufeff' :: rest => rest
    | chars => chars
  (lines? (chars.length + 1) {} chars).bind Builder.finish?

end TxWire.Toml
