import TxWire.Json.Numeral
import TxWire.Json.Quotation

/-!
Reading a JSON text into a tree that holds its faults.
-/

namespace TxWire.Json

/-- Whether a character may stand between tokens. -/
def isBlank (c : Char) : Bool := c = ' ' || c = '\n' || c = '\t' || c = '\r'

/-- The text after the blanks at its front. -/
def skipBlanks (text : List Char) : List Char := text.dropWhile isBlank

/-- A token that breaks off at once. -/
def Token.fault {α : Type} (f : Fault) : Token α := { content := .error f, skipped := .error f }

/-- Reads what is left of a word: a fault unless all of it is there. -/
def readWord (node : Node) : (word text : List Char) → Node × Option (List Char)
  | [], text => (node, some text)
  | _ :: _, [] => (.brokenWord .truncated, none)
  | w :: word, c :: text =>
    if c = w then readWord node word text else (.brokenWord .malformed, none)

mutual

/-- Reads a value, and gives the text after it unless reading stopped at a fault. -/
def readValue : (fuel : Nat) → List Char → Node × Option (List Char)
  | 0, _ => (.fault .truncated, none)
  | fuel + 1, text =>
    match skipBlanks text with
    | [] => (.fault .truncated, none)
    | c :: rest =>
      if c = '"' then
        let (token, rest?) := readString rest
        (.string token, rest?)
      else if c = '[' then
        match skipBlanks rest with
        | [] => (.array [] (.error .truncated), none)
        | c :: text =>
          if c = ']' then (.array [] (.ok ()), some text)
          else
            let (items, close, rest?) := readItems fuel (c :: text)
            (.array items close, rest?)
      else if c = '\x7b' then
        match skipBlanks rest with
        | [] => (.object [] (.error .truncated), none)
        | c :: text =>
          if c = '\x7d' then (.object [] (.ok ()), some text)
          else
            let (members, close, rest?) := readMembers fuel (c :: text)
            (.object members close, rest?)
      else if c = '-' then
        let (token, rest?) := readNumber true rest
        (.number token, rest?)
      else if c.isDigit then
        let (token, rest?) := readNumber false (c :: rest)
        (.number token, rest?)
      else if c = 'n' then readWord .null ['u', 'l', 'l'] rest
      else if c = 't' then readWord (.bool true) ['r', 'u', 'e'] rest
      else if c = 'f' then readWord (.bool false) ['a', 'l', 's', 'e'] rest
      else (.fault .malformed, none)

/-- Reads the items of an array from the next one on. -/
def readItems : (fuel : Nat) → List Char → List Node × Close × Option (List Char)
  | 0, _ => ([], .error .truncated, none)
  | fuel + 1, text =>
    match readValue fuel text with
    | (item, none) => ([item], .error .truncated, none)
    | (item, some rest) =>
      match skipBlanks rest with
      | [] => ([item], .error .truncated, none)
      | c :: rest =>
        if c = ',' then
          let (items, close, rest?) := readItems fuel rest
          (item :: items, close, rest?)
        else if c = ']' then ([item], .ok (), some rest)
        else ([item], .error .malformed, none)

/-- Reads the members of an object from the next one on. -/
def readMembers :
    (fuel : Nat) → List Char → List (Token String × Node) × Close × Option (List Char)
  | 0, _ => ([], .error .truncated, none)
  | fuel + 1, text =>
    match skipBlanks text with
    | [] => ([(.fault .truncated, .fault .truncated)], .error .truncated, none)
    | c :: rest =>
      if c = '"' then
        match readString rest with
        | (key, none) => ([(key, .fault .truncated)], .error .truncated, none)
        | (key, some rest) =>
          match skipBlanks rest with
          | [] => ([(key, .fault .truncated)], .error .truncated, none)
          | c :: rest =>
            if c = ':' then
              match readValue fuel rest with
              | (value, none) => ([(key, value)], .error .truncated, none)
              | (value, some rest) =>
                match skipBlanks rest with
                | [] => ([(key, value)], .error .truncated, none)
                | c :: rest =>
                  if c = ',' then
                    let (members, close, rest?) := readMembers fuel rest
                    ((key, value) :: members, close, rest?)
                  else if c = '\x7d' then ([(key, value)], .ok (), some rest)
                  else ([(key, value)], .error .malformed, none)
            else ([(key, .fault .malformed)], .error .truncated, none)
      else ([(.fault .malformed, .fault .malformed)], .error .truncated, none)

end

/-- What may follow the value of a text: blanks only. -/
def readEnd (text : List Char) : Close :=
  match skipBlanks text with
  | [] => .ok ()
  | _ => .error .malformed

/-- Reads a text. Every step that goes deeper or further takes a character, so twice the length
is fuel enough. -/
def read (text : String) : Document :=
  let chars := text.toList
  match readValue (2 * chars.length + 2) chars with
  | (root, some rest) => { root, rest := readEnd rest }
  | (root, none) => { root, rest := .error .truncated }

end TxWire.Json
