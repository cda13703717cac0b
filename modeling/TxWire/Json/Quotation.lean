import TxWire.Json.Node
import TxWire.Text.Basic

/-!
The string tokens of JSON.
-/

namespace TxWire.Json

/-- The number of four hexadecimal digits. -/
def hexQuad? (a b c d : Char) : Option Nat :=
  if [a, b, c, d].all isHexDigit then some (ofDigits 16 [a, b, c, d]) else none

/-- What is wrong where four digits should stand: the text is too short if it has fewer than four
bytes. -/
def quadFault (text : List Char) : Fault :=
  if (String.ofList (text.take 4)).utf8ByteSize < 4 then .truncated else .malformed

/-- What is wrong where the second half of a surrogate pair should stand. -/
def pairFault (text : List Char) : Fault :=
  match text with
  | [] => .truncated
  | ['\\'] => .truncated
  | '\\' :: 'u' :: rest => quadFault rest
  | _ => .malformed

/-- The character of a one-letter escape. -/
def unescape? (c : Char) : Option Char :=
  if c = '"' ∨ c = '\\' ∨ c = '/' then some c
  else if c = 'b' then some '\x08'
  else if c = 'f' then some '\x0c'
  else if c = 'n' then some '\n'
  else if c = 'r' then some '\r'
  else if c = 't' then some '\t'
  else none

def isHighSurrogate (n : Nat) : Bool := 0xD800 ≤ n && n ≤ 0xDBFF

def isLowSurrogate (n : Nat) : Bool := 0xDC00 ≤ n && n ≤ 0xDFFF

/-- The character of a surrogate pair. -/
def ofSurrogates (high low : Nat) : Char :=
  Char.ofNat (0x10000 + (high - 0xD800) * 0x400 + (low - 0xDC00))

/-- The characters of a string whose opening quote has been read. -/
def stringContent : List Char → Except Fault (List Char)
  | [] => .error .truncated
  | c :: rest =>
    if c = '"' then .ok []
    else if c.toNat < 0x20 then .error .malformed
    else if c = '\\' then
      match rest with
      | [] => .error .truncated
      | 'u' :: a :: b :: c :: d :: rest =>
        match hexQuad? a b c d with
        | none => .error .malformed
        | some n =>
          if isLowSurrogate n then .error .malformed
          else if isHighSurrogate n then
            match rest with
            | '\\' :: 'u' :: a :: b :: c :: d :: rest =>
              match hexQuad? a b c d with
              | none => .error .malformed
              | some m =>
                if isLowSurrogate m then
                  (stringContent rest).map (ofSurrogates n m :: ·)
                else .error .malformed
            | rest => .error (pairFault rest)
          else (stringContent rest).map (Char.ofNat n :: ·)
      | 'u' :: rest => .error (quadFault rest)
      | e :: rest =>
        match unescape? e with
        | some c => (stringContent rest).map (c :: ·)
        | none => .error .malformed
    else (stringContent rest).map (c :: ·)

/-- The text after a string whose opening quote has been read. Halves of surrogate pairs are not
looked at. -/
def afterString : List Char → Except Fault (List Char)
  | [] => .error .truncated
  | c :: rest =>
    if c = '"' then .ok rest
    else if c.toNat < 0x20 then .error .malformed
    else if c = '\\' then
      match rest with
      | [] => .error .truncated
      | 'u' :: a :: b :: c :: d :: rest =>
        match hexQuad? a b c d with
        | none => .error .malformed
        | some _ => afterString rest
      | 'u' :: rest => .error (quadFault rest)
      | e :: rest =>
        match unescape? e with
        | some _ => afterString rest
        | none => .error .malformed
    else afterString rest

/-- Reads a string token whose opening quote has been read, and gives the text after it if it
ends. -/
def readString (text : List Char) : Token String × Option (List Char) :=
  let content := (stringContent text).map String.ofList
  match afterString text with
  | .ok rest => ({ content, skipped := .ok () }, some rest)
  | .error f => ({ content, skipped := .error f }, none)

end TxWire.Json
