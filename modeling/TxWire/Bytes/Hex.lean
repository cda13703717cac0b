import TxWire.Text.Basic

/-!
Hexadecimal text for byte strings: two lower case digits a byte when written, digits of either
case when read.
-/

namespace TxWire.Hex

/-- The lower case digit of a number below sixteen. -/
def digit (n : Nat) : Char :=
  if n < 10 then Char.ofNat ('0'.toNat + n) else Char.ofNat ('a'.toNat + (n - 10))

/-- Both digits of a byte, the high one first. -/
def digitsOf (b : UInt8) : List Char :=
  [digit (b.toNat / 16), digit (b.toNat % 16)]

/-- The digits of a byte string. -/
def digits (bytes : List UInt8) : List Char :=
  bytes.flatMap digitsOf

/-- A byte string as lower case text. -/
def encode (bytes : List UInt8) : String :=
  String.ofList (digits bytes)

/-- The value of a digit given by its ASCII code. -/
def value? (code : UInt8) : Option Nat :=
  if 48 ≤ code.toNat ∧ code.toNat ≤ 57 then some (code.toNat - 48)
  else if 97 ≤ code.toNat ∧ code.toNat ≤ 102 then some (code.toNat - 87)
  else if 65 ≤ code.toNat ∧ code.toNat ≤ 70 then some (code.toNat - 55)
  else none

/-- Why a text is not hexadecimal. -/
inductive Fault
  /-- A digit has no partner. -/
  | oddLength
  /-- The byte at this place of the text is no digit. -/
  | notDigit (byte : UInt8) (position : Nat)
  deriving DecidableEq, Repr

/-- The value of the digit at a place of the text. -/
def digitAt (position : Nat) (code : UInt8) : Except Fault Nat :=
  match value? code with
  | some v => .ok v
  | none => .error (.notDigit code position)

/-- Reads digits in pairs from left to right; the first byte that is no digit is reported. -/
def decodePairs (position : Nat) : List UInt8 → Except Fault (List UInt8)
  | high :: low :: rest => do
    let h ← digitAt position high
    let l ← digitAt (position + 1) low
    return UInt8.ofNat (16 * h + l) :: (← decodePairs (position + 2) rest)
  | _ => .ok []

/-- Reads the bytes of a text as digits. An odd number of bytes is refused before any is read. -/
def decodeBytes (text : List UInt8) : Except Fault (List UInt8) :=
  if text.length % 2 = 1 then .error .oddLength else decodePairs 0 text

/-- Reads a text as digits, two for each byte. -/
def decode (text : String) : Except Fault (List UInt8) :=
  decodeBytes (utf8Bytes text)

/-- Whether a byte is the ASCII code of a digit, of either case. -/
def isDigitCode (code : UInt8) : Bool :=
  (value? code).isSome

end TxWire.Hex
