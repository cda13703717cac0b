import TxWire.Bytes.Hex
import TxWire.Text.Quoted

/-!
Identifiers of 32 bytes, written as hexadecimal text: chain ids and block ids.
-/

namespace TxWire

/-- The length of an identifier. -/
def digestSize : Nat := 32

/-- An identifier of 32 bytes. -/
structure Digest where
  bytes : List UInt8
  size_eq : bytes.length = digestSize
  deriving DecidableEq

/-- The wording of a fault in hexadecimal text. -/
def Hex.Fault.message : Hex.Fault → String
  | .oddLength => "Odd number of digits"
  | .notDigit byte position =>
    s!"Invalid character {Quoted.char (Char.ofNat byte.toNat)} at position {position}"

namespace Digest

/-- Why a text is not an identifier. -/
inductive Fault
  | notHex (fault : Hex.Fault)
  | wrongSize (size : Nat)
  deriving DecidableEq, Repr

/-- The wording of a fault. -/
def Fault.message : Fault → String
  | .notHex fault => fault.message
  | .wrongSize size => s!"expected {digestSize} bytes, got {size}"

/-- Reads an identifier. -/
def parse (text : String) : Except Fault Digest :=
  match Hex.decode text with
  | .error fault => .error (.notHex fault)
  | .ok bytes =>
    if h : bytes.length = digestSize then .ok ⟨bytes, h⟩ else .error (.wrongSize bytes.length)

/-- An identifier as text. -/
def hex (digest : Digest) : String := Hex.encode digest.bytes

end Digest

end TxWire
