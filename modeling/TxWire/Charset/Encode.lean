import TxWire.Charset.Basic
import TxWire.Charset.Tables

/-!
Writing a text in a charset. Nothing is ever substituted: a text with a character the charset
lacks is refused as a whole.
-/

namespace TxWire

/-- The code points of the bytes from `0x80` on. -/
def CodePage.upperHalf : CodePage → List Nat
  | .ibm866 => Charset.Tables.ibm866
  | .iso2 => Charset.Tables.iso2
  | .iso3 => Charset.Tables.iso3
  | .iso4 => Charset.Tables.iso4
  | .iso5 => Charset.Tables.iso5
  | .iso6 => Charset.Tables.iso6
  | .iso7 => Charset.Tables.iso7
  | .iso8 => Charset.Tables.iso8
  | .iso8Logical => Charset.Tables.iso8
  | .iso10 => Charset.Tables.iso10
  | .iso13 => Charset.Tables.iso13
  | .iso14 => Charset.Tables.iso14
  | .iso15 => Charset.Tables.iso15
  | .iso16 => Charset.Tables.iso16
  | .koi8r => Charset.Tables.koi8r
  | .koi8u => Charset.Tables.koi8u
  | .macintosh => Charset.Tables.macintosh
  | .macCyrillic => Charset.Tables.macCyrillic
  | .windows874 => Charset.Tables.windows874
  | .windows1250 => Charset.Tables.windows1250
  | .windows1251 => Charset.Tables.windows1251
  | .windows1252 => Charset.Tables.windows1252
  | .windows1253 => Charset.Tables.windows1253
  | .windows1254 => Charset.Tables.windows1254
  | .windows1255 => Charset.Tables.windows1255
  | .windows1256 => Charset.Tables.windows1256
  | .windows1257 => Charset.Tables.windows1257
  | .windows1258 => Charset.Tables.windows1258
  | .userDefined => List.range' 0xF780 128

/-- The byte of a character in a code page. -/
def CodePage.byte? (page : CodePage) (c : Char) : Option UInt8 :=
  if c.toNat < 0x80 then some (UInt8.ofNat c.toNat)
  else (page.upperHalf.findIdx? (· = c.toNat)).map fun i => UInt8.ofNat (0x80 + i)

namespace Charset

/-- Why a text cannot be written. -/
inductive Fault
  /-- The charset is for reading only. -/
  | readOnly
  /-- The text has a character the charset lacks. -/
  | unmappable (text : String)
  /-- A fault that the caller words itself. -/
  | other (message : String)
  deriving DecidableEq, Repr

/-- The bytes of a text, for the charsets that strings can be written in. -/
def encode? (charset : Charset) (text : String) : Option (List UInt8) :=
  match charset with
  | utf8 => some (utf8Bytes text)
  | page p => text.toList.mapM p.byte?
  | multiByte _ conversion => conversion.encode? text
  | utf16le | utf16be | replacement => none

/-- Writes a text. A charset for reading refuses every text, the empty one too. -/
def encode (charset : Charset) (text : String) : Except Fault (List UInt8) :=
  if charset.isReadOnly then .error .readOnly
  else match charset.encode? text with
    | some bytes => .ok bytes
    | none => .error (.unmappable text)

end Charset

end TxWire
