import TxWire.Text.Basic

/-!
The charsets a writer can be asked to use for its strings.

The tables of the multi-byte charsets are not held here. A `Conversion` stands for what a library of
charsets makes of a text; all that is known of it is that it writes ASCII as it is.
-/

namespace TxWire

/-- The charsets that write each character as one byte. -/
inductive CodePage
  | ibm866
  | iso2 | iso3 | iso4 | iso5 | iso6 | iso7 | iso8 | iso8Logical | iso10 | iso13 | iso14 | iso15
  | iso16
  | koi8r | koi8u | macintosh | macCyrillic
  | windows874 | windows1250 | windows1251 | windows1252 | windows1253 | windows1254
  | windows1255 | windows1256 | windows1257 | windows1258
  | userDefined
  deriving DecidableEq, Repr

/-- The name of a code page. -/
def CodePage.name : CodePage → String
  | .ibm866 => "IBM866"
  | .iso2 => "ISO-8859-2"
  | .iso3 => "ISO-8859-3"
  | .iso4 => "ISO-8859-4"
  | .iso5 => "ISO-8859-5"
  | .iso6 => "ISO-8859-6"
  | .iso7 => "ISO-8859-7"
  | .iso8 => "ISO-8859-8"
  | .iso8Logical => "ISO-8859-8-I"
  | .iso10 => "ISO-8859-10"
  | .iso13 => "ISO-8859-13"
  | .iso14 => "ISO-8859-14"
  | .iso15 => "ISO-8859-15"
  | .iso16 => "ISO-8859-16"
  | .koi8r => "KOI8-R"
  | .koi8u => "KOI8-U"
  | .macintosh => "macintosh"
  | .macCyrillic => "x-mac-cyrillic"
  | .windows874 => "windows-874"
  | .windows1250 => "windows-1250"
  | .windows1251 => "windows-1251"
  | .windows1252 => "windows-1252"
  | .windows1253 => "windows-1253"
  | .windows1254 => "windows-1254"
  | .windows1255 => "windows-1255"
  | .windows1256 => "windows-1256"
  | .windows1257 => "windows-1257"
  | .windows1258 => "windows-1258"
  | .userDefined => "x-user-defined"

/-- The charsets, apart from UTF-8, that write some characters as more than one byte. -/
inductive MultiByte
  | shiftJis | eucJp | iso2022Jp
  | gb18030 | gbk | big5 | eucKr
  deriving DecidableEq, Repr

namespace MultiByte

/-- The name of a multi-byte charset. -/
def name : MultiByte → String
  | shiftJis => "Shift_JIS"
  | eucJp => "EUC-JP"
  | iso2022Jp => "ISO-2022-JP"
  | gb18030 => "gb18030"
  | gbk => "GBK"
  | big5 => "Big5"
  | eucKr => "EUC-KR"

/-- The ASCII characters that a charset keeps for its own use: ISO-2022-JP has two shifts and the
escape. -/
def reserved : MultiByte → List Char
  | iso2022Jp => ['\x0e', '\x0f', '\x1b']
  | _ => []

end MultiByte

/-- A text of ASCII characters, none of them reserved. -/
def IsPlain (reserved : List Char) (text : String) : Prop :=
  ∀ c ∈ text.toList, c.toNat < 128 ∧ c ∉ reserved

instance (reserved : List Char) (text : String) : Decidable (IsPlain reserved text) :=
  List.decidableBAll _ text.toList

/-- What a library of charsets makes of texts in a multi-byte charset. -/
structure Conversion (target : MultiByte) where
  /-- The bytes of a text, if the charset has all of its characters. -/
  encode? : String → Option (List UInt8)
  /-- ASCII is written as it is. -/
  encode?_plain : ∀ text, IsPlain target.reserved text → encode? text = some (utf8Bytes text)

/-- A conversion that looks for plain ASCII before anything else. -/
def Conversion.ofOther (target : MultiByte) (encode? : String → Option (List UInt8)) :
    Conversion target where
  encode? text := if IsPlain target.reserved text then some (utf8Bytes text) else encode? text
  encode?_plain _ h := if_pos h

/-- The conversion that has nothing but plain ASCII. -/
def Conversion.asciiOnly (target : MultiByte) : Conversion target := .ofOther target fun _ => none

/-- A charset. The last three can only be read, so no string can be written in them. -/
inductive Charset
  | utf8
  | page (page : CodePage)
  | multiByte (target : MultiByte) (conversion : Conversion target)
  | utf16le | utf16be | replacement

namespace Charset

/-- The name of a charset. -/
def name : Charset → String
  | utf8 => "UTF-8"
  | page p => p.name
  | multiByte target _ => target.name
  | utf16le => "UTF-16LE"
  | utf16be => "UTF-16BE"
  | replacement => "replacement"

/-- The ASCII characters that are not written as they are. -/
def reserved : Charset → List Char
  | multiByte target _ => target.reserved
  | _ => []

/-- Whether strings can only be read in a charset. -/
def isReadOnly : Charset → Bool
  | utf8 | page _ | multiByte _ _ => false
  | utf16le | utf16be | replacement => true

end Charset

end TxWire
