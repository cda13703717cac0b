/-!
Texts as bytes and digits as numbers.

* `utf8Bytes`: the bytes of a text in UTF-8. `utf8Bytes_injective`: they determine the text.
* `hexDigit?`, `ofDigits`: the value of a digit, and the number that a row of digits stands for.
-/

namespace TxWire

/-! ### Bytes -/

/-- The bytes of a text, character by character. -/
def utf8Bytes (text : String) : List UInt8 :=
  text.toList.flatMap String.utf8EncodeChar

/-- The text whose bytes are given, if they are well-formed. -/
def ofUtf8? (bytes : List UInt8) : Option String :=
  String.fromUTF8? (ByteArray.mk bytes.toArray)

theorem utf8Bytes_eq_data (text : String) : utf8Bytes text = text.toByteArray.data.toList := by
  conv => rhs; rw [← String.ofList_toList (s := text)]
  rw [String.toByteArray_ofList, List.utf8Encode, List.toList_data_toByteArray, utf8Bytes]

theorem utf8Bytes_injective {s t : String} (h : utf8Bytes s = utf8Bytes t) : s = t := by
  rw [utf8Bytes_eq_data, utf8Bytes_eq_data] at h
  exact String.toByteArray_inj.1 (ByteArray.ext (Array.toList_inj.1 h))

/-! ### Digits -/

/-- The value of a hexadecimal digit, of either case. -/
def hexDigit? (c : Char) : Option Nat :=
  if '0' ≤ c ∧ c ≤ '9' then some (c.toNat - 48)
  else if 'a' ≤ c ∧ c ≤ 'f' then some (c.toNat - 87)
  else if 'A' ≤ c ∧ c ≤ 'F' then some (c.toNat - 55)
  else none

/-- Whether a character is a hexadecimal digit. -/
def isHexDigit (c : Char) : Bool := (hexDigit? c).isSome

/-- The value of a digit, zero for any other character. -/
def digitValue (c : Char) : Nat := (hexDigit? c).getD 0

/-- The number that digits stand for in a base. -/
def ofDigits (base : Nat) (digits : List Char) : Nat :=
  digits.foldl (fun n c => base * n + digitValue c) 0

end TxWire
