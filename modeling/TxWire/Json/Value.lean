/-!
JSON values and their compact text: no blanks, members in the order given, and only those
characters escaped that have to be.
-/

namespace TxWire.Json

/-- A JSON value, as far as transactions need them: numbers are whole. -/
inductive Value
  | null
  | bool (b : Bool)
  | number (n : Nat)
  | string (s : String)
  | array (items : List Value)
  | object (members : List (String × Value))

/-- The four hexadecimal digits of a control character. -/
def controlDigits (c : Char) : List Char :=
  ['0', '0', if c.toNat < 0x10 then '0' else '1', Nat.digitChar (c.toNat % 16)]

/-- One character of a string. -/
def escapeChar (c : Char) : List Char :=
  if c = '"' then ['\\', '"']
  else if c = '\\' then ['\\', '\\']
  else if c = '\x08' then ['\\', 'b']
  else if c = '\t' then ['\\', 't']
  else if c = '\n' then ['\\', 'n']
  else if c = '\x0c' then ['\\', 'f']
  else if c = '\r' then ['\\', 'r']
  else if c.toNat < 0x20 then '\\' :: 'u' :: controlDigits c
  else [c]

/-- A string between quotes. -/
def stringText (s : String) : List Char :=
  '"' :: s.toList.flatMap escapeChar ++ ['"']

mutual

/-- The characters of a value. -/
def Value.chars : Value → List Char
  | .null => ['n', 'u', 'l', 'l']
  | .bool true => ['t', 'r', 'u', 'e']
  | .bool false => ['f', 'a', 'l', 's', 'e']
  | .number n => Nat.toDigits 10 n
  | .string s => stringText s
  | .array [] => ['[', ']']
  | .array (item :: items) => '[' :: item.chars ++ moreItems items
  | .object [] => ['\x7b', '\x7d']
  | .object ((key, value) :: members) =>
    '\x7b' :: stringText key ++ ':' :: value.chars ++ moreMembers members

/-- The characters of an array after its first items. -/
def moreItems : List Value → List Char
  | [] => [']']
  | item :: items => ',' :: item.chars ++ moreItems items

/-- The characters of an object after its first members. -/
def moreMembers : List (String × Value) → List Char
  | [] => ['\x7d']
  | (key, value) :: members =>
    ',' :: stringText key ++ ':' :: value.chars ++ moreMembers members

end

/-- The text of a value. -/
def Value.text (v : Value) : String := String.ofList v.chars

end TxWire.Json
