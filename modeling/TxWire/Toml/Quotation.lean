import TxWire.Text.Basic

/-!
Strings in TOML: how they are read in their four forms, and how one is written.

A reading step gives what it read and the text after it, and `none` if the text does not fit.
-/

namespace TxWire.Toml

/-- Whether a character is a blank within a line. -/
def isBlank (c : Char) : Bool := c = ' ' || c = '\t'

/-- The text after the blanks at its front. -/
def skipBlanks (text : List Char) : List Char := text.dropWhile isBlank

/-- The text after a line break, which a carriage return may precede. -/
def newline? : List Char → Option (List Char)
  | '\n' :: rest => some rest
  | '\r' :: '\n' :: rest => some rest
  | _ => none

/-- The text after a line break, if there is one. -/
def skipNewline (text : List Char) : List Char := (newline? text).getD text

/-- Whether a character may stand in a line: any but the controls other than the tab. -/
def isLineChar (c : Char) : Bool := c = '\t' || (0x20 ≤ c.toNat && c.toNat ≠ 0x7F)

/-- The character with a code given in hexadecimal digits. -/
def ofHexDigits? (digits : List Char) : Option Char :=
  let code := ofDigits 16 digits
  if digits.all isHexDigit ∧ (code < 0xD800 ∨ (0xDFFF < code ∧ code < 0x110000)) then
    some (Char.ofNat code)
  else none

/-- The character of a one-letter escape. -/
def unescape? (c : Char) : Option Char :=
  if c = '"' ∨ c = '\\' then some c
  else if c = 'b' then some '\x08'
  else if c = 't' then some '\t'
  else if c = 'n' then some '\n'
  else if c = 'f' then some '\x0c'
  else if c = 'r' then some '\r'
  else none

/-- Puts a character in front of what a reading step read. -/
def consRead (c : Char) : Option (List Char × List Char) → Option (List Char × List Char) :=
  Option.map fun (chars, rest) => (c :: chars, rest)

/-! ### One line -/

/-- A string in double quotes, whose opening quote has been read. -/
def basicString : List Char → Option (List Char × List Char)
  | [] => none
  | c :: rest =>
    if c = '"' then some ([], rest)
    else if c = '\\' then
      match rest with
      | [] => none
      | 'u' :: a :: b :: c :: d :: rest => do
        consRead (← ofHexDigits? [a, b, c, d]) (basicString rest)
      | 'U' :: a :: b :: c :: d :: e :: f :: g :: h :: rest => do
        consRead (← ofHexDigits? [a, b, c, d, e, f, g, h]) (basicString rest)
      | e :: rest => do consRead (← unescape? e) (basicString rest)
    else if isLineChar c then consRead c (basicString rest)
    else none

/-- A string in single quotes, whose opening quote has been read. -/
def literalString : List Char → Option (List Char × List Char)
  | [] => none
  | c :: rest =>
    if c = '\'' then some ([], rest)
    else if isLineChar c then consRead c (literalString rest)
    else none

/-! ### Several lines -/

/-- Where a string of several lines stands with regard to a line break that a backslash takes
away together with the blanks around it. -/
inductive Trim
  /-- There is none. -/
  | no
  /-- The break is still to come. -/
  | before
  /-- The break has come, and more blanks and breaks may follow. -/
  | after
  deriving DecidableEq

/-- The end of a string of several lines: three quotes, of which up to two more may be meant to
stand in the string. -/
def closing? (quote : Char) : List Char → Option (List Char × List Char)
  | a :: b :: c :: rest =>
    if a = quote ∧ b = quote ∧ c = quote then
      match rest with
      | d :: e :: rest =>
        if d = quote then
          if e = quote then some ([quote, quote], rest) else some ([quote], e :: rest)
        else some ([], d :: e :: rest)
      | [d] => if d = quote then some ([quote], []) else some ([], [d])
      | [] => some ([], [])
    else none
  | _ => none

/-- Whether a text starts with a blank or a line break. -/
def startsBlank (text : List Char) : Bool :=
  match text with
  | c :: _ => isBlank c || c = '\n' || c = '\r'
  | [] => false

/-- A string in three double quotes, after them and a line break that may follow them. -/
def basicLines (trim : Trim) : List Char → Option (List Char × List Char)
  | [] => none
  | c :: rest =>
    if trim ≠ .no ∧ isBlank c then basicLines trim rest
    else if trim ≠ .no ∧ c = '\n' then basicLines .after rest
    else if trim ≠ .no ∧ c = '\r' then
      match rest with
      | '\n' :: more => basicLines .after more
      | _ => none
    else if trim = .before then none
    else if c = '"' then
      match closing? '"' (c :: rest) with
      | some ending => some ending
      | none => consRead c (basicLines .no rest)
    else if c = '\\' ∧ startsBlank rest then basicLines .before rest
    else if c = '\\' then
      match rest with
      | [] => none
      | 'u' :: a :: b :: c :: d :: more => do
        consRead (← ofHexDigits? [a, b, c, d]) (basicLines .no more)
      | 'U' :: a :: b :: c :: d :: e :: f :: g :: h :: more => do
        consRead (← ofHexDigits? [a, b, c, d, e, f, g, h]) (basicLines .no more)
      | e :: more => do consRead (← unescape? e) (basicLines .no more)
    else if c = '\n' then consRead c (basicLines .no rest)
    else if c = '\r' then
      match rest with
      | '\n' :: more => consRead '\n' (basicLines .no more)
      | _ => none
    else if isLineChar c then consRead c (basicLines .no rest)
    else none

/-- A string in three single quotes, after them and a line break that may follow them. -/
def literalLines : List Char → Option (List Char × List Char)
  | [] => none
  | c :: rest =>
    if c = '\'' then
      match closing? '\'' (c :: rest) with
      | some ending => some ending
      | none => consRead c (literalLines rest)
    else if c = '\n' then consRead c (literalLines rest)
    else if c = '\r' then
      match rest with
      | '\n' :: more => consRead '\n' (literalLines more)
      | _ => none
    else if isLineChar c then consRead c (literalLines rest)
    else none

/-- A string in any form. -/
def string? : List Char → Option (List Char × List Char)
  | '"' :: '"' :: '"' :: rest => basicLines .no (skipNewline rest)
  | '"' :: rest => basicString rest
  | '\'' :: '\'' :: '\'' :: rest => literalLines (skipNewline rest)
  | '\'' :: rest => literalString rest
  | _ => none

/-! ### Writing -/

/-- The length of the longest run of a character, given those of the present run and of the
longest before it. -/
def longestRun (mark : Char) (present longest : Nat) : List Char → Nat
  | [] => longest
  | c :: rest =>
    if c = mark then longestRun mark (present + 1) (max longest (present + 1)) rest
    else longestRun mark 0 longest rest

/-- Whether a character can only be written as an escape, whatever the form. -/
def needsEscape (c : Char) : Bool :=
  (c.toNat < 0x20 || c = '\x7f') && c ≠ '\t' && c ≠ '\n'

/-- The four forms of a string. -/
inductive Form
  | basic
  | literal
  | basicLines
  | literalLines
  deriving DecidableEq, Repr

/-- The first form that shows a string as it is, one line before several and double quotes before
single ones; without any, double quotes on as many lines as the string has. -/
def formFor (chars : List Char) : Form :=
  let escapes := chars.any needsEscape
  let backslash := chars.contains '\\'
  let breaks := chars.contains '\n'
  let doubles := longestRun '"' 0 0 chars
  let singles := longestRun '\'' 0 0 chars
  if !escapes && !backslash && doubles = 0 && !breaks then .basic
  else if !escapes && singles = 0 && !breaks then .literal
  else if !escapes && !backslash && doubles ≤ 2 then .basicLines
  else if !escapes && singles ≤ 2 then .literalLines
  else if breaks then .basicLines
  else .basic

/-- The upper case digits of a control character. -/
def controlDigits (c : Char) : List Char :=
  let digits := (Nat.toDigits 16 c.toNat).map Char.toUpper
  List.replicate (4 - digits.length) '0' ++ digits

/-- The characters of a string between double quotes. On several lines up to two quotes in a row,
and line breaks, stay as they are; `quotes` counts those just written. -/
def escaped (lines : Bool) (quotes : Nat) : List Char → List Char
  | [] => []
  | c :: rest =>
    if c = '"' then
      if quotes < (if lines then 2 else 0) then c :: escaped lines (quotes + 1) rest
      else '\\' :: c :: escaped lines 0 rest
    else if c = '\x08' then '\\' :: 'b' :: escaped lines 0 rest
    else if c = '\t' then '\\' :: 't' :: escaped lines 0 rest
    else if c = '\n' ∧ !lines then '\\' :: 'n' :: escaped lines 0 rest
    else if c = '\x0c' then '\\' :: 'f' :: escaped lines 0 rest
    else if c = '\r' then '\\' :: 'r' :: escaped lines 0 rest
    else if c = '\\' then '\\' :: '\\' :: escaped lines 0 rest
    else if needsEscape c then '\\' :: 'u' :: controlDigits c ++ escaped lines 0 rest
    else c :: escaped lines 0 rest

/-- A string in the form that suits it. One with line breaks starts on a line of its own. -/
def stringText (s : String) : List Char :=
  let chars := s.toList
  let start := if chars.contains '\n' then ['\n'] else []
  match formFor chars with
  | .basic => '"' :: escaped false 0 chars ++ ['"']
  | .literal => '\'' :: chars ++ ['\'']
  | .basicLines => ['"', '"', '"'] ++ start ++ escaped true 0 chars ++ ['"', '"', '"']
  | .literalLines => ['\'', '\'', '\''] ++ start ++ chars ++ ['\'', '\'', '\'']

end TxWire.Toml
