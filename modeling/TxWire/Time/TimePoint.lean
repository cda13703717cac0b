import TxWire.Text.Basic
import TxWire.Text.Ranges
import TxWire.Time.Instant

/-!
Reading the time point of a transaction, `2023-11-14T22:13:20` and the like.

Numbers may have fewer digits than they are written with, blanks may stand in front of them, and
a year with a sign may have any number of digits. Second `60` is the leap second of its minute.
-/

namespace TxWire.TimePoint

/-- Why a text is no time point. -/
inductive Fault
  | outOfRange
  | invalid
  | tooShort
  | tooLong
  deriving DecidableEq, Repr

/-- The wording of a fault. -/
def Fault.message : Fault → String
  | .outOfRange => "input is out of range"
  | .invalid => "input contains invalid characters"
  | .tooShort => "premature end of input"
  | .tooLong => "trailing input"

/-- The digits at the front of a text, at most `width` of them where a width is given. -/
def leadingDigits (width : Option Nat) (text : List Char) : List Char :=
  match width with
  | some width => (text.takeWhile Char.isDigit).take width
  | none => text.takeWhile Char.isDigit

/-- Reads a number of at least one digit. Like every reading step it gives the text that is
left as well. -/
def readDigits (width : Option Nat) (text : List Char) : Except Fault (Nat × List Char) :=
  match text, leadingDigits width text with
  | [], _ => .error .tooShort
  | _, [] => .error .invalid
  | text, digits => .ok (ofDigits 10 digits, text.drop digits.length)

/-- The text after the white space at its front. -/
def skipBlanks (text : List Char) : List Char :=
  text.dropWhile whiteSpace.contains

/-- Reads a number of one or two digits within bounds. -/
def readField (low high : Nat) (text : List Char) : Except Fault (Nat × List Char) := do
  let (n, rest) ← readDigits (some 2) (skipBlanks text)
  if low ≤ n ∧ n ≤ high then .ok (n, rest) else .error .outOfRange

/-- Reads a number with a sign in front, or one of at most four digits. -/
def readSigned (text : List Char) : Except Fault (Int × List Char) :=
  match text with
  | '-' :: rest => (readDigits none rest).map fun (n, rest) => (-(n : Int), rest)
  | '+' :: rest => (readDigits none rest).map fun (n, rest) => ((n : Int), rest)
  | text => (readDigits (some 4) text).map fun (n, rest) => ((n : Int), rest)

/-- Reads a year. -/
def readYear (text : List Char) : Except Fault (Int × List Char) := do
  let (year, rest) ← readSigned (skipBlanks text)
  if -2147483648 ≤ year ∧ year ≤ 2147483647 then .ok (year, rest) else .error .outOfRange

/-- Reads the mark that separates two numbers. -/
def readMark (mark : Char) (text : List Char) : Except Fault (List Char) :=
  match text with
  | [] => .error .tooShort
  | c :: rest => if c = mark then .ok rest else .error .invalid

/-- The instant of a date and a time of day, if the calendar has them. -/
def assemble (date : Date) (hour minute second : Nat) : Option Instant :=
  if date.isValid then
    let start := 86400 * date.toDays + 3600 * hour + 60 * minute
    if second = 60 then Instant.of? (start + 59) nanosPerSecond else Instant.of? (start + second) 0
  else none

/-- Reads a date and a time of day, with nothing after them. -/
def readInstant (text : List Char) : Except Fault Instant := do
  let (year, text) ← readYear text
  let text ← readMark '-' text
  let (month, text) ← readField 1 12 text
  let text ← readMark '-' text
  let (day, text) ← readField 1 31 text
  let text ← readMark 'T' text
  let (hour, text) ← readField 0 23 text
  let text ← readMark ':' text
  let (minute, text) ← readField 0 59 text
  let text ← readMark ':' text
  let (second, text) ← readField 0 60 text
  if text ≠ [] then .error .tooLong
  match assemble { year, month, day } hour minute second with
  | some t => .ok t
  | none => .error .outOfRange

/-- Reads a time point. Zone letters `Z` at its end are ignored. -/
def parse (text : String) : Except Fault Instant :=
  readInstant ((text.toList.reverse.dropWhile (· = 'Z')).reverse)

end TxWire.TimePoint
