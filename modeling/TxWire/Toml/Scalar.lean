import TxWire.Time.Calendar
import TxWire.Toml.Item
import TxWire.Toml.Quotation

/-!
Numbers, dates and the two truth values of TOML. A reading step gives what it read and the text
after it, and `none` if the text does not fit.
-/

namespace TxWire.Toml

/-! ### Numbers -/

/-- The digits at the front of a text, single underscores between them left out. -/
def digitsAfter (isDigit : Char → Bool) : List Char → Option (List Char × List Char)
  | [] => some ([], [])
  | c :: rest =>
    if isDigit c then consRead c (digitsAfter isDigit rest)
    else if c = '_' then
      match rest with
      | [] => none
      | d :: more => if isDigit d then consRead d (digitsAfter isDigit more) else none
    else some ([], c :: rest)

/-- At least one digit. -/
def digits? (isDigit : Char → Bool) (text : List Char) : Option (List Char × List Char) :=
  match text with
  | [] => none
  | c :: _ => if isDigit c then digitsAfter isDigit text else none

/-- A sign, plus if there is none. -/
def sign (text : List Char) : Bool × List Char :=
  match text with
  | '-' :: rest => (true, rest)
  | '+' :: rest => (false, rest)
  | text => (false, text)

/-- The digits of a whole number. A zero stands by itself. -/
def wholeDigits? (text : List Char) : Option (List Char × List Char) :=
  match text with
  | '0' :: rest => some (['0'], rest)
  | text => digits? Char.isDigit text

/-- The first whole number that 64 bits with sign do not hold. -/
def integerBound : Int := 9223372036854775808

/-- A whole number that fits into 64 bits with sign. -/
def integer? (negative : Bool) (n : Nat) : Option Item :=
  let value : Int := if negative then -n else n
  if -integerBound ≤ value ∧ value < integerBound then some (.integer value) else none

/-- A whole number in another base than ten, after its mark. -/
def based? (base : Nat) (isDigit : Char → Bool) (text : List Char) : Option (Item × List Char) := do
  let (digits, rest) ← digits? isDigit text
  return (← integer? false (ofDigits base digits), rest)

/-- The exponent of a real number: its value and the text after it. -/
def exponent? (text : List Char) : Option (Int × List Char) :=
  match text with
  | c :: rest =>
    if c = 'e' ∨ c = 'E' then do
      let (negative, rest) := sign rest
      let (digits, rest) ← digits? Char.isDigit rest
      let size : Int := ofDigits 10 digits
      return (if negative then -size else size, rest)
    else none
  | [] => none

/-- A real number. Only minus infinity may come of one that is too large. -/
def real? (negative : Bool) (digits : List Char) (power : Int) : Option Item :=
  match Binary64.ofDecimal negative (ofDigits 10 digits) power with
  | .infinite false => none
  | x => some (.real x)

/-- What may follow the digits before the point, if the number is real. -/
def realAfter (negative : Bool) (whole text : List Char) : Option (Item × List Char) :=
  match text with
  | '.' :: rest => do
    let (fraction, rest) ← digits? Char.isDigit rest
    let places : Int := fraction.length
    match rest with
    | c :: _ =>
      if c = 'e' ∨ c = 'E' then
        let (power, rest) ← exponent? rest
        return (← real? negative (whole ++ fraction) (power - places), rest)
      else return (← real? negative (whole ++ fraction) (-places), rest)
    | [] => return (← real? negative (whole ++ fraction) (-places), rest)
  | text => do
    let (power, rest) ← exponent? text
    return (← real? negative whole power, rest)

/-- Whether a text goes on after the digits of a whole number as only a real number can. -/
def isRealAfter (text : List Char) : Bool :=
  match text with
  | c :: _ => c = '.' || c = 'e' || c = 'E'
  | [] => false

/-- The text after a word. -/
def word? : (word text : List Char) → Option (List Char)
  | [], text => some text
  | _ :: _, [] => none
  | w :: word, c :: text => if c = w then word? word text else none

/-- A number in base ten, whose sign has been read. -/
def decimal? (negative : Bool) (text : List Char) : Option (Item × List Char) :=
  match word? ['i', 'n', 'f'] text, word? ['n', 'a', 'n'] text with
  | some rest, _ => some (.real (.infinite negative), rest)
  | _, some rest => some (.real .nan, rest)
  | none, none => do
    let (whole, rest) ← wholeDigits? text
    if isRealAfter rest then realAfter negative whole rest
    else return (← integer? negative (ofDigits 10 whole), rest)

def isBinaryDigit (c : Char) : Bool := c = '0' || c = '1'

def isOctalDigit (c : Char) : Bool := '0' ≤ c && c ≤ '7'

/-- A number. -/
def number? (text : List Char) : Option (Item × List Char) :=
  match text with
  | '0' :: 'x' :: rest => based? 16 isHexDigit rest
  | '0' :: 'o' :: rest => based? 8 isOctalDigit rest
  | '0' :: 'b' :: rest => based? 2 isBinaryDigit rest
  | text =>
    let (negative, rest) := sign text
    decimal? negative rest

/-! ### Dates and times of day -/

/-- Two digits with a value within bounds. -/
def twoDigits? (low high : Nat) : List Char → Option (Nat × List Char)
  | a :: b :: rest =>
    let n := ofDigits 10 [a, b]
    if a.isDigit ∧ b.isDigit ∧ low ≤ n ∧ n ≤ high then some (n, rest) else none
  | _ => none

/-- The text after a mark. -/
def mark? (mark : Char) : List Char → Option (List Char)
  | c :: rest => if c = mark then some rest else none
  | [] => none

/-- A time of day. Second 60 is a leap second. -/
def time? (text : List Char) : Option (List Char) := do
  let (_, text) ← twoDigits? 0 23 text
  let text ← mark? ':' text
  let (_, text) ← twoDigits? 0 59 text
  let text ← mark? ':' text
  let (_, text) ← twoDigits? 0 60 text
  match text with
  | '.' :: c :: rest => return if c.isDigit then rest.dropWhile Char.isDigit else text
  | _ => return text

/-- An offset from universal time. -/
def offset? (text : List Char) : Option (List Char) :=
  match text with
  | c :: rest =>
    if c = 'Z' ∨ c = 'z' then some rest
    else if c = '+' ∨ c = '-' then do
      let (_, rest) ← twoDigits? 0 23 rest
      let rest ← mark? ':' rest
      let (_, rest) ← twoDigits? 0 59 rest
      return rest
    else none
  | [] => none

/-- A date of the calendar. -/
def date? (text : List Char) : Option (List Char) := do
  let (century, text) ← twoDigits? 0 99 text
  let (year, text) ← twoDigits? 0 99 text
  let text ← mark? '-' text
  let (month, text) ← twoDigits? 1 12 text
  let text ← mark? '-' text
  let (day, text) ← twoDigits? 1 31 text
  if day ≤ Date.daysInMonth (100 * century + year : Nat) month then some text else none

/-- A time of day after a date, with an offset or without. -/
def timeAfterDate? (text : List Char) : Option (List Char) :=
  match text with
  | c :: rest =>
    if c = 'T' ∨ c = 't' ∨ c = ' ' then do
      let rest ← time? rest
      return (offset? rest).getD rest
    else none
  | [] => none

/-- A date, a time of day or both. -/
def dateTime? (text : List Char) : Option (List Char) :=
  match date? text with
  | some rest => some ((timeAfterDate? rest).getD rest)
  | none => time? text

/-! ### Scalars -/

/-- A value that is neither an array nor a table. -/
def scalar? (text : List Char) : Option (Item × List Char) :=
  match text with
  | [] => none
  | c :: _ =>
    if c = '"' ∨ c = '\'' then do
      let (chars, rest) ← string? text
      return (.string (String.ofList chars), rest)
    else if c = 't' then do return (.boolean true, ← word? ['t', 'r', 'u', 'e'] text)
    else if c = 'f' then do return (.boolean false, ← word? ['f', 'a', 'l', 's', 'e'] text)
    else match dateTime? text with
      | some rest => some (.dateTime, rest)
      | none => number? text

end TxWire.Toml
