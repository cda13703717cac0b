import TxWire.Json.Node
import TxWire.Text.Basic

/-!
The number tokens of JSON.

A number without fraction and exponent is whole as long as 64 bits hold it, except that minus
zero is real. Of a real number, the leading digits that 64 bits hold are taken as a whole number
and scaled by a power of ten, each step being rounded; digits after those only count as places. A
real number that is too large is a fault of the text.
-/

namespace TxWire.Json

/-- Takes digits in as long as the number fits into 64 bits: the number, and how many digits are
left over. -/
def absorb (n : Nat) : List Char → Nat × Nat
  | [] => (n, 0)
  | d :: rest =>
    if 10 * n + digitValue d < UInt64.size then absorb (10 * n + digitValue d) rest
    else (n, rest.length + 1)

/-- A positive number times a power of ten. The powers up to the 308th are binary64 numbers;
smaller ones than those are reached by repeated division. -/
def scale (x : Binary64) (power : Int) : Except Fault Binary64 :=
  if h : power < -308 then
    if x.isZero then .ok x else scale (x.div (Binary64.ofDecimal false 1 308)) (power + 308)
  else if power < 0 then .ok (x.div (Binary64.ofDecimal false 1 (-power)))
  else if power ≤ 308 then
    match x.mul (Binary64.ofDecimal false 1 power) with
    | .infinite _ => .error .malformed
    | product => .ok product
  else if x.isZero then .ok x
  else .error .malformed
termination_by (-power).toNat
decreasing_by omega

/-- The first exponent that 32 bits with sign do not hold. -/
def exponentBound : Nat := 2147483648

/-- The size of the least whole number of 64 bits with sign. -/
def negativeBound : Nat := 9223372036854775808

/-- The exponent of a number token: its sign and its digits. -/
structure Exponent where
  negative : Bool
  digits : List Char

/-- What a number token consists of. -/
structure Numeral where
  negative : Bool
  whole : List Char
  fraction : List Char
  exponent : Option Exponent

/-- The real number of a token. An exponent that 32 bits do not hold is beyond all numbers. -/
def Numeral.real (numeral : Numeral) : Except Fault Number := do
  let (n, unread) := absorb 0 numeral.whole
  let (n, unused) := absorb n numeral.fraction
  let places : Int := (unread : Int) - (numeral.fraction.length - unused : Nat)
  let size ← match numeral.exponent with
    | none => scale (Binary64.ofNat n) places
    | some { negative, digits } =>
      let power := ofDigits 10 digits
      if exponentBound ≤ power then
        if n ≠ 0 ∧ !negative then .error .malformed else .ok (Binary64.ofNat 0)
      else scale (Binary64.ofNat n) (if negative then places - power else places + power)
  return .real (size.withSign numeral.negative)

/-- The number of a token. -/
def Numeral.value (numeral : Numeral) : Except Fault Number :=
  match numeral.fraction, numeral.exponent, absorb 0 numeral.whole with
  | [], none, (n, 0) =>
    if numeral.negative then
      if 0 < n ∧ n ≤ negativeBound then .ok (.whole (-n)) else numeral.real
    else .ok (.whole n)
  | _, _, _ => numeral.real

/-- The digits at the front of a text and what follows them. There has to be one. -/
def someDigits (text : List Char) : Except Fault (List Char × List Char) :=
  match text.takeWhile Char.isDigit, text with
  | [], [] => .error .truncated
  | [], _ => .error .malformed
  | digits, text => .ok (digits, text.drop digits.length)

/-- The digits before the point. Only a zero by itself may come first. -/
def wholeDigits (text : List Char) : Except Fault (List Char × List Char) := do
  let (digits, rest) ← someDigits text
  match digits with
  | '0' :: _ :: _ => .error .malformed
  | digits => return (digits, rest)

/-- The digits after the point, none if there is no point. -/
def fractionDigits (text : List Char) : Except Fault (List Char × List Char) :=
  match text with
  | '.' :: rest => someDigits rest
  | text => .ok ([], text)

/-- The exponent, if there is one. -/
def exponentPart (text : List Char) : Except Fault (Option Exponent × List Char) :=
  match text with
  | c :: rest =>
    if c = 'e' ∨ c = 'E' then do
      let (negative, rest) := match rest with
        | '-' :: rest => (true, rest)
        | '+' :: rest => (false, rest)
        | rest => (false, rest)
      let (digits, rest) ← someDigits rest
      return (some { negative, digits }, rest)
    else .ok (none, text)
  | [] => .ok (none, [])

/-- Takes a number token apart, whose sign has been read, and gives the text after it. -/
def readNumeral (negative : Bool) (text : List Char) : Except Fault (Numeral × List Char) := do
  let (whole, text) ← wholeDigits text
  let (fraction, text) ← fractionDigits text
  let (exponent, text) ← exponentPart text
  return ({ negative, whole, fraction, exponent }, text)

/-- Reads a number token and gives the text after it, if the token is complete. One that is
skipped and breaks off counts as malformed, even at the end of the text. -/
def readNumber (negative : Bool) (text : List Char) : Token Number × Option (List Char) :=
  match readNumeral negative text with
  | .ok (numeral, rest) => ({ content := numeral.value, skipped := .ok () }, some rest)
  | .error f => ({ content := .error f, skipped := .error .malformed }, none)

end TxWire.Json
