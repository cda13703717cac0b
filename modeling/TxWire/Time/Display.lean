import TxWire.Time.Instant

/-!
Instants as text. Dates have four-digit years; a year before 0 or after 9999 has a sign. The
time point of a transaction ends at the second, and the form that messages use goes on to the
nanoseconds that are not zero.
-/

namespace TxWire

/-- A number with zeros in front, up to a width. -/
def padded (width n : Nat) : List Char :=
  let digits := Nat.toDigits 10 n
  List.replicate (width - digits.length) '0' ++ digits

/-- A year. -/
def yearText (year : Int) : List Char :=
  if 0 ≤ year ∧ year ≤ 9999 then padded 4 year.toNat
  else (if year < 0 then '-' else '+') :: padded 4 year.natAbs

/-- A date, largest unit first. -/
def Date.text (date : Date) : List Char :=
  yearText date.year ++ '-' :: padded 2 date.month ++ '-' :: padded 2 date.day

namespace Instant

/-- The time of day to the second. -/
def clockText (t : Instant) : List Char :=
  padded 2 t.hour ++ ':' :: padded 2 t.minute ++ ':' :: padded 2 t.second

/-- The fraction of the second in steps of three digits, as few as show it in full. -/
def fractionText (t : Instant) : List Char :=
  let nanos := t.nanos % nanosPerSecond
  if nanos = 0 then []
  else if nanos % 1000000 = 0 then '.' :: padded 3 (nanos / 1000000)
  else if nanos % 1000 = 0 then '.' :: padded 6 (nanos / 1000)
  else '.' :: padded 9 nanos

/-- The time point of an instant: its date and time of day to the second. -/
def timePoint (t : Instant) : String :=
  String.ofList (t.date.text ++ 'T' :: t.clockText)

/-- An instant as messages show it. -/
def display (t : Instant) : String :=
  String.ofList (t.date.text ++ ' ' :: t.clockText ++ t.fractionText) ++ " UTC"

end Instant

end TxWire
