import TxWire.Time.Calendar

/-!
Instants of universal time, to the nanosecond, with leap seconds.

An instant is a number of whole seconds since the start of 1970 and a number of nanoseconds. A
leap second has no number of its own: it belongs to the second before it, and its nanoseconds run on
from one thousand million. That can be any second, though in universal time only the last second of
a minute has a leap second behind it.
-/

namespace TxWire

/-- The first second of the year -262143, the earliest that an instant can have. -/
def minSeconds : Int := -8334601228800

/-- The last second of the year 262142, the latest that an instant can have. -/
def maxSeconds : Int := 8210266876799

/-- The nanoseconds of a second. -/
def nanosPerSecond : Nat := 1000000000

/-- An instant of universal time. -/
structure Instant where
  seconds : Int
  nanos : Nat
  minSeconds_le : minSeconds ≤ seconds
  seconds_le : seconds ≤ maxSeconds
  nanos_lt : nanos < 2 * nanosPerSecond
  deriving DecidableEq

namespace Instant

/-- The start of 1970. -/
def epoch : Instant :=
  { seconds := 0, nanos := 0
    minSeconds_le := by decide
    seconds_le := by decide
    nanos_lt := by decide }

instance : Inhabited Instant := ⟨epoch⟩

/-- The instant with the given seconds and nanoseconds, if there is one. -/
def of? (seconds : Int) (nanos : Nat) : Option Instant :=
  if h : minSeconds ≤ seconds ∧ seconds ≤ maxSeconds ∧ nanos < 2 * nanosPerSecond then
    some ⟨seconds, nanos, h.1, h.2.1, h.2.2⟩
  else none

/-- Whether an instant lies in a leap second. -/
def inLeapSecond (t : Instant) : Bool := nanosPerSecond ≤ t.nanos

/-- The start of the second that an instant lies in. That of a leap second stays in it. -/
def truncate (t : Instant) : Instant :=
  { t with
    nanos := if t.inLeapSecond then nanosPerSecond else 0
    nanos_lt := by unfold nanosPerSecond; split <;> omega }

/-- The instant a number of whole seconds later, if it is not too late for an instant. A leap
second is left behind by the first second that passes. -/
def add? (t : Instant) (seconds : Nat) : Option Instant :=
  if seconds = 0 then some t else of? (t.seconds + seconds) (t.nanos % nanosPerSecond)

/-- The date of an instant. -/
def date (t : Instant) : Date := Date.ofDays (t.seconds / 86400)

/-- The whole seconds since midnight. A leap second counts with the one before it. -/
def secondOfDay (t : Instant) : Nat := (t.seconds % 86400).toNat

def hour (t : Instant) : Nat := t.secondOfDay / 3600

def minute (t : Instant) : Nat := t.secondOfDay / 60 % 60

/-- The second within the minute as it is shown. A leap second counts one more than the second it
belongs to, so the one at the end of a minute is second `60`. -/
def second (t : Instant) : Nat := t.secondOfDay % 60 + t.nanos / nanosPerSecond

end Instant

end TxWire
