/-!
Binary64 numbers in exact arithmetic: a finite number is a whole number times a power of two.

`Binary64.ofRatio` is the one place where anything is rounded, to the nearest number and on a tie
to the one with an even significand; the operations compute exactly and round once.
-/

namespace TxWire

/-- A binary64 number. A finite one has the value `significand * 2 ^ exponent`, with the sign in
front; zero has both signs. -/
inductive Binary64
  | finite (negative : Bool) (significand : Nat) (exponent : Int)
  | infinite (negative : Bool)
  | nan
  deriving DecidableEq, Repr

namespace Binary64

/-- The exponent of the smallest numbers. -/
def minExponent : Int := -1074

/-- The exponent of the largest numbers. -/
def maxExponent : Int := 971

/-- The least significand of 53 bits. -/
def leastFull : Nat := 0x10000000000000

/-- The number that a whole significand and an exponent stand for, as a fraction. -/
def ratio (significand : Nat) (exponent : Int) : Nat × Nat :=
  (significand <<< exponent.toNat, 1 <<< (-exponent).toNat)

/-- The nearest whole number to a fraction, the even one of two. -/
def nearest (num den : Nat) : Nat :=
  let q := num / den
  let r := num % den
  if 2 * r < den ∨ (2 * r = den ∧ q % 2 = 0) then q else q + 1

/-- The exponent at which a positive fraction has a significand of 53 bits, or the least there
is. -/
def exponentFor (num den : Nat) : Int :=
  let guess : Int := (num.log2 : Int) - den.log2 - 52
  let (n, d) := (num <<< (-guess).toNat, den <<< guess.toNat)
  max minExponent (if n / d < leastFull then guess - 1 else guess)

/-- The number nearest to a fraction. -/
def ofRatio (negative : Bool) (num den : Nat) : Binary64 :=
  if num = 0 then .finite negative 0 minExponent
  else
    let e := exponentFor num den
    let m := nearest (num <<< (-e).toNat) (den <<< e.toNat)
    let (m, e) := if m = 2 * leastFull then (leastFull, e + 1) else (m, e)
    if maxExponent < e then .infinite negative else .finite negative m e

/-- The number nearest to a whole number. -/
def ofNat (n : Nat) : Binary64 := ofRatio false n 1

/-- The number nearest to `digits * 10 ^ exponent`. -/
def ofDecimal (negative : Bool) (digits : Nat) (exponent : Int) : Binary64 :=
  let length : Int := (Nat.toDigits 10 digits).length
  if digits = 0 ∨ length + exponent < -400 then ofRatio negative 0 1
  else if 400 < length + exponent then .infinite negative
  else ofRatio negative (digits * Nat.pow 10 exponent.toNat) (Nat.pow 10 (-exponent).toNat)

/-- The product of two positive numbers. -/
def mul : Binary64 → Binary64 → Binary64
  | finite _ m e, finite _ m' e' =>
    let (num, den) := ratio (m * m') (e + e')
    ofRatio false num den
  | _, _ => infinite false

/-- The quotient of two positive numbers. -/
def div : Binary64 → Binary64 → Binary64
  | finite _ m e, finite _ m' e' =>
    let (num, den) := ratio m (e - e')
    ofRatio false num (den * m')
  | x, _ => x

/-- Whether a number is zero, of either sign. -/
def isZero : Binary64 → Bool
  | finite _ 0 _ => true
  | _ => false

/-- A number with the sign given. -/
def withSign (negative : Bool) : Binary64 → Binary64
  | finite _ m e => finite negative m e
  | infinite _ => infinite negative
  | nan => nan

end Binary64

end TxWire
