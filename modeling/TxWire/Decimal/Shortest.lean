import TxWire.Decimal.Binary64

/-!
The decimal text of a binary64 number: the fewest digits that read back to it, and of those the
nearest, laid out in a style of one's choice.
-/

namespace TxWire.Binary64

/-- Whether the decimal `digits * 10 ^ unit` is at most `value * 2 ^ exponent`. -/
def decimalLe (digits : Nat) (unit : Int) (value : Nat) (exponent : Int) : Bool :=
  (digits * Nat.pow 10 unit.toNat) <<< (-exponent).toNat ≤
    (value * Nat.pow 10 (-unit).toNat) <<< exponent.toNat

/-- Whether the decimal `digits * 10 ^ unit` is at least `value * 2 ^ exponent`. -/
def decimalGe (digits : Nat) (unit : Int) (value : Nat) (exponent : Int) : Bool :=
  (value * Nat.pow 10 (-unit).toNat) <<< exponent.toNat ≤
    (digits * Nat.pow 10 unit.toNat) <<< (-exponent).toNat

/-- Whether a decimal reads back to the number `m * 2 ^ e`: it lies nearer to it than to either
neighbour, or half way if the significand is even. -/
def readsBack (m : Nat) (e : Int) (digits : Nat) (unit : Int) : Bool :=
  let below := if m = leastFull ∧ minExponent < e then 1 else 2
  let low := 4 * m - below
  let high := 4 * m + 2
  let inside := decimalGe digits unit low (e - 2) && decimalLe digits unit high (e - 2)
  let strict := !decimalLe digits unit low (e - 2) && !decimalGe digits unit high (e - 2)
  digits ≠ 0 && if m % 2 = 0 then inside else strict

/-- The largest whole number of units that does not exceed `m * 2 ^ e`. -/
def floorIn (unit : Int) (m : Nat) (e : Int) : Nat :=
  (m * Nat.pow 10 (-unit).toNat) <<< e.toNat / (Nat.pow 10 unit.toNat <<< (-e).toNat)

/-- Which of two decimals is taken that are equally near. -/
inductive Tie
  /-- The one with an even last digit. -/
  | even
  /-- The larger one. -/
  | up
  deriving DecidableEq, Repr

/-- The better of the two decimals in a unit around `m * 2 ^ e`, if any reads back. -/
def candidate? (tie : Tie) (m : Nat) (e : Int) (unit : Int) : Option Nat :=
  let d := floorIn unit m e
  match readsBack m e d unit, readsBack m e (d + 1) unit with
  | true, true =>
    -- The middle between both decides.
    if decimalLe (2 * d + 1) unit (2 * m) e then
      if decimalGe (2 * d + 1) unit (2 * m) e && tie = .even && d % 2 = 0 then some d
      else some (d + 1)
    else some d
  | true, false => some d
  | false, true => some (d + 1)
  | false, false => none

/-- Tries units from `unit` downwards. -/
def shortestFrom (tie : Tie) (m : Nat) (e : Int) : (steps : Nat) → (unit : Int) → Nat × Int
  | 0, unit => (0, unit)
  | steps + 1, unit => match candidate? tie m e unit with
    | some digits => (digits, unit)
    | none => shortestFrom tie m e steps (unit - 1)

/-- The shortest decimal `digits * 10 ^ unit` that reads back to `m * 2 ^ e`, which is not zero.
No number is larger than `10 ^ 309`, and the smallest reads back from one digit in the unit
`10 ^ -324`. -/
def shortest (tie : Tie) (m : Nat) (e : Int) : Nat × Int :=
  shortestFrom tie m e 700 309

/-- How numbers are written: which of two equally near decimals, and which powers of ten of the
first digit positionally. -/
structure Style where
  tie : Tie
  positional : Int → Bool

/-- The digits of a decimal with the point among, before or after them. -/
def positionalText (digits : List Char) (unit : Int) : List Char :=
  let point : Int := digits.length + unit
  if point ≤ 0 then '0' :: '.' :: List.replicate (-point).toNat '0' ++ digits
  else if 0 ≤ unit then digits ++ List.replicate unit.toNat '0' ++ ['.', '0']
  else digits.take point.toNat ++ '.' :: digits.drop point.toNat

/-- The digits of a decimal with the point behind the first, and an exponent with a sign. -/
def exponentText (digits : List Char) (power : Int) : List Char :=
  let mantissa := match digits with
    | [d] => [d]
    | d :: rest => d :: '.' :: rest
    | [] => []
  mantissa ++ 'e' :: (if power < 0 then '-' else '+') :: Nat.toDigits 10 power.natAbs

/-- A number as text. -/
def text (style : Style) : Binary64 → String
  | .nan => "NaN"
  | .infinite negative => if negative then "-inf" else "inf"
  | .finite negative m e =>
    let body :=
      if m = 0 then ['0', '.', '0']
      else
        let (number, unit) := shortest style.tie m e
        let digits := Nat.toDigits 10 number
        let power : Int := digits.length - 1 + unit
        if style.positional power then positionalText digits unit
        else exponentText digits power
    String.ofList (if negative then '-' :: body else body)

end TxWire.Binary64
