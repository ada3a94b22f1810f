import TableGraph.Number.Double
import TableGraph.Number.Power

/-!
# Shortest decimal digits

The digits of a finite number are the fewest that read back to it.  The reals
that round to a number form an interval; the grids of 1, 2, … 17 digits are
tried in turn, and the first one with a point in the interval gives the digits.
Of two such points the nearer is taken.
-/

namespace TableGraph

/-- The decimal number `digits * 10 ^ exponent`. -/
structure Decimal where
  digits : Nat
  exponent : Int
  deriving DecidableEq, Repr

/-- Which of two equally near candidates is taken. -/
inductive Tie where
  | toEven
  | upward
  deriving DecidableEq, Repr

namespace Decimal

/-- How many decimal digits a natural number is written with. -/
def digitCount (value : Nat) : Nat := (Nat.toDigits 10 value).length

/-- Move trailing zeros of the digits into the exponent. -/
def dropTrailingZeros : Nat → Decimal → Decimal
  | 0, decimal => decimal
  | fuel + 1, decimal =>
    if decimal.digits % 10 = 0 && decimal.digits != 0 then
      dropTrailingZeros fuel ⟨decimal.digits / 10, decimal.exponent + 1⟩
    else
      decimal

/-- The exponent of the leading digit. -/
def leadingExponent (decimal : Decimal) : Int :=
  decimal.exponent + digitCount decimal.digits - 1

end Decimal

/-- The reals that round to one positive number, scaled by a common
denominator: the number itself and the two ends of its interval. -/
structure RoundingInterval where
  center : Nat
  lower : Nat
  upper : Nat
  denominator : Nat
  closed : Bool

namespace RoundingInterval

/-- The interval of a positive finite number.  The ends belong to it when the
significand is even; below a power of two the gap is half as wide. -/
def ofDouble (number : Double) : RoundingInterval :=
  let significand := number.significand
  let below := if number.fraction.val == 0 && 1 < number.exponent.val then 1 else 2
  let scale := number.scale - 2
  let factor := twoTo scale.toNat
  { center := 4 * significand * factor
    lower := (4 * significand - below) * factor
    upper := (4 * significand + 2) * factor
    denominator := twoTo (-scale).toNat
    closed := significand % 2 == 0 }

/-- Whether `point * 10 ^ exponent` rounds to the number. -/
def contains (interval : RoundingInterval) (point : Nat) (exponent : Int) : Bool :=
  let value := point * tenTo exponent.toNat * interval.denominator
  let shift := tenTo (-exponent).toNat
  if interval.closed then
    interval.lower * shift ≤ value && value ≤ interval.upper * shift
  else
    interval.lower * shift < value && value < interval.upper * shift

/-- How many digits stand before the point, at least of the right order: the
least `count` with the number below `10 ^ count`. -/
def magnitude (interval : RoundingInterval) : Int :=
  let guess : Int :=
    (Decimal.digitCount interval.center : Int) - Decimal.digitCount interval.denominator
  if interval.denominator * tenTo guess.toNat ≤ interval.center * tenTo (-guess).toNat then
    guess + 1
  else
    guess

/-- The point of the grid `10 ^ exponent` that is taken, if the grid has one
in the interval: only the two neighbours of the number can be. -/
def nearestPoint? (interval : RoundingInterval) (tie : Tie) (exponent : Int) : Option Nat :=
  let above := interval.center * tenTo (-exponent).toNat
  let unit := interval.denominator * tenTo exponent.toNat
  let floor := above / unit
  match interval.contains floor exponent && floor != 0, interval.contains (floor + 1) exponent with
  | false, false => none
  | true, false => some floor
  | false, true => some (floor + 1)
  | true, true =>
    match compare (2 * above) ((2 * floor + 1) * unit) with
    | .lt => some floor
    | .gt => some (floor + 1)
    | .eq =>
      match tie with
      | .toEven => some (if floor % 2 = 0 then floor else floor + 1)
      | .upward => some (floor + 1)

/-- Try grids of one digit more at each step. -/
def search (interval : RoundingInterval) (tie : Tie) : Nat → Int → Decimal
  | 0, exponent => ⟨interval.center * tenTo (-exponent).toNat /
      (interval.denominator * tenTo exponent.toNat), exponent⟩
  | fuel + 1, exponent =>
    match interval.nearestPoint? tie exponent with
    | some point => ⟨point, exponent⟩
    | none => search interval tie fuel (exponent - 1)

end RoundingInterval

/-- The fewest digits that read back to a positive finite number. -/
def Double.shortest (number : Double) (tie : Tie) : Decimal :=
  let interval := RoundingInterval.ofDouble number
  (interval.search tie 17 (interval.magnitude - 1)).dropTrailingZeros 20

end TableGraph
