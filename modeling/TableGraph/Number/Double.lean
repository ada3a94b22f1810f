import TableGraph.Number.Power

/-!
# Binary floating-point numbers

A `Double` is a binary64 number given by its sign, its exponent field and its
fraction field.  Every operation is exact integer arithmetic followed by one
rounding, `Double.ofRatio`, which takes the nearest number and, between two
equally near ones, the one with the even significand.
-/

namespace TableGraph

/-- Two to the power of 52: the fractions lie below it, and it is the leading bit
of a significand, which is not written. -/
abbrev hiddenBit : Nat := 4503599627370496

/-- A binary64 number by its three fields. -/
structure Double where
  negative : Bool
  exponent : Fin 2048
  fraction : Fin hiddenBit
  deriving DecidableEq, Repr

namespace Double

/-! ## Classes of numbers -/

def zero (negative : Bool) : Double := ⟨negative, 0, 0⟩

def infinity (negative : Bool) : Double := ⟨negative, 2047, 0⟩

def nan : Double := ⟨false, 2047, 2251799813685248⟩

instance : Inhabited Double := ⟨zero false⟩

def isFinite (number : Double) : Bool := number.exponent != 2047

def isInfinite (number : Double) : Bool := number.exponent == 2047 && number.fraction == 0

def isNaN (number : Double) : Bool := number.exponent == 2047 && number.fraction != 0

def isZero (number : Double) : Bool := number.exponent == 0 && number.fraction == 0

/-! ## The value of a finite number

The absolute value of a finite number is `significand * 2 ^ scale`, which is
also the quotient `numerator / denominator`.
-/

def significand (number : Double) : Nat :=
  if number.exponent = 0 then number.fraction else hiddenBit + number.fraction

def scale (number : Double) : Int :=
  if number.exponent = 0 then -1074 else (number.exponent : Nat) - (1075 : Int)

def numerator (number : Double) : Nat :=
  number.significand * twoTo number.scale.toNat

def denominator (number : Double) : Nat :=
  twoTo (-number.scale).toNat

/-- The numerator with the sign of the number. -/
def signedNumerator (number : Double) : Int :=
  if number.negative then -(number.numerator : Int) else number.numerator

/-- Whether a finite number has no fractional part. -/
def isIntegral (number : Double) : Bool :=
  number.isFinite && number.numerator % number.denominator == 0

/-- The integer part of a finite number, toward zero. -/
def truncate (number : Double) : Int :=
  number.signedNumerator.tdiv number.denominator

/-! ## Rounding -/

/-- The quotient rounded to the nearest integer, ties to even. -/
def roundQuotient (numerator denominator : Nat) : Nat :=
  let quotient := numerator / denominator
  let twice := 2 * (numerator % denominator)
  if denominator < twice || (twice == denominator && quotient % 2 == 1) then
    quotient + 1
  else
    quotient

/-- The quotient `numerator / denominator` over `2 ^ scale`, rounded. -/
def roundAtScale (numerator denominator : Nat) (scale : Int) : Nat :=
  roundQuotient (numerator * twoTo (-scale).toNat) (denominator * twoTo scale.toNat)

/-- The scale at which a positive quotient has a significand of 53 bits, but
never below the scale of the smallest numbers. -/
def scaleOf (numerator denominator : Nat) : Int :=
  let guess : Int := (numerator.log2 : Int) - denominator.log2 - 52
  let fits := denominator * twoTo (52 + guess).toNat ≤ numerator * twoTo (-(52 + guess)).toNat
  max (-1074) (if fits then guess else guess - 1)

/-- The number with the given significand below `2 ^ 53` and scale; beyond the
largest exponent it is infinite. -/
def ofSignificand (negative : Bool) (significand : Nat) (scale : Int) : Double :=
  let fraction : Fin hiddenBit := Fin.ofNat hiddenBit significand
  if significand < hiddenBit then
    ⟨negative, 0, fraction⟩
  else if 971 < scale then
    infinity negative
  else
    ⟨negative, Fin.ofNat 2048 (scale + 1075).toNat, fraction⟩

/-- The number nearest to a quotient of naturals with the given sign. -/
def ofRatio (negative : Bool) (numerator denominator : Nat) : Double :=
  if numerator = 0 then
    zero negative
  else
    let scale := scaleOf numerator denominator
    let significand := roundAtScale numerator denominator scale
    if significand = 2 * hiddenBit then
      ofSignificand negative hiddenBit (scale + 1)
    else
      ofSignificand negative significand scale

/-- The number nearest to `digits * 10 ^ exponent`.  Exponents so large that
the outcome is already infinite or zero are not expanded. -/
def ofDecimal (negative : Bool) (digits : Nat) (exponent : Int) : Double :=
  if digits = 0 then
    zero negative
  else
    let leading : Int := (digits.log2 : Int) * 3 / 10 + exponent
    if 400 < leading then infinity negative
    else if leading < -800 then zero negative
    else ofRatio negative (digits * tenTo exponent.toNat) (tenTo (-exponent).toNat)

def ofInteger (value : Int) : Double :=
  ofRatio (value < 0) value.natAbs 1

/-! ## Arithmetic -/

def negate (number : Double) : Double :=
  { number with negative := !number.negative }

/-- Addition; an exact zero is negative only when both summands are. -/
def add (left right : Double) : Double :=
  if left.isNaN || right.isNaN then nan
  else if left.isInfinite then
    if right.isInfinite && left.negative != right.negative then nan else left
  else if right.isInfinite then right
  else
    let total :=
      left.signedNumerator * right.denominator + right.signedNumerator * left.denominator
    if total = 0 then zero (left.negative && right.negative)
    else ofRatio (total < 0) total.natAbs (left.denominator * right.denominator)

def subtract (left right : Double) : Double :=
  left.add right.negate

def multiply (left right : Double) : Double :=
  let negative := left.negative != right.negative
  if left.isNaN || right.isNaN then nan
  else if left.isInfinite || right.isInfinite then
    if left.isZero || right.isZero then nan else infinity negative
  else
    ofRatio negative (left.numerator * right.numerator) (left.denominator * right.denominator)

def divide (left right : Double) : Double :=
  let negative := left.negative != right.negative
  if left.isNaN || right.isNaN || (left.isInfinite && right.isInfinite) then nan
  else if left.isInfinite then infinity negative
  else if right.isInfinite then zero negative
  else if right.isZero then
    if left.isZero then nan else infinity negative
  else
    ofRatio negative (left.numerator * right.denominator) (left.denominator * right.numerator)

/-! ## Comparison -/

/-- The order of two numbers by value, absent when one is not a number. -/
def compare? (left right : Double) : Option Ordering :=
  if left.isNaN || right.isNaN then none
  else if left.isInfinite || right.isInfinite then
    let place (number : Double) : Int :=
      if number.isInfinite then (if number.negative then -1 else 1) else 0
    some (Ord.compare (place left) (place right))
  else
    some (Ord.compare (left.signedNumerator * right.denominator)
      (right.signedNumerator * left.denominator))

/-- Equality by value: the two zeros are equal, and what is not a number
equals nothing. -/
def sameValue (left right : Double) : Bool :=
  left.compare? right == some .eq

end Double

end TableGraph
