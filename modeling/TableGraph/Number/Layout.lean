import TableGraph.Number.Power
import TableGraph.Number.Shortest

/-!
# Written forms of numbers

A `FloatLayout` holds the decisions of one written form: which exponents are
written positionally, whether an integral number keeps a fractional zero, how
the exponent is signed and where ties go.  Three layouts are used: the form a
value is compared with when client text is read, the form it is displayed in,
and the form of JSON documents.
-/

namespace TableGraph

/-- The decisions of one written form of floating-point numbers. -/
structure FloatLayout where
  /-- Whether a leading digit of this exponent is written without an exponent. -/
  isPositional : Int → Bool
  /-- Whether an integral number is written with `.0`. -/
  keepsPoint : Bool
  /-- Whether a positive exponent carries a plus sign. -/
  signsExponent : Bool
  tie : Tie

namespace FloatLayout

/-- The form that tells floats from integers: `1.0`, `0.0001`, `1e16`. -/
def exact : FloatLayout where
  isPositional exponent := -4 ≤ exponent && exponent < 16
  keepsPoint := true
  signsExponent := false
  tie := .upward

/-- The displayed form, never with an exponent: `1`, `0.0000001`. -/
def plain : FloatLayout where
  isPositional _ := true
  keepsPoint := false
  signsExponent := false
  tie := .upward

/-- The form of JSON documents: `1.0`, `0.00001`, `1e+16`. -/
def json : FloatLayout where
  isPositional exponent := -5 ≤ exponent && exponent < 16
  keepsPoint := true
  signsExponent := true
  tie := .toEven

/-- A run of zero digits. -/
def zeros (count : Int) : List Char := List.replicate count.toNat '0'

/-- The digits with a decimal point where the exponent puts it. -/
def positional (layout : FloatLayout) (digits : List Char) (exponent : Int) : List Char :=
  let whole := digits.length + exponent
  if 0 ≤ exponent then
    digits ++ zeros exponent ++ (if layout.keepsPoint then ['.', '0'] else [])
  else if 0 < whole then
    digits.take whole.toNat ++ ['.'] ++ digits.drop whole.toNat
  else
    ['0', '.'] ++ zeros (-whole) ++ digits

/-- One digit, the rest behind a point, and the exponent. -/
def scientific (layout : FloatLayout) (digits : List Char) (leading : Int) : List Char :=
  let sign : List Char :=
    if leading < 0 then ['-'] else if layout.signsExponent then ['+'] else []
  digits.take 1 ++ (if digits.length ≤ 1 then [] else ['.'] ++ digits.drop 1) ++
    ['e'] ++ sign ++ Nat.toDigits 10 leading.natAbs

/-- The written form of the absolute value of a finite number. -/
def magnitude (layout : FloatLayout) (number : Double) : List Char :=
  if number.isZero then
    layout.positional ['0'] 0
  else
    let decimal := number.shortest layout.tie
    let digits := Nat.toDigits 10 decimal.digits
    if layout.isPositional decimal.leadingExponent then
      layout.positional digits decimal.exponent
    else
      layout.scientific digits decimal.leadingExponent

/-- The written form of a number. -/
def render (layout : FloatLayout) (number : Double) : String :=
  if number.isNaN then "NaN"
  else
    let sign := if number.negative then ['-'] else []
    if number.isInfinite then String.ofList (sign ++ ['i', 'n', 'f'])
    else String.ofList (sign ++ layout.magnitude number)

end FloatLayout

/-- A nonnegative finite number with a fixed count of decimal places, a half
going to the even neighbour. -/
def Double.withPlaces (number : Double) (places : Nat) : String :=
  let scaled := Double.roundQuotient (number.numerator * tenTo places) number.denominator
  let digits := Nat.toDigits 10 scaled
  let padded := List.replicate (places + 1 - digits.length) '0' ++ digits
  let whole := padded.length - places
  String.ofList (padded.take whole ++ ['.'] ++ padded.drop whole)

/-- The decimal form of an integer. -/
def decimalText (value : Int) : String :=
  String.ofList ((if value < 0 then ['-'] else []) ++ Nat.toDigits 10 value.natAbs)

end TableGraph
