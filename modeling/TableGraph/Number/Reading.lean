import TableGraph.Number.Double
import TableGraph.Number.Power

/-!
# Reading numbers from text

Integers are an optional sign and ASCII digits within 64 bits.  Floating-point
numbers are decimal numerals with an optional exponent, or one of the names of
the values that are no finite number, in any case of letters.  Neither reader
accepts blanks.
-/

namespace TableGraph

/-- The value of an ASCII digit. -/
def digitValue (digit : Char) : Nat := digit.toNat - '0'.toNat

/-- The number a run of digits stands for. -/
def naturalOfDigits (digits : List Char) : Nat :=
  digits.foldl (fun total digit => 10 * total + digitValue digit) 0

/-- A sign in front of a numeral: whether it is negative, and the rest. -/
def splitSign : List Char → Bool × List Char
  | '-' :: rest => (true, rest)
  | '+' :: rest => (false, rest)
  | rest => (false, rest)

/-- The integer written by an optional sign and at least one digit. -/
def readInteger? (text : List Char) : Option Int :=
  let (negative, digits) := splitSign text
  if digits.isEmpty || !digits.all Char.isDigit then none
  else some (if negative then -(naturalOfDigits digits : Int) else naturalOfDigits digits)

/-- Whether an integer fits 64 bits with a sign. -/
def fitsInt64 (value : Int) : Bool := -(signedBound : Int) ≤ value && value < signedBound

/-- The 64-bit integer a text stands for. -/
def Int64.ofText? (text : String) : Option Int64 :=
  (readInteger? text.toList).bind fun value =>
    if fitsInt64 value then some (Int64.ofInt value) else none

/-- A numeral taken apart: digits before and after the point, and the exponent. -/
structure Numeral where
  whole : List Char
  fractional : List Char
  exponent : Int

namespace Numeral

/-- The exponent part, when the text behind the digits is one or is empty. -/
def exponent? : List Char → Option Int
  | [] => some 0
  | marker :: rest => if marker = 'e' || marker = 'E' then readInteger? rest else none

/-- Digits, an optional point with digits, an optional exponent; at least one
digit stands before or behind the point. -/
def ofText? (text : List Char) : Option Numeral :=
  let whole := text.takeWhile Char.isDigit
  let rest := text.dropWhile Char.isDigit
  let (fractional, rest) :=
    match rest with
    | '.' :: rest => (rest.takeWhile Char.isDigit, rest.dropWhile Char.isDigit)
    | rest => ([], rest)
  if whole.isEmpty && fractional.isEmpty then none
  else (exponent? rest).map fun exponent => ⟨whole, fractional, exponent⟩

/-- The number nearest to the numeral. -/
def toDouble (numeral : Numeral) (negative : Bool) : Double :=
  Double.ofDecimal negative (naturalOfDigits (numeral.whole ++ numeral.fractional))
    (numeral.exponent - numeral.fractional.length)

end Numeral

/-- The floating-point number a text stands for. -/
def Double.ofText? (text : String) : Option Double :=
  let (negative, rest) := splitSign text.toList
  let lower := String.ofList (rest.map Char.toLower)
  if lower = "inf" || lower = "infinity" then some (.infinity negative)
  else if lower = "nan" then some { Double.nan with negative := negative }
  else (Numeral.ofText? rest).map fun numeral => numeral.toDouble negative

end TableGraph
