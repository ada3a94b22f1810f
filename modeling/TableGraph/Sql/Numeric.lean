import TableGraph.Number.Power
import TableGraph.Sql.Cell

/-!
# Numbers and texts

A text that is a decimal numeral, perhaps with blanks around it, can be taken as
a number; where a number is required, the longest beginning that is a numeral is
taken.  A number becomes a text of at most fifteen significant digits.
-/

namespace TableGraph

/-- A blank of SQL text. -/
def isSqlBlank (character : Char) : Bool :=
  character == ' ' || (9 ≤ character.toNat && character.toNat ≤ 13)

/-- The numeral at the beginning of a text. -/
structure LeadingNumeral where
  negative : Bool
  numeral : Numeral
  /-- Whether it has neither point nor exponent. -/
  isWhole : Bool
  /-- Whether nothing but blanks follows it. -/
  isComplete : Bool

namespace LeadingNumeral

/-- The exponent at the beginning of a text and what follows it; an exponent
without digits is none. -/
def splitExponent (text : List Char) : Option (Int × List Char) :=
  match text with
  | marker :: rest =>
    if marker = 'e' || marker = 'E' then
      let (negative, behind) := splitSign rest
      let digits := behind.takeWhile Char.isDigit
      if digits.isEmpty then none
      else
        let magnitude : Int := naturalOfDigits digits
        some (if negative then -magnitude else magnitude, behind.dropWhile Char.isDigit)
    else none
  | [] => none

/-- Read the numeral at the beginning of a text; without a digit there is none. -/
def ofText? (text : List Char) : Option LeadingNumeral :=
  let (negative, unsigned) := splitSign (text.dropWhile isSqlBlank)
  let whole := unsigned.takeWhile Char.isDigit
  let behind := unsigned.dropWhile Char.isDigit
  let (fractional, behind, hasPoint) :=
    match behind with
    | '.' :: rest => (rest.takeWhile Char.isDigit, rest.dropWhile Char.isDigit, true)
    | rest => ([], rest, false)
  if whole.isEmpty && fractional.isEmpty then none
  else
    let (exponent, behind, hasExponent) :=
      match splitExponent behind with
      | some (exponent, rest) => (exponent, rest, true)
      | none => (0, behind, false)
    some {
      negative := negative
      numeral := ⟨whole, fractional, exponent⟩
      isWhole := !hasPoint && !hasExponent
      isComplete := behind.all isSqlBlank }

/-- The integer a numeral without point and exponent stands for. -/
def wholeValue (leading : LeadingNumeral) : Int :=
  let magnitude : Int := naturalOfDigits leading.numeral.whole
  if leading.negative then -magnitude else magnitude

def realValue (leading : LeadingNumeral) : Double := leading.numeral.toDouble leading.negative

/-- The number a numeral stands for, an integer if it is written as one that
fits 64 bits. -/
def toCell (leading : LeadingNumeral) : Cell :=
  if leading.isWhole && fitsInt64 leading.wholeValue then
    .integer (Int64.ofInt leading.wholeValue)
  else .real leading.realValue

end LeadingNumeral

/-! ## Texts of numbers -/

/-- How many significant digits the text of a number keeps. -/
def significantDigits : Nat := 15

/-- A positive finite number rounded to the significant digits, a half upward. -/
def Double.toSignificant (number : Double) : Decimal :=
  let estimate := (number.shortest .upward).leadingExponent
  let exponent : Int := estimate - (significantDigits - 1)
  let scaled := number.numerator * tenTo (-exponent).toNat
  let unit := number.denominator * tenTo exponent.toNat
  Decimal.dropTrailingZeros significantDigits ⟨(2 * scaled + unit) / (2 * unit), exponent⟩

/-- The text of a real number. -/
def realText (number : Double) : String :=
  let sign : List Char := if number.negative && !number.isZero then ['-'] else []
  if number.isInfinite then String.ofList (sign ++ ['I', 'n', 'f'])
  else if number.isZero then "0.0"
  else
    let decimal := number.toSignificant
    let digits := Nat.toDigits 10 decimal.digits
    let leading := decimal.leadingExponent
    if -4 ≤ leading && leading < significantDigits then
      String.ofList (sign ++ FloatLayout.exact.positional digits decimal.exponent)
    else
      let exponentDigits := Nat.toDigits 10 leading.natAbs
      let padded := if exponentDigits.length < 2 then '0' :: exponentDigits else exponentDigits
      String.ofList (sign ++ digits.take 1 ++ ['.'] ++
        (if digits.length ≤ 1 then ['0'] else digits.drop 1) ++
        ['e', if leading < 0 then '-' else '+'] ++ padded)

namespace Cell

/-- The bytes of a cell taken as a text; null has none. -/
def textBytes? : Cell → Option (List UInt8)
  | .null => none
  | .integer value => some (bytesOf (decimalText value.toInt))
  | .real value => some (bytesOf (realText value))
  | .text bytes => some bytes
  | .blob bytes => some bytes

/-- The numeral at the beginning of some bytes. -/
def leadingNumeral? (bytes : List UInt8) : Option LeadingNumeral :=
  LeadingNumeral.ofText? (Utf8.decodeLossy bytes).toList

/-- A cell where a number is required: null stays null, and what begins with no
numeral is zero. -/
def toNumber : Cell → Cell
  | .text bytes => ((leadingNumeral? bytes).map LeadingNumeral.toCell).getD (.integer 0)
  | .blob bytes => ((leadingNumeral? bytes).map LeadingNumeral.toCell).getD (.integer 0)
  | cell => cell

/-- The real number nearest to a number. -/
def toReal (cell : Cell) : Double :=
  match cell.toNumber with
  | .integer value => Double.ofInteger value.toInt
  | .real value => value
  | _ => .zero false

/-- The truth value of a cell: a number is true unless it is zero. -/
def truth (cell : Cell) : Option Bool :=
  match cell.toNumber with
  | .integer value => some (value != 0)
  | .real value => some (!value.isZero)
  | _ => none

/-- The cell of a truth value. -/
def ofTruth : Option Bool → Cell
  | some value => .integer (if value then 1 else 0)
  | none => .null

end Cell

end TableGraph
