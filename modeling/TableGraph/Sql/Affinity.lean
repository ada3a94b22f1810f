import TableGraph.Number.Power
import TableGraph.Sql.Numeric

/-!
# Affinities

A column prefers cells of the class its declared type suggests.  A cell is
converted when it is stored and when it is compared with a column, but only
when nothing is lost.
-/

namespace TableGraph

/-- The class of cells a column prefers. -/
inductive Affinity where
  | blob
  | text
  | numeric
  | integer
  | real
  deriving DecidableEq, Repr

namespace Affinity

/-- Whether a word stands somewhere in a text. -/
def mentions (text : List Char) (word : String) : Bool :=
  match text with
  | [] => word.isEmpty
  | _ :: rest => word.toList.isPrefixOf text || mentions rest word

/-- The affinity of a column with a declared type. -/
def ofDeclaredType (declared : String) : Affinity :=
  let upper := declared.toList.map Char.toUpper
  let names := mentions upper
  if names "INT" then .integer
  else if names "CHAR" || names "CLOB" || names "TEXT" then .text
  else if names "BLOB" || upper.isEmpty then .blob
  else if names "REAL" || names "FLOA" || names "DOUB" then .real
  else .numeric

def isNumeric : Affinity → Bool
  | .blob => false
  | .text => false
  | _ => true

/-! ## Conversion -/

/-- A real number as the integer it equals, if there is one strictly within 64
bits. -/
def wholeOf (value : Double) : Cell :=
  if value.isIntegral && -(signedBound : Int) < value.truncate && value.truncate < signedBound - 1 then
    .integer (Int64.ofInt value.truncate)
  else .real value

/-- A text that is a complete numeral as the number it stands for. -/
def numberOf (bytes : List UInt8) : Cell :=
  match Cell.leadingNumeral? bytes with
  | some leading => if leading.isComplete then leading.toCell else .text bytes
  | none => .text bytes

/-- Prefer numbers. -/
def preferNumber : Cell → Cell
  | .text bytes => numberOf bytes
  | cell => cell

/-- Prefer integers to the real numbers that equal them. -/
def preferWhole : Cell → Cell
  | .real value => wholeOf value
  | cell => cell

/-- Prefer real numbers to integers; a zero loses its sign. -/
def preferReal : Cell → Cell
  | .integer value => .real (Double.ofInteger value.toInt)
  | .real value => .real (if value.isZero then .zero false else value)
  | cell => cell

/-- Prefer texts to numbers. -/
def preferText : Cell → Cell
  | .integer value => .ofText (decimalText value.toInt)
  | .real value => .ofText (realText value)
  | cell => cell

/-- The cell a column of this affinity stores. -/
def store (affinity : Affinity) (cell : Cell) : Cell :=
  match affinity with
  | .blob => cell
  | .text => preferText cell
  | .real => preferReal (preferNumber cell)
  | _ => preferWhole (preferNumber cell)

/-- The affinity a comparison applies to both operands.  Of two columns only a
numeric one counts; a column counts against what is none. -/
def ofComparison : Option Affinity → Option Affinity → Option Affinity
  | some left, some right =>
    if left.isNumeric || right.isNumeric then some .numeric else none
  | some left, none => some left
  | none, right => right

/-- The operands of a comparison after conversion. -/
def align (affinity : Option Affinity) (left right : Cell) : Cell × Cell :=
  match affinity with
  | some .text => (preferText left, preferText right)
  | some .blob => (left, right)
  | some _ => (preferNumber left, preferNumber right)
  | none => (left, right)

end Affinity

end TableGraph
