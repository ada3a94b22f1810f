import TableGraph.Sql.Affinity

/-!
# Collations

A column compares its texts by their bytes, or without regard to the case of ASCII letters,
or without regard to spaces at the end.  A collation compares two texts as it folds them;
other cells are compared as they are.
-/

namespace TableGraph

/-- The way in which texts are compared. -/
inductive Collation where
  /-- By their bytes. -/
  | binary
  /-- Without regard to the case of ASCII letters. -/
  | noCase
  /-- Without regard to spaces at the end. -/
  | trimRight
  deriving DecidableEq, Repr

namespace Collation

/-- The collation of a name. -/
def ofName? (name : String) : Option Collation :=
  match String.ofList (name.toList.map Char.toUpper) with
  | "BINARY" => some .binary
  | "NOCASE" => some .noCase
  | "RTRIM" => some .trimRight
  | _ => none

def lowerByte (byte : UInt8) : UInt8 := if 65 ≤ byte && byte ≤ 90 then byte + 32 else byte

/-- Bytes with ASCII letters in lower case.  What stands behind a NUL is not looked at, but its
length counts. -/
def foldCase : List UInt8 → List UInt8
  | [] => []
  | byte :: rest =>
    if byte = 0 then List.replicate (rest.length + 1) 0 else lowerByte byte :: foldCase rest

/-- Bytes without spaces at the end. -/
def dropSpaces (bytes : List UInt8) : List UInt8 :=
  (bytes.reverse.dropWhile fun byte => byte == 32).reverse

def foldBytes : Collation → List UInt8 → List UInt8
  | .binary => id
  | .noCase => foldCase
  | .trimRight => dropSpaces

/-- The cell that stands for a cell in comparisons. -/
def fold (collation : Collation) : Cell → Cell
  | .text bytes => .text (collation.foldBytes bytes)
  | cell => cell

/-- The order of two cells. -/
def order (collation : Collation) (left right : Cell) : Ordering :=
  (collation.fold left).order (collation.fold right)

/-- Whether two cells are equal in the order. -/
def same (collation : Collation) (left right : Cell) : Bool := collation.order left right == .eq

end Collation

/-- What a column decides about its cells in expressions. -/
structure ColumnKind where
  affinity : Affinity
  collation : Collation
  deriving DecidableEq, Repr

end TableGraph
