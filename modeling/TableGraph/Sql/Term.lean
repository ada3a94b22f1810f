import TableGraph.Number.Power
import TableGraph.Scalar
import TableGraph.Sql.Collation
import TableGraph.Sql.Like
import TableGraph.Sql.Parser
import TableGraph.Truth

/-!
# Terms

A term is an expression whose names are resolved: columns by their position in
a row, functions, and aggregates by their position among the aggregates of the
query.  Terms evaluate without failing.
-/

namespace TableGraph

/-- A function of cells. -/
inductive ScalarFunction where
  | absolute
  | length
  | lower
  | upper
  | coalesce
  | nullIf
  | typeName
  | least
  | greatest
  /-- An arbitrary integer, here always the same. -/
  | random
  deriving DecidableEq, Repr

/-- A function of the rows of a group. -/
inductive AggregateFunction where
  | count
  | sum
  | total
  | average
  | minimum
  | maximum
  deriving DecidableEq, Repr

/-- An expression with its names resolved. -/
inductive Term where
  | literal (value : Cell)
  | column (position : Nat) (kind : ColumnKind)
  | aggregate (position : Nat)
  | unary (operator : UnaryOperator) (operand : Term)
  | binary (operator : BinaryOperator) (left right : Term)
  | isNull (operand : Term)
  | among (operand : Term) (elements : List Term)
  | call (function : ScalarFunction) (arguments : List Term)
  deriving Repr

instance : Inhabited Term := ⟨.literal .null⟩

/-- An aggregate with its argument; without one it counts rows. -/
structure Aggregate where
  function : AggregateFunction
  distinct : Bool
  argument : Option Term
  deriving Repr

/-! ## Resolution -/

/-- The names an expression over one table may mention. -/
structure Scope where
  table : String
  columns : List (String × ColumnKind)
  /-- Whether the rows are numbered. -/
  hasRowid : Bool

namespace Scope

/-- The names of the number of a row. -/
def rowidNames : List String := ["rowid", "oid", "_rowid_"]

/-- The column of a name; the number of a row stands behind the columns. -/
def column? (scope : Scope) (name : String) : Option Term :=
  match scope.columns.findIdx? fun column => SqlToken.sameName column.1 name with
  | some position => (scope.columns[position]?).map fun column => .column position column.2
  | none =>
    if scope.hasRowid && rowidNames.any (SqlToken.sameName name) then
      some (.column scope.columns.length ⟨.integer, .binary⟩)
    else none

end Scope

namespace Term

/-- A resolution collects aggregates and may fail with a reason. -/
abbrev Resolution := StateT (List Aggregate) (Except String)

def aggregateFunction? (name : String) (arity : Nat) : Option AggregateFunction :=
  match SqlToken.upperCase name, arity with
  | "COUNT", 1 => some .count
  | "SUM", 1 => some .sum
  | "TOTAL", 1 => some .total
  | "AVG", 1 => some .average
  | "MIN", 1 => some .minimum
  | "MAX", 1 => some .maximum
  | _, _ => none

def scalarFunction? (name : String) (arity : Nat) : Option ScalarFunction :=
  match SqlToken.upperCase name, arity with
  | "ABS", 1 => some .absolute
  | "LENGTH", 1 => some .length
  | "LOWER", 1 => some .lower
  | "UPPER", 1 => some .upper
  | "TYPEOF", 1 => some .typeName
  | "NULLIF", 2 => some .nullIf
  | "IFNULL", 2 => some .coalesce
  | "RANDOM", 0 => some .random
  | "COALESCE", arity => if 2 ≤ arity then some .coalesce else none
  | "MIN", arity => if 2 ≤ arity then some .least else none
  | "MAX", arity => if 2 ≤ arity then some .greatest else none
  | _, _ => none

/-- Add an aggregate to the ones collected before. -/
def collect (aggregate : Aggregate) : Resolution Term := do
  let collected ← get
  set (collected ++ [aggregate])
  return .aggregate collected.length

mutual

/-- Resolve an expression; aggregates are refused where there is no group. -/
def resolve (scope : Scope) (grouped : Bool) : SqlExpression → Resolution Term
  | .literal value => return .literal value
  | .column table name =>
    if table.all (SqlToken.sameName scope.table) then
      match scope.column? name with
      | some term => return term
      | none => throw s!"no such column: {name}"
    else throw s!"no such column: {name}"
  | .unary operator operand => return .unary operator (← resolve scope grouped operand)
  | .binary operator left right =>
    return .binary operator (← resolve scope grouped left) (← resolve scope grouped right)
  | .isNull operand => return .isNull (← resolve scope grouped operand)
  | .among operand elements =>
    return .among (← resolve scope grouped operand) (← resolveAll scope grouped elements)
  | .countAll => if grouped then collect ⟨.count, false, none⟩ else throw "misuse of aggregate"
  | .call name distinct arguments =>
    match aggregateFunction? name arguments.length with
    | some function =>
      if grouped then do
        let terms ← resolveAll scope false arguments
        collect ⟨function, distinct, terms.head?⟩
      else throw s!"misuse of aggregate function {name}"
    | none =>
      match scalarFunction? name arguments.length, distinct with
      | some function, false => return .call function (← resolveAll scope grouped arguments)
      | _, _ => throw s!"no such function: {name}"

/-- Resolve expressions one after the other. -/
def resolveAll (scope : Scope) (grouped : Bool) : List SqlExpression → Resolution (List Term)
  | [] => return []
  | first :: rest => return (← resolve scope grouped first) :: (← resolveAll scope grouped rest)

end

/-! ## Evaluation -/

/-- The affinity of a column; other terms have none. -/
def affinity? : Term → Option Affinity
  | .column _ kind => some kind.affinity
  | _ => none

/-- The collation of a column, also behind a plus sign; other terms have none. -/
def collation? : Term → Option Collation
  | .column _ kind => some kind.collation
  | .unary .plus operand => operand.collation?
  | _ => none

/-- The collation of the first term that has one. -/
def collationOf (terms : List Term) : Collation := (terms.findSome? collation?).getD .binary

def collation (term : Term) : Collation := term.collation?.getD .binary

def compareCells (collation : Collation) (comparison : Comparison) (left right : Cell) : Bool :=
  match comparison, collation.order left right with
  | .equal, order => order == .eq
  | .notEqual, order => order != .eq
  | .less, order => order == .lt
  | .lessEqual, order => order != .gt
  | .greater, order => order == .gt
  | .greaterEqual, order => order != .lt

/-- Compare two cells; a comparison with null is unknown. -/
def comparison (collation : Collation) (comparison : Comparison) (left right : Cell) : Truth :=
  if left.isNull || right.isNull then none else some (compareCells collation comparison left right)

/-- The characters of a text as patterns see them, up to the first NUL. -/
def patternText (bytes : List UInt8) : List Char :=
  (Utf8.decodeLossy (bytes.takeWhile fun byte => byte != 0)).toList

/-- Whether a text fits a pattern; unknown when one of them is null. -/
def like (text pattern : Cell) : Truth :=
  match text.textBytes?, pattern.textBytes? with
  | some text, some pattern => some (LikePattern.fits (patternText pattern) (patternText text))
  | _, _ => none

/-- Whether a cell is among others: unknown when it is not found and some
comparison is unknown. -/
def amongCells (affinity : Option Affinity) (collation : Collation) (cell : Cell)
    (elements : List Cell) : Truth :=
  elements.foldl (fun found element =>
    let (left, right) := Affinity.align affinity cell element
    Truth.either found (comparison collation .equal left right)) (some false)

def integerArithmetic? (operator : Arithmetic) (left right : Int) : Option Int :=
  match operator with
  | .add => some (left + right)
  | .subtract => some (left - right)
  | .multiply => some (left * right)
  | .divide => if right = 0 then none else some (left.tdiv right)
  | .remainder => if right = 0 then none else some (left.tmod right)

/-- The integer part of a number, within 64 bits. -/
def truncated (cell : Cell) : Int :=
  match cell with
  | .integer value => value.toInt
  | .real value =>
    if value.isFinite then Scalar.clampInt64 value.truncate
    else if value.negative then -(signedBound : Int) else signedBound - 1
  | _ => 0

def realArithmetic (operator : Arithmetic) (left right : Cell) : Cell :=
  match operator with
  | .add => .ofDouble (left.toReal.add right.toReal)
  | .subtract => .ofDouble (left.toReal.subtract right.toReal)
  | .multiply => .ofDouble (left.toReal.multiply right.toReal)
  | .divide => if right.toReal.isZero then .null else .ofDouble (left.toReal.divide right.toReal)
  | .remainder =>
    match integerArithmetic? .remainder (truncated left) (truncated right) with
    | some value => .real (Double.ofInteger value)
    | none => .null

/-- Arithmetic on two cells: in integers as long as both are and the outcome
fits, else in real numbers; null with null, and for a division by zero. -/
def arithmetic (operator : Arithmetic) (left right : Cell) : Cell :=
  match left.toNumber, right.toNumber with
  | .null, _ => .null
  | _, .null => .null
  | .integer first, .integer second =>
    match integerArithmetic? operator first.toInt second.toInt with
    | none => .null
    | some value =>
      if fitsInt64 value then .integer (Int64.ofInt value)
      else realArithmetic operator (.integer first) (.integer second)
  | first, second => realArithmetic operator first second

def negateNumber (cell : Cell) : Cell := arithmetic .subtract (.integer 0) cell

def concatenate (left right : Cell) : Cell :=
  match left.textBytes?, right.textBytes? with
  | some left, some right => .text (left ++ right)
  | _, _ => .null

def evaluateUnary (operator : UnaryOperator) (cell : Cell) : Cell :=
  match operator with
  | .plus => cell
  | .negate => negateNumber cell
  | .not => .ofTruth (Truth.negate cell.truth)

/-- Evaluate an operator on its operands, `affinity` and `collation` being those of a
comparison. -/
def evaluateBinary (operator : BinaryOperator) (affinity : Option Affinity)
    (collation : Collation) (left right : Cell) : Cell :=
  match operator with
  | .either => .ofTruth (Truth.either left.truth right.truth)
  | .both => .ofTruth (Truth.both left.truth right.truth)
  | .compare kind =>
    let (left, right) := Affinity.align affinity left right
    .ofTruth (comparison collation kind left right)
  | .identical =>
    let (left, right) := Affinity.align affinity left right
    .ofTruth (some (collation.same left right))
  | .like => .ofTruth (like left right)
  | .arithmetic kind => arithmetic kind left right
  | .concatenate => concatenate left right

/-- Change the text of a cell. -/
def mapText (change : List Char → List Char) (cell : Cell) : Cell :=
  match cell.textBytes? with
  | some bytes => .ofText (String.ofList (change (Utf8.decodeLossy bytes).toList))
  | none => .null

def lengthOf : Cell → Cell
  | .null => .null
  | .blob bytes => .integer (Int64.ofNat bytes.length)
  | cell => .integer (Int64.ofNat (patternText (cell.textBytes?.getD [])).length)

def typeNameOf : Cell → String
  | .null => "null"
  | .integer _ => "integer"
  | .real _ => "real"
  | .text _ => "text"
  | .blob _ => "blob"

/-- The best cell, unless one of them is null.  A cell replaces the best one before it as its
order to that one says. -/
def extreme (collation : Collation) (replaces : Ordering → Bool) (cells : List Cell) : Cell :=
  if cells.any Cell.isNull then .null
  else
    match cells with
    | [] => .null
    | first :: rest =>
      rest.foldl (fun best cell => if replaces (collation.order cell best) then cell else best) first

/-- Evaluate a function; of equal cells the least is the last one, the greatest the first. -/
def evaluateCall (function : ScalarFunction) (collation : Collation) (arguments : List Cell) :
    Cell :=
  let first := arguments.head?.getD .null
  match function with
  | .absolute => if first.order (.integer 0) == .lt then negateNumber first else first.toNumber
  | .length => lengthOf first
  | .lower => mapText (List.map Char.toLower) first
  | .upper => mapText (List.map Char.toUpper) first
  | .coalesce => (arguments.find? fun cell => !cell.isNull).getD .null
  | .nullIf => if (arguments.drop 1).any (collation.same first) then .null else first
  | .typeName => .ofText (typeNameOf first)
  | .least => extreme collation (· != .gt) arguments
  | .greatest => extreme collation (· == .gt) arguments
  | .random => .integer 0

mutual

/-- The cell of a term in a row, given the cells of the aggregates. -/
def evaluate (row aggregates : List Cell) : Term → Cell
  | .literal value => value
  | .column position _ => row[position]?.getD .null
  | .aggregate position => aggregates[position]?.getD .null
  | .unary operator operand => evaluateUnary operator (operand.evaluate row aggregates)
  | .binary operator left right =>
    evaluateBinary operator (Affinity.ofComparison left.affinity? right.affinity?)
      (collationOf [left, right]) (left.evaluate row aggregates) (right.evaluate row aggregates)
  | .isNull operand => .ofTruth (some (operand.evaluate row aggregates).isNull)
  | .among operand elements =>
    .ofTruth (amongCells operand.affinity? operand.collation (operand.evaluate row aggregates)
      (evaluateAll row aggregates elements))
  | .call function arguments =>
    evaluateCall function (collationOf arguments) (evaluateAll row aggregates arguments)

/-- The cells of terms in a row. -/
def evaluateAll (row aggregates : List Cell) : List Term → List Cell
  | [] => []
  | first :: rest => first.evaluate row aggregates :: evaluateAll row aggregates rest

end

/-- The cell by which a term puts a row into an order or a group. -/
def evaluateKey (row aggregates : List Cell) (term : Term) : Cell :=
  term.collation.fold (term.evaluate row aggregates)

/-- Whether a term is known to be true in a row. -/
def holds (row aggregates : List Cell) (term : Term) : Bool :=
  Truth.holds (term.evaluate row aggregates).truth

end Term

end TableGraph
