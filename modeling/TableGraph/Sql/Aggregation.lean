import TableGraph.Sql.Term

/-!
# Groups and aggregates

Rows with equal keys form a group, and groups are ordered by their keys.  An
aggregate is computed from all rows of a group; columns that are no keys are
read from one row of it: the row where the last extreme was found, else the
first row.
-/

namespace TableGraph

/-- The cells of a row. -/
abbrev Cells := List Cell

/-- A failure of the engine while it computes. -/
abbrev Computed (α : Type) := Except String α

namespace Cells

/-- The order of two rows of cells: the first difference decides. -/
def order : Cells → Cells → Ordering
  | left :: lefts, right :: rights => (left.order right).then (order lefts rights)
  | _, _ => .eq

end Cells

/-- Rows with equal keys. -/
structure Group where
  key : Cells
  rows : List Cells
  deriving Repr

namespace Group

/-- Put a row into its group; groups stay ordered by their keys. -/
def insert (key row : Cells) : List Group → List Group
  | [] => [⟨key, [row]⟩]
  | group :: rest =>
    match Cells.order key group.key with
    | .lt => ⟨key, [row]⟩ :: group :: rest
    | .eq => { group with rows := group.rows ++ [row] } :: rest
    | .gt => group :: insert key row rest

/-- The groups of rows by the terms of their keys. -/
def ofRows (keys : List Term) (rows : List Cells) : List Group :=
  rows.foldl (fun groups row => insert (keys.map (Term.evaluateKey row [])) row groups) []

end Group

namespace Aggregate

/-- Leave out cells that are equal to an earlier one. -/
def dropRepeated (collation : Collation) (cells : List Cell) : List Cell :=
  cells.foldl (fun kept cell =>
    if kept.any (collation.same cell) then kept else kept ++ [cell]) []

/-- The cells an aggregate is computed from; null takes no part. -/
def cellsOf (aggregate : Aggregate) (argument : Term) (rows : List Cells) : List Cell :=
  let cells := (rows.map fun row => argument.evaluate row []).filter fun cell => !cell.isNull
  if aggregate.distinct then dropRepeated argument.collation cells else cells

/-- A number in an aggregate: a complete numeral counts as the number it is. -/
def numberIn (cell : Cell) : Cell :=
  match Affinity.preferNumber cell with
  | .integer value => .integer value
  | .real value => .real value
  | other => .real other.toReal

/-- The sum of integers, absent when some cell is none. -/
def integerSum? : List Cell → Option Int
  | [] => some 0
  | .integer value :: rest => (integerSum? rest).map fun sum => value.toInt + sum
  | _ => none

/-- Whether the absolute value of a number is larger than that of another. -/
def exceeds (left right : Double) : Bool :=
  ({ left with negative := false } : Double).compare? { right with negative := false } == some .gt

/-- Add a number to a sum and to the rounding error that the sum has lost. -/
def addCompensated (sum : Double × Double) (value : Double) : Double × Double :=
  let (total, lost) := sum
  let next := total.add value
  let error :=
    if exceeds total value then (total.subtract next).add value
    else (value.subtract next).add total
  (next, lost.add error)

/-- The sum of numbers as a real number, its rounding errors made good. -/
def realSum (cells : List Cell) : Double :=
  let (total, lost) := (cells.map Cell.toReal).foldl addCompensated (.zero false, .zero false)
  if total.isFinite then total.add lost else total

/-- The sum of numbers; a sum of integers that does not fit is refused. -/
def sumOf (cells : List Cell) : Computed Cell :=
  match integerSum? cells with
  | some sum =>
    if fitsInt64 sum then .ok (.integer (Int64.ofInt sum)) else .error "integer overflow"
  | none => .ok (.ofDouble (realSum cells))

/-- The average of numbers. -/
def averageOf (cells : List Cell) : Cell :=
  .ofDouble ((realSum cells).divide (Double.ofInteger cells.length))

/-- The cell of an aggregate over the rows of a group. -/
def compute (aggregate : Aggregate) (rows : List Cells) : Computed Cell :=
  match aggregate.argument with
  | none => .ok (.integer (Int64.ofNat rows.length))
  | some argument =>
    let cells := aggregate.cellsOf argument rows
    match aggregate.function with
    | .count => .ok (.integer (Int64.ofNat cells.length))
    | .sum => if cells.isEmpty then .ok .null else sumOf (cells.map numberIn)
    | .total => .ok (.ofDouble (realSum (cells.map numberIn)))
    | .average => .ok (if cells.isEmpty then .null else averageOf (cells.map numberIn))
    | .minimum => .ok (Term.extreme argument.collation (· == .lt) cells)
    | .maximum => .ok (Term.extreme argument.collation (· == .gt) cells)

/-- The order in which an extreme improves. -/
def improvement? (aggregate : Aggregate) : Option Ordering :=
  match aggregate.function with
  | .minimum => some .lt
  | .maximum => some .gt
  | _ => none

/-- The row where an extreme is found first; null is no extreme. -/
def extremeRow (argument : Term) (better : Ordering) (rows : List Cells) : Option Cells :=
  let choose (best row : Cells) : Cells :=
    let held := argument.evaluate best []
    let found := argument.evaluate row []
    if !found.isNull && (held.isNull || argument.collation.order found held == better) then row
    else best
  match rows with
  | [] => none
  | first :: rest => some (rest.foldl choose first)

/-- The row that columns outside of aggregates are read from. -/
def representative (aggregates : List Aggregate) (rows : List Cells) : Option Cells :=
  let extremes := aggregates.filterMap fun aggregate =>
    match aggregate.improvement?, aggregate.argument with
    | some better, some argument => some (argument, better)
    | _, _ => none
  match extremes.getLast? with
  | some (argument, better) => extremeRow argument better rows
  | none => rows.head?

end Aggregate

end TableGraph
