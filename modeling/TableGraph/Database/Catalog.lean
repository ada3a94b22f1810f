import TableGraph.Sql.Query

/-!
# Tables of a database

A database is its tables with their rows, its views, and a version that grows
with every change of a definition.  Names are compared without regard to the
case of ASCII letters.  The order in which the engine finds the rows of a table is
a part of a database that no change touches.
-/

namespace TableGraph

open SqlToken (sameName upperCase)

/-- The type of a column: its name as it is declared, and how texts are compared. -/
structure ColumnType where
  declared : String
  collation : Collation := .binary
  deriving DecidableEq, Repr

/-- A type of which no more than the name is said compares texts by their bytes. -/
instance : Coe String ColumnType := ⟨fun declared => { declared }⟩

/-- The definition of a column. -/
structure ColumnDefinition where
  name : String
  type : ColumnType
  notNull : Bool
  /-- The cell of a row that gives none. -/
  initial : Cell
  deriving DecidableEq, Repr

namespace ColumnDefinition

def affinity (column : ColumnDefinition) : Affinity := .ofDeclaredType column.type.declared

def collation (column : ColumnDefinition) : Collation := column.type.collation

def kind (column : ColumnDefinition) : ColumnKind := ⟨column.affinity, column.collation⟩

/-- The cell that a column stores for a cell. -/
def store (column : ColumnDefinition) (cell : Cell) : Cell := column.affinity.store cell.storable

end ColumnDefinition

/-- A key whose cells are found in another table. -/
structure ForeignKey where
  columns : List String
  /-- The other table, as it was written. -/
  table : String
  /-- The columns of the other table; without any they are its primary key. -/
  targets : List String
  deriving DecidableEq, Repr

/-- The definition of a table. -/
structure TableDefinition where
  name : String
  columns : List ColumnDefinition
  primaryKey : List String
  uniqueKeys : List (List String)
  /-- The foreign keys in the order of their declaration. -/
  foreignKeys : List ForeignKey
  /-- Whether the rows are numbered; else the primary key orders them. -/
  hasRowid : Bool
  deriving DecidableEq, Repr

/-- Names without those that repeat an earlier one. -/
def onceEach : List String → List String
  | [] => []
  | name :: rest => name :: (onceEach rest).filter fun other => !sameName name other

namespace TableDefinition

/-- The position of a column. -/
def position? (table : TableDefinition) (name : String) : Option Nat :=
  table.columns.findIdx? fun column => sameName column.name name

/-- The positions of columns, absent when one is unknown. -/
def positions? (table : TableDefinition) (names : List String) : Option (List Nat) :=
  names.mapM table.position?

def keyPositions (table : TableDefinition) : List Nat :=
  table.primaryKey.filterMap table.position?

/-- The column that is the number of its row: a sole key declared `INTEGER`. -/
def rowidPosition? (table : TableDefinition) : Option Nat :=
  match table.keyPositions with
  | [position] =>
    (table.columns[position]?).bind fun column =>
      if table.hasRowid && upperCase column.type.declared == "INTEGER" then some position else none
  | _ => none

/-- The collation of the column at a position. -/
def collationAt (table : TableDefinition) (position : Nat) : Collation :=
  ((table.columns[position]?).map ColumnDefinition.collation).getD .binary

/-- The cells of a row at some positions, as their columns compare them. -/
def keyCells (table : TableDefinition) (positions : List Nat) (cells : Cells) : Cells :=
  positions.map fun position => (table.collationAt position).fold (cells[position]?.getD .null)

/-- The columns that keys and foreign keys consist of. -/
def keyColumns (table : TableDefinition) : List String :=
  table.primaryKey ++ table.uniqueKeys.flatten ++ table.foreignKeys.flatMap ForeignKey.columns

def scope (table : TableDefinition) : Scope where
  table := table.name
  columns := table.columns.map fun column => (column.name, column.kind)
  hasRowid := table.hasRowid

end TableDefinition

/-- A row with its number. -/
structure StoredRow where
  number : Int64
  cells : Cells
  deriving DecidableEq, Repr

/-- A row as expressions see it, its number behind the columns. -/
def StoredRow.visible (row : StoredRow) : Cells := row.cells ++ [.integer row.number]

/-- A table with its rows in the order of their keys. -/
structure StoredTable where
  definition : TableDefinition
  rows : List StoredRow
  deriving DecidableEq, Repr

/-- The cells of a row at some positions. -/
def StoredTable.cellsAt (positions : List Nat) (cells : Cells) : Cells :=
  positions.map fun position => cells[position]?.getD .null

/-! ## Orders of rows

A query that asks for no order gets its rows as they are found: in the order in which they
are stored, or along an index, forwards or backwards.
-/

/-- The order in which an engine goes through the rows of a table for a query.  Of a row it
uses the number and what the indexes of the table hold: keys, and columns that are no keys. -/
structure VisitOrder where
  /-- The columns in the indexes of a table, beside those of its keys. -/
  indexed : TableDefinition → List String
  /-- The places of the rows one after the other, by the cells that an engine uses of them. -/
  places : TableDefinition → SelectClauses → Option SqlExpression → List Cells → List Nat
  /-- Every row is visited once. -/
  perm : ∀ table clauses result rows,
    (places table clauses result rows).Perm (List.range rows.length)

namespace VisitOrder

/-- The order in which rows are stored. -/
def stored : VisitOrder := ⟨fun _ => [], fun _ _ _ rows => List.range rows.length, fun _ _ _ _ => .rfl⟩

/-- The columns whose cells decide the order. -/
def columns (order : VisitOrder) (table : TableDefinition) : List String :=
  table.primaryKey ++ table.uniqueKeys.flatten ++ order.indexed table

/-- Their positions, and that of the number of a row. -/
def positions (order : VisitOrder) (table : TableDefinition) : List Nat :=
  (order.columns table).filterMap table.position? ++ [table.columns.length]

/-- Some rows, or what stands for them, in the order in which they are visited. -/
def arrange {α : Type} (order : VisitOrder) (table : TableDefinition) (clauses : SelectClauses)
    (result : Option SqlExpression) (cellsOf : α → Cells) (rows : List α) : List α :=
  let used := rows.map fun row => StoredTable.cellsAt (order.positions table) (cellsOf row)
  (order.places table clauses result used).filterMap fun place => rows[place]?

end VisitOrder

/-- The contents of a database, and how the engine goes through them. -/
structure Database where
  tables : List StoredTable
  views : List String
  version : Int64
  /-- The order of the rows of a table. -/
  rowOrder : VisitOrder := .stored
  /-- The order of groups, by the rows that stand for them. -/
  groupOrder : VisitOrder := .stored

namespace Database

def empty : Database := { tables := [], views := [], version := 0 }

instance : Inhabited Database := ⟨.empty⟩

def table? (database : Database) (name : String) : Option StoredTable :=
  database.tables.find? fun table => sameName table.definition.name name

/-- Replace a table by another of its name. -/
def replace (database : Database) (table : StoredTable) : Database :=
  { database with
    tables := database.tables.map fun other =>
      if sameName other.definition.name table.definition.name then table else other }

/-! ## Views

A view has one column and one row.
-/

def viewColumn : String := "id"

def viewScope (name : String) : Scope := ⟨name, [(viewColumn, ⟨.blob, .binary⟩)], false⟩

/-- The names and rows that a query can select from. -/
def source? (database : Database) (name : String) : Option (Scope × List Cells) :=
  match database.table? name with
  | some table => some (table.definition.scope, table.rows.map StoredRow.visible)
  | none =>
    (database.views.find? (sameName name)).map fun view => (viewScope view, [[.integer 1]])

end Database

end TableGraph
