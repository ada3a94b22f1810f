import TableGraph.Database.Selection
import TableGraph.Sql.Like

/-!
# Changes to a database

Tables are defined, extended and dropped; rows are inserted, updated and
deleted.  Keys stay unique and columns that must hold something do; references
of the data are checked separately.
-/

namespace TableGraph

open SqlToken (sameName)

/-! ## Definitions -/

/-- A column with the constraints that are written behind it. -/
structure ColumnDraft where
  column : ColumnDefinition
  isKey : Bool
  isUnique : Bool
  references : List ForeignKey
  deriving Repr

/-- The foreign keys of a column, which consist of it alone. -/
def ColumnDraft.foreignKeys (draft : ColumnDraft) : List ForeignKey :=
  draft.references.map fun reference => { reference with columns := [draft.column.name] }

/-- A constraint that is written behind all columns of a table. -/
inductive TableConstraint where
  | primaryKey (columns : List String)
  | unique (columns : List String)
  | foreignKey (foreignKey : ForeignKey)
  deriving Repr

/-- A table as it is written. -/
structure TableDraft where
  name : String
  columns : List ColumnDraft
  constraints : List TableConstraint
  hasRowid : Bool
  deriving Repr

namespace TableDraft

/-- The primary keys that are declared. -/
def primaryKeys (draft : TableDraft) : List (List String) :=
  (draft.columns.filter ColumnDraft.isKey).map (fun column => [column.column.name]) ++
    draft.constraints.filterMap fun constraint =>
      match constraint with
      | .primaryKey columns => some columns
      | _ => none

/-- The other keys that are declared. -/
def uniqueKeys (draft : TableDraft) : List (List String) :=
  (draft.columns.filter ColumnDraft.isUnique).map (fun column => [column.column.name]) ++
    draft.constraints.filterMap fun constraint =>
      match constraint with
      | .unique columns => some columns
      | _ => none

/-- The foreign keys, those of columns first. -/
def foreignKeys (draft : TableDraft) : List ForeignKey :=
  draft.columns.flatMap ColumnDraft.foreignKeys ++
    draft.constraints.filterMap fun constraint =>
      match constraint with
      | .foreignKey foreignKey => some foreignKey
      | _ => none

/-- Whether no column name is repeated. -/
def distinctNames : List String → Bool
  | [] => true
  | name :: rest => !rest.any (sameName name) && distinctNames rest

/-- The primary key; when no number identifies the rows, it names each column once. -/
def primaryKey (draft : TableDraft) : List String :=
  let written := (draft.primaryKeys.head?).getD []
  if draft.hasRowid then written else onceEach written

/-- The definition that is written; when no number identifies the rows, the columns of the
primary key hold something. -/
def definition (draft : TableDraft) : TableDefinition where
  name := draft.name
  columns := draft.columns.map fun column =>
    if !draft.hasRowid && draft.primaryKey.any (sameName column.column.name) then
      { column.column with notNull := true }
    else column.column
  primaryKey := draft.primaryKey
  uniqueKeys := draft.uniqueKeys
  foreignKeys := draft.foreignKeys
  hasRowid := draft.hasRowid

/-- The definition of a table, if what is written defines one. -/
def toDefinition (draft : TableDraft) : Except String TableDefinition := do
  if !distinctNames (draft.definition.columns.map ColumnDefinition.name) then
    throw "duplicate column name"
  if 1 < draft.primaryKeys.length then throw "more than one primary key"
  if !draft.hasRowid && draft.primaryKey.isEmpty then throw "PRIMARY KEY missing"
  if !draft.definition.keyColumns.all (fun name => (draft.definition.position? name).isSome) then
    throw "unknown column"
  return draft.definition

end TableDraft

/-! ## Rows -/

namespace StoredTable

/-- The keys whose cells identify a row. -/
def keys (table : StoredTable) : List (List Nat) :=
  (table.definition.primaryKey :: table.definition.uniqueKeys).filterMap fun key =>
    (table.definition.positions? key).filter fun positions => !positions.isEmpty

/-- Whether two rows agree on a key; null agrees with nothing. -/
def agree (table : StoredTable) (positions : List Nat) (left right : Cells) : Bool :=
  let first := table.definition.keyCells positions left
  let second := table.definition.keyCells positions right
  !first.any Cell.isNull && Cells.order first second == .eq

/-- The number of the next row. -/
def nextNumber (table : StoredTable) : Int :=
  table.rows.foldl (fun largest row => max largest row.number.toInt) 0 + 1

/-- The number of a row: the cell of the column that is the number, else the given
one.  Only a new row may leave that column null, and then gets the next number. -/
def numberFor (table : StoredTable) (given : Option Int64) (cells : Cells) :
    Except String Int64 := do
  let cell := (table.definition.rowidPosition?.bind fun position => cells[position]?).getD .null
  match cell, given with
  | .integer number, _ => return number
  | .null, some number =>
    if table.definition.rowidPosition?.isSome then throw "datatype mismatch" else return number
  | .null, none =>
    if fitsInt64 table.nextNumber then return Int64.ofInt table.nextNumber
    else throw "database or disk is full"
  | _, _ => throw "datatype mismatch"

/-- The cells of a row as its columns store them. -/
def storeCells (table : StoredTable) (cells : Cells) : Cells :=
  table.definition.columns.zipWith ColumnDefinition.store cells

/-- Whether a row comes before another one. -/
def precedes (table : StoredTable) (left right : StoredRow) : Bool :=
  if table.definition.hasRowid then left.number < right.number
  else
    let keyCells := table.definition.keyCells table.definition.keyPositions
    Cells.order (keyCells left.cells) (keyCells right.cells) == .lt

/-- Put a row into its place. -/
def place (precedes : StoredRow → StoredRow → Bool) (row : StoredRow) :
    List StoredRow → List StoredRow
  | [] => [row]
  | other :: rest =>
    if precedes row other then row :: other :: rest else other :: place precedes row rest

/-- Whether a column that must hold something holds nothing. -/
def lacksCell (table : StoredTable) (cells : Cells) : Bool :=
  (table.definition.columns.zip cells).any fun (column, cell) => column.notNull && cell.isNull

/-- Insert a row, with a given number or the next one. -/
def insert (table : StoredTable) (given : Option Int64) (cells : Cells) :
    Except String StoredTable := do
  let stored := table.storeCells cells
  let number ← table.numberFor given stored
  let stored :=
    match table.definition.rowidPosition? with
    | some position => stored.set position (.integer number)
    | none => stored
  if table.lacksCell stored then throw "NOT NULL constraint failed"
  let conflicts (row : StoredRow) : Bool :=
    (table.definition.hasRowid && row.number == number) ||
      table.keys.any fun key => table.agree key stored row.cells
  if table.rows.any conflicts then throw "UNIQUE constraint failed"
  return { table with rows := place table.precedes ⟨number, stored⟩ table.rows }

/-- A table with one more column, in which every row holds the initial cell. -/
def extend (table : StoredTable) (draft : ColumnDraft) : StoredTable where
  definition :=
    { table.definition with
      columns := table.definition.columns ++ [draft.column]
      foreignKeys := table.definition.foreignKeys ++ draft.foreignKeys }
  rows := table.rows.map fun row =>
    { row with cells := row.cells ++ [draft.column.store draft.column.initial] }

/-- Remove a row. -/
def remove (table : StoredTable) (row : StoredRow) : StoredTable :=
  { table with rows := table.rows.filter fun other => other != row }

end StoredTable

/-! ## References of the data -/

namespace Database

/-- The columns of a table that a foreign key to it leads to. -/
def targetNames (foreignKey : ForeignKey) (table : TableDefinition) : List String :=
  if foreignKey.targets.isEmpty then table.primaryKey else foreignKey.targets

/-- The columns a foreign key leads to, with their table. -/
def target? (database : Database) (foreignKey : ForeignKey) : Option (StoredTable × List Nat) := do
  let table ← database.table? foreignKey.table
  let positions ← table.definition.positions? (targetNames foreignKey table.definition)
  if positions.length = foreignKey.columns.length then some (table, positions) else none

/-- Whether a row references nothing or a row that is there. -/
def satisfies (database : Database) (table : TableDefinition) (foreignKey : ForeignKey)
    (row : StoredRow) : Bool :=
  let cells := StoredTable.cellsAt (foreignKey.columns.filterMap table.position?) row.cells
  cells.any Cell.isNull ||
    match database.target? foreignKey with
    | none => false
    | some (target, positions) =>
      let columns := positions.filterMap fun position => target.definition.columns[position]?
      let wanted := columns.zipWith
        (fun column cell => column.collation.fold (column.affinity.store cell)) cells
      target.rows.any fun other =>
        Cells.order wanted (target.definition.keyCells positions other.cells) == .eq

/-- How many references lead nowhere. -/
def danglingCount (database : Database) : Nat :=
  let perKey := database.tables.flatMap fun table =>
    table.definition.foreignKeys.map fun foreignKey =>
      table.rows.countP fun row => !database.satisfies table.definition foreignKey row
  perKey.foldl (· + ·) 0

/-- Whether a foreign key leads to columns that identify a row. -/
def hasTarget (database : Database) (foreignKey : ForeignKey) : Bool :=
  (database.target? foreignKey).any fun (table, positions) =>
    table.definition.rowidPosition?.any (fun position => positions == [position]) ||
      table.keys.any fun key => key.length == positions.length && key.all positions.contains

/-- The foreign keys that lead to a table. -/
def incoming (database : Database) (name : String) : List ForeignKey :=
  (database.tables.flatMap fun table => table.definition.foreignKeys).filter fun foreignKey =>
    sameName foreignKey.table name

/-- Whether one of some columns is among others. -/
def meets (columns others : List String) : Bool :=
  columns.any fun column => others.any fun other => sameName column other

/-- The foreign keys that matter to an update of some columns: those of the columns and, when
there are any or some foreign key leads to one of the columns, all that lead to the table. -/
def concerned (database : Database) (table : TableDefinition) (names : List String) :
    List ForeignKey :=
  let own := table.foreignKeys.filter fun foreignKey => meets foreignKey.columns names
  let incoming := database.incoming table.name
  if own.isEmpty && !incoming.any fun foreignKey => meets (targetNames foreignKey table) names then []
  else own ++ incoming

/-- A change that has to follow foreign keys needs the rows they lead to. -/
def requireTargets (database : Database) (foreignKeys : List ForeignKey) : Except String Unit :=
  if foreignKeys.all database.hasTarget then .ok () else .error "foreign key mismatch"

/-- A change that leaves no more references dangling than there were. -/
def enforce (database changed : Database) : Except String Database :=
  if database.danglingCount < changed.danglingCount then .error "FOREIGN KEY constraint failed"
  else .ok changed

/-! ## Changes -/

/-- Count a change of a definition. -/
def advance (database : Database) : Database := { database with version := database.version + 1 }

def requireTable (database : Database) (name : String) : Except String StoredTable :=
  match database.table? name with
  | some table => .ok table
  | none => .error ("no such table: " ++ name)

/-- Whether the beginning of a name is reserved. -/
def hasReservedBeginning (name : String) : Bool :=
  "SQLITE_".toList.isPrefixOf (SqlToken.upperCase name).toList

/-- Define a table. -/
def create (database : Database) (draft : TableDraft) (unlessPresent : Bool) :
    Except String Database := do
  if (database.source? draft.name).isSome then
    if unlessPresent then return database else throw "table already exists"
  if hasReservedBeginning draft.name then throw "object name reserved for internal use"
  let definition ← draft.toDefinition
  return advance { database with tables := database.tables ++ [⟨definition, []⟩] }

/-- Add a column; existing rows get its initial cell. -/
def addColumn (database : Database) (name : String) (draft : ColumnDraft) :
    Except String Database := do
  let table ← database.requireTable name
  if draft.isKey || draft.isUnique then throw "Cannot add a key column"
  if (table.definition.position? draft.column.name).isSome then throw "duplicate column name"
  let initial := draft.column.store draft.column.initial
  if !draft.references.isEmpty && !initial.isNull && !table.rows.isEmpty then
    throw "Cannot add a REFERENCES column with non-NULL default value"
  if draft.column.notNull && initial.isNull && !table.rows.isEmpty then
    throw "Cannot add a NOT NULL column with default value NULL"
  return advance (database.replace (table.extend draft))

/-- Drop a table. -/
def drop (database : Database) (name : String) (ifPresent : Bool) : Except String Database := do
  if database.views.any (sameName name) then throw "use DROP VIEW to delete a view"
  match database.table? name with
  | none => if ifPresent then return database else throw ("no such table: " ++ name)
  | some _ =>
    let tables := database.tables.filter fun table => !sameName table.definition.name name
    enforce database (advance { database with tables := tables })

/-- The cells of a new row from the cells of some of its columns. -/
def arrangeCells (definition : TableDefinition) (columns : Option (List String)) (cells : Cells) :
    Except String Cells := do
  match columns with
  | none =>
    if cells.length = definition.columns.length then return cells
    else throw "wrong number of values"
  | some names =>
    let some positions := definition.positions? names | throw "no such column"
    if positions.length ≠ cells.length then throw "wrong number of values"
    let given := positions.zip cells
    return definition.columns.zipIdx.map fun (column, position) =>
      (given.lookup position).getD column.initial

/-- Insert rows into a table without regard to references. -/
def insertRows (database : Database) (name : String) (columns : Option (List String))
    (rows : List Cells) : Except String Database := do
  let table ← database.requireTable name
  let filled ← rows.foldlM (fun (table : StoredTable) cells => do
    table.insert none (← arrangeCells table.definition columns cells)) table
  return database.replace filled

/-- Insert rows whose references lead somewhere. -/
def insert (database : Database) (name : String) (columns : Option (List String))
    (rows : List Cells) : Except String Database := do
  let table ← database.requireTable name
  database.requireTargets table.definition.foreignKeys
  enforce database (← database.insertRows name columns rows)

/-- The rows of a table that an optional condition selects. -/
def matching (table : StoredTable) (filter : Option SqlExpression) :
    Except String (List StoredRow) := do
  let (term, _) ← (resolveOptional table.definition.scope false filter).run []
  return table.rows.filter fun row => term.all (Term.holds row.visible [])

/-- Update the rows that a condition selects. -/
def update (database : Database) (name : String) (assignments : List (String × SqlExpression))
    (filter : Option SqlExpression) : Except String Database := do
  let table ← database.requireTable name
  let names := assignments.map Prod.fst
  let some positions := table.definition.positions? names | throw "no such column"
  database.requireTargets (database.concerned table.definition names)
  let (terms, _) ←
    (Term.resolveAll table.definition.scope false (assignments.map Prod.snd)).run []
  let changed ← (← matching table filter).foldlM (fun (current : StoredTable) row => do
    let cells := (positions.zip terms).foldl
      (fun cells (position, term) => cells.set position (term.evaluate row.visible [])) row.cells
    (current.remove row).insert (some row.number) cells) table
  enforce database (database.replace changed)

/-- Delete the rows that a condition selects. -/
def delete (database : Database) (name : String) (filter : Option SqlExpression) :
    Except String Database := do
  let table ← database.requireTable name
  database.requireTargets (table.definition.foreignKeys ++ database.incoming name)
  let selected ← matching table filter
  let rows := table.rows.filter fun row => !selected.contains row
  enforce database (database.replace { table with rows := rows })

end Database

end TableGraph
