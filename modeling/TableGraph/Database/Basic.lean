import TableGraph.Database.Introspection
import TableGraph.Database.Selection
import TableGraph.Datastore
import TableGraph.Selection.Basic

/-!
# The database as a datastore

A selection is rendered as a statement and the statement is evaluated on the
tables of the database.  The rows that reference a row are found through its
primary key.
-/

namespace TableGraph

namespace Database

/-- The rows of a statement, each named for the table that was selected. -/
def fetchRows (database : Database) (table : String) (statement : Statement) :
    Except String (List Row) := do
  let query ← Query.ofStatement statement.text (statement.binds.map Cell.ofValue)
  let (names, rows) ← database.queryRows query
  return rows.map fun cells => .ofValues table (names.zip (cells.map Cell.toValue))

/-- The number that a statement counts. -/
def fetchNumber (database : Database) (statement : Statement) : Except String Int64 := do
  let query ← Query.ofStatement statement.text (statement.binds.map Cell.ofValue)
  database.queryNumber query

/-- Render a selection and run its statement. -/
def runSelection {Answer : Type} (selection : TableSelection) (head : TableSelection.Head)
    (run : Statement → Except String Answer) : Except StoreFailure Answer × TableSelection :=
  let (rendered, selection) := selection.execute head
  match rendered with
  | .error failure => (.error failure, selection)
  | .ok statement =>
    match run statement with
    | .ok answer => (.ok answer, selection)
    | .error reason => (.error (.engine reason), selection)

/-- The rows of a table where a column equals a value. -/
def equalTo (table column : String) (value : Value) : TableSelection :=
  (TableSelection.ofTable table).narrow (.filter ⟨"?name = ?", [.identifier column, .value value]⟩)

/-- The rows of a table whose column holds the key of a row. -/
def related (database : Database) (row : Row) (table column : String) :
    Except StoreFailure TableSelection :=
  (database.primaryKey row.table).map fun key =>
    equalTo table column ((row.value? key).getD .null)

/-- The row of a table whose key a column of a row holds. -/
def referenced (database : Database) (row : Row) (table column : String) :
    Except StoreFailure (Option TableSelection) :=
  let value := (row.value? column).getD .null
  if value.isNull then .ok none
  else (database.primaryKey table).map fun key => some (equalTo table key value)

/-- The calls of a database. -/
def datastore : Datastore Database TableSelection where
  readStructure := fun database => (.ok database.introspect, database)
  readVersion := fun database => (.ok database.version, database)
  openTable table := fun database => (.ofTable table, database)
  openRelated row table column := fun database => (database.related row table column, database)
  openReferenced row table column := fun database =>
    (database.referenced row table column, database)
  narrow selection call := fun database => (selection.narrow call, database)
  fetch selection := fun database =>
    (runSelection selection .rows (database.fetchRows selection.table), database)
  count selection expression := fun database =>
    (runSelection selection (.count expression) database.fetchNumber, database)
  statement selection := selection.shown
  elapsed _ := 0

end Database

end TableGraph
