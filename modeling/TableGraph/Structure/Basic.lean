import TableGraph.Json.Basic
import TableGraph.Value

/-!
# The structure of a database

Tables with their columns, and the references between them: `belongsTo` leads
from a column to the table it references, `hasMany` from a table to the columns
of other tables that reference it.  The second is the inverse of the first.
-/

namespace TableGraph

/-- A column of a table. -/
structure Column where
  name : String
  nullable : Bool
  primary : Bool
  nativeType : String
  comment : Option String
  deriving DecidableEq, Repr

/-- A table with its references in both directions. -/
structure Table where
  name : String
  columns : List Column
  /-- Referencing column to referenced table. -/
  belongsTo : List (String × String)
  /-- Referencing table to the referencing columns there. -/
  hasMany : List (String × List String)
  deriving DecidableEq, Repr

/-- The tables of a database in the order of their enumeration. -/
structure Structure where
  tables : List Table
  deriving DecidableEq, Repr

instance : Inhabited Structure := ⟨⟨[]⟩⟩

namespace Column

/-- A column that is neither nullable nor part of a key. -/
def plain (name nativeType : String) : Column := ⟨name, false, false, nativeType, none⟩

end Column

namespace Table

/-- The first column of a name. -/
def column? (table : Table) (name : String) : Option Column :=
  table.columns.find? fun column => column.name == name

/-- The primary key when it is a single column. -/
def primaryKey? (table : Table) : Option Column :=
  match table.columns.filter Column.primary with
  | [key] => some key
  | _ => none

end Table

namespace Structure

/-- The first table of a name. -/
def table? (database : Structure) (name : String) : Option Table :=
  database.tables.find? fun table => table.name == name

/-! ## The inverse references -/

/-- A reference from a column of one table to another table. -/
structure Reference where
  target : String
  table : String
  column : String

/-- All references in the order of the tables and of the columns in them. -/
def references (tables : List Table) : List Reference :=
  tables.flatMap fun table =>
    table.belongsTo.map fun (column, target) => ⟨target, table.name, column⟩

/-- Add a column to the ones of a table. -/
def addReferencing (table column : String) :
    List (String × List String) → List (String × List String)
  | [] => [(table, [column])]
  | (other, columns) :: rest =>
    if other == table then (other, columns ++ [column]) :: rest
    else (other, columns) :: addReferencing table column rest

/-- Add a reference to the first table of its target's name. -/
def addReference : List Table → Reference → List Table
  | [], _ => []
  | table :: rest, reference =>
    if table.name == reference.target then
      { table with
        hasMany := addReferencing reference.table reference.column table.hasMany } :: rest
    else
      table :: addReference rest reference

/-- The structure of some tables, with the inverse references derived from
`belongsTo`. -/
def ofTables (tables : List Table) : Structure :=
  ⟨(references tables).foldl addReference (tables.map fun table => { table with hasMany := [] })⟩

end Structure

/-! ## Rows -/

/-- A row of a table, its values in the order of the selected columns. -/
structure Row where
  table : String
  values : List (String × Value)
  deriving DecidableEq, Repr

namespace Row

/-- The value of a column. -/
def value? (row : Row) (column : String) : Option Value := row.values.lookup column

/-- A row of some values, a repeated column taking the later value. -/
def ofValues (table : String) (values : List (String × Value)) : Row := ⟨table, pairsOf values⟩

end Row

end TableGraph
