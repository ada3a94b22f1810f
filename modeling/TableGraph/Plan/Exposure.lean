import TableGraph.Inflection
import TableGraph.Plan.Basic

/-!
# What a configuration exposes

Tables and columns whose names are no names of GraphQL cannot be exposed, and a
table without an exposed column is left out.  Every exposed table gets the name
of its object type: its singular, unless that is taken.
-/

namespace TableGraph

namespace Configuration

/-- The columns of a table that become fields. -/
def exposedColumns (configuration : Configuration) (table : Table) : List Column :=
  table.columns.filter fun column =>
    configuration.isColumnVisible table.name column.name && isGraphName column.name

/-- A column of a table that relations may use: its name may be any. -/
def visibleColumn? (configuration : Configuration) (table : Table) (name : String) : Option Column :=
  (table.column? name).filter fun column => configuration.isColumnVisible table.name column.name

/-- Whether a table becomes an object type. -/
def exposes (configuration : Configuration) (table : Table) : Bool :=
  configuration.isTableVisible table.name && isGraphName table.name &&
    !(configuration.exposedColumns table).isEmpty

/-- The tables that become object types. -/
def exposedTables (configuration : Configuration) (database : Structure) : List Table :=
  database.tables.filter configuration.exposes

end Configuration

/-- The name of the object type of a table: its first singular form when that is
a free name of GraphQL, else the name of the table. -/
def objectName (inflector : Inflector) (used : List String) (table : String) : String :=
  match (inflector table).head? with
  | some singular => if isGraphName singular && !used.contains singular then singular else table
  | none => table

/-- Tables with the names of their object types, given in order. -/
def nameObjects (inflector : Inflector) : List String → List Table → List (Table × String)
  | _, [] => []
  | used, table :: rest =>
    let name := objectName inflector used table.name
    (table, name) :: nameObjects inflector (name :: used) rest

end TableGraph
