import TableGraph.Database.Catalog
import TableGraph.Failure
import TableGraph.Structure.Basic
import TableGraph.Text.UpperCase
import TableGraph.Text.WhiteSpace

/-!
# The structure of a database

Tables are listed in the order of their names, but for those with a reserved
name.  A column can be followed to another table when it is a foreign key on its
own; of several such keys the one declared first counts.
-/

namespace TableGraph

open SqlToken (sameName)

/-! ## Foreign keys -/

/-- A column of a foreign key as the engine lists it.  Keys are numbered from
the one declared last, and listed in this order. -/
structure ForeignKeyEntry where
  key : Nat
  column : String
  table : String
  deriving DecidableEq, Repr

namespace ForeignKeyEntry

/-- The columns of a key with the table it leads to. -/
abbrev Parts := List (String × String)

/-- Add an entry to the parts of its key. -/
def gather (entry : ForeignKeyEntry) : List (Nat × Parts) → List (Nat × Parts)
  | [] => [(entry.key, [(entry.column, entry.table)])]
  | (key, parts) :: rest =>
    if key = entry.key then (key, parts ++ [(entry.column, entry.table)]) :: rest
    else (key, parts) :: gather entry rest

/-- The keys of a listing, the first declared one first. -/
def keys (listing : List ForeignKeyEntry) : List Parts :=
  ((listing.foldl (fun gathered entry => gather entry gathered) []).map Prod.snd).reverse

/-- Add the edge of a key of one column unless its column has one. -/
def addEdge (edges : List (String × String)) (parts : Parts) : List (String × String) :=
  match parts with
  | [(column, table)] => if (edges.lookup column).isSome then edges else edges ++ [(column, table)]
  | _ => edges

/-- The table each column leads to. -/
def edges (listing : List ForeignKeyEntry) : List (String × String) :=
  (keys listing).foldl addEdge []

end ForeignKeyEntry

namespace TableDefinition

/-- The declared name of a column. -/
def declaredName (table : TableDefinition) (name : String) : String :=
  ((table.columns.find? fun column => sameName column.name name).map ColumnDefinition.name).getD name

/-- The listing of the foreign keys of a table. -/
def foreignKeyListing (table : TableDefinition) : List ForeignKeyEntry :=
  table.foreignKeys.reverse.zipIdx.flatMap fun (foreignKey, key) =>
    foreignKey.columns.map fun column => ⟨key, table.declaredName column, foreignKey.table⟩

/-- The columns of the primary key by their declared names, each of them once. -/
def keyNames (table : TableDefinition) : List String :=
  (onceEach table.primaryKey).map table.declaredName

/-! ## Columns -/

/-- The name of a declared type without its measures, in upper case. -/
def baseType (declared : String) : String :=
  UpperCase.ofText (String.ofList (trimWhiteSpace (declared.toList.takeWhile (· ≠ '('))))

/-- A column as the structure describes it. -/
def describeColumn (table : TableDefinition) (column : ColumnDefinition) : Column :=
  let isKey := table.primaryKey.any (sameName column.name)
  { name := column.name
    nullable := !column.notNull && !isKey
    primary := isKey
    nativeType := baseType column.type.declared
    comment := none }

/-- A table as the structure describes it. -/
def describe (table : TableDefinition) : Table where
  name := table.name
  columns := table.columns.map table.describeColumn
  belongsTo := ForeignKeyEntry.edges table.foreignKeyListing
  hasMany := []

end TableDefinition

namespace Database

/-- The names that are not listed. -/
def reservedPattern : String := "sqlite_%"

def isReserved (name : String) : Bool := LikePattern.fits reservedPattern.toList name.toList

/-- Insert a definition among others that are ordered by name. -/
def insertByName (table : TableDefinition) : List TableDefinition → List TableDefinition
  | [] => [table]
  | other :: rest =>
    if table.name < other.name then table :: other :: rest else other :: insertByName table rest

/-- The definitions of the listed tables in the order of their names. -/
def listed (database : Database) : List TableDefinition :=
  let definitions := database.tables.map StoredTable.definition
  (definitions.filter fun table => !isReserved table.name).foldl
    (fun sorted table => insertByName table sorted) []

/-- The structure of a database. -/
def introspect (database : Database) : Structure :=
  .ofTables (database.listed.map TableDefinition.describe)

/-- The column that is the primary key of a table. -/
def primaryKey (database : Database) (table : String) : Except StoreFailure String :=
  let keys := ((database.table? table).map fun stored => stored.definition.keyNames).getD []
  let isPresent := database.tables.any fun stored => stored.definition.name == table
  match keys with
  | [key] => .ok key
  | [] => if isPresent then .error (.noPrimaryKey table) else .error (.tableNotFound table)
  | _ => .error (.noPrimaryKey table)

end Database

end TableGraph
