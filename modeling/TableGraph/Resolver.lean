import TableGraph.Condition.Compiler
import TableGraph.Datastore
import TableGraph.Plan.Basic
import TableGraph.QueryLog

/-!
# Resolving fields

A resolver finds the rows, the row or the number that a planned field stands
for.  Conditions are compiled before the selection is narrowed, and a statement
is logged whether it succeeds or fails: to the log of the request if there is
one, else to the log of the resolver.
-/

namespace TableGraph

/-! ## Sessions -/

/-- The logs that executed statements can go to. -/
structure QueryLogs where
  request : Option QueryLog
  resolver : Option QueryLog
  deriving DecidableEq, Repr

namespace QueryLogs

/-- Change the log that is written to. -/
def update (logs : QueryLogs) (change : QueryLog → QueryLog) : QueryLogs :=
  match logs.request with
  | some log => { logs with request := some (change log) }
  | none => { logs with resolver := logs.resolver.map change }

end QueryLogs

/-- The state of a datastore with the logs of the statements executed on it. -/
structure Session (State : Type) where
  store : State
  logs : QueryLogs

/-- A computation that acts on a session and may fail. -/
abbrev Resolving (State : Type) := ExceptT RequestError (StateM (Session State))

namespace Resolving

/-- A call of the datastore that cannot fail. -/
def call {State Answer : Type} (action : StateM State Answer) : Resolving State Answer :=
  fun session =>
    let (answer, store) := action session.store
    (.ok answer, { session with store := store })

/-- A call of the datastore whose failure fails the field. -/
def attempt {State Answer : Type} (action : StateM State (Except StoreFailure Answer)) :
    Resolving State Answer := do
  match ← call action with
  | .ok answer => return answer
  | .error failure => throw (.execution failure)

/-- Log a statement after its execution. -/
def record {State Selection Answer : Type} (datastore : Datastore State Selection)
    (outcome : Except StoreFailure Answer) (selection : Selection) : Resolving State Unit :=
  fun session =>
    let statement := datastore.statement selection
    let change (log : QueryLog) : QueryLog :=
      match outcome with
      | .ok _ => log.recordTimed (datastore.elapsed session.store) statement
      | .error _ => log.recordFailed statement
    (.ok (), { session with logs := session.logs.update change })

/-- Execute a statement and log it. -/
def execute {State Selection Answer : Type} (datastore : Datastore State Selection)
    (action : StateM State (Except StoreFailure Answer × Selection)) : Resolving State Answer := do
  let (outcome, selection) ← call action
  record datastore outcome selection
  match outcome with
  | .ok answer => return answer
  | .error failure => throw (.execution failure)

end Resolving

/-! ## Resolvers -/

/-- What a field resolves to. -/
inductive Resolved where
  | rows (rows : List Row)
  | row (row : Option Row)
  /-- A row with the name of its object type. -/
  | tagged (row : Option (String × Row))
  | count (count : Int64)
  deriving DecidableEq, Repr

/-- What all resolvers of a schema share. -/
structure Resolver (State Selection : Type) where
  datastore : Datastore State Selection
  compiler : Compiler
  /-- The object types of the tables. -/
  typeNames : List (String × String)

/-- A setting that the kind of the field requires. -/
def requireSetting (name : String) (setting : Option String) : Except RequestError String :=
  match setting with
  | some value => .ok value
  | none => .error (.missingSetting name)

namespace FieldSettings

def requireTable (settings : FieldSettings) : Except RequestError String :=
  requireSetting "table_name" settings.tableName

def requireColumn (settings : FieldSettings) : Except RequestError String :=
  requireSetting "referencing_column" settings.referencingColumn

def requireMorphRelation (settings : FieldSettings) : Except RequestError MorphRelation :=
  match settings.morphRelation with
  | some relation => .ok relation
  | none => .error (.missingSetting "morph_relation_definition")

end FieldSettings

namespace Resolver

variable {State Selection : Type}

/-- Narrow a selection by calls that were compiled before. -/
def narrow (resolver : Resolver State Selection) (selection : Selection)
    (compiled : Except RequestError (List Narrowing)) : Resolving State Selection := do
  let calls ← compiled
  Resolving.call (resolver.datastore.narrowAll selection calls)

/-- The rows of a selection. -/
def fetch (resolver : Resolver State Selection) (selection : Selection)
    (arguments : Arguments) : Resolving State (List Row) := do
  let selection ← resolver.narrow selection (resolver.compiler.argumentCalls arguments)
  Resolving.execute resolver.datastore (resolver.datastore.fetch selection)

/-- The number of rows of a selection; order and page do not matter. -/
def count (resolver : Resolver State Selection) (selection : Selection)
    (arguments : Arguments) : Resolving State Int64 := do
  let selection ← resolver.narrow selection
    (resolver.compiler.conditionCalls arguments.conditions)
  Resolving.execute resolver.datastore (resolver.datastore.count selection "*")

/-- All rows of the table of a field. -/
def openTable (resolver : Resolver State Selection) (settings : FieldSettings) :
    Resolving State Selection := do
  let table ← settings.requireTable
  Resolving.call (resolver.datastore.openTable table)

/-- The filter on the table that a polymorphic reference names. -/
def typeFilter (column table : String) : Narrowing :=
  .filter ⟨"?name = ?", [.identifier column, .value (.text table)]⟩

/-- The rows that reference a row, of its own table only when the reference is
polymorphic. -/
def openRelated (resolver : Resolver State Selection) (parent : Row) (settings : FieldSettings) :
    Resolving State Selection := do
  let table ← settings.requireTable
  let column ← settings.requireColumn
  let selection ← Resolving.attempt (resolver.datastore.openRelated parent table column)
  let filters := settings.referencingTypeColumn.toList.map fun typeColumn =>
    typeFilter typeColumn parent.table
  Resolving.call (resolver.datastore.narrowAll selection filters)

/-- The row of a table that a column of a row references. -/
def fetchOne (resolver : Resolver State Selection) (parent : Row) (table column : String) :
    Resolving State (Option Row) := do
  match ← Resolving.attempt (resolver.datastore.openReferenced parent table column) with
  | none => return none
  | some selection =>
    let selection ← Resolving.call (resolver.datastore.narrow selection (.limit (some 1) none))
    let rows ← Resolving.execute resolver.datastore (resolver.datastore.fetch selection)
    return rows.head?

/-- The row that the field references. -/
def belongsTo (resolver : Resolver State Selection) (parent : Row) (settings : FieldSettings) :
    Resolving State (Option Row) := do
  let table ← settings.requireTable
  let column ← settings.requireColumn
  resolver.fetchOne parent table column

/-- The row of any table that the field references, with its object type. -/
def morphTo (resolver : Resolver State Selection) (parent : Row) (settings : FieldSettings) :
    Resolving State (Option (String × Row)) := do
  let relation ← settings.requireMorphRelation
  match (parent.value? relation.typeColumn).bind Value.tableName? with
  | none => return none
  | some table =>
    match resolver.typeNames.lookup table with
    | none => throw (.unknownMorphType table relation.table relation.typeColumn)
    | some typeName =>
      let row ← resolver.fetchOne parent table relation.idColumn
      return row.map fun row => (typeName, row)

/-- Resolve a field of a kind. -/
def resolve (resolver : Resolver State Selection) (kind : ResolverKind) (parent : Option Row)
    (arguments : Arguments) (settings : FieldSettings) : Resolving State Resolved := do
  match kind, parent with
  | .table, _ => return .rows (← resolver.fetch (← resolver.openTable settings) arguments)
  | .tableCount, _ => return .count (← resolver.count (← resolver.openTable settings) arguments)
  | .belongsTo, some row => return .row (← resolver.belongsTo row settings)
  | .hasMany, some row =>
    return .rows (← resolver.fetch (← resolver.openRelated row settings) arguments)
  | .hasManyCount, some row =>
    return .count (← resolver.count (← resolver.openRelated row settings) arguments)
  | .morphTo, some row => return .tagged (← resolver.morphTo row settings)
  | kind, none => throw (.missingParent kind.name)

end Resolver

end TableGraph
