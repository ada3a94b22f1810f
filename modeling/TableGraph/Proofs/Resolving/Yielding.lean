import Mathlib
import TableGraph.Proofs.Condition.Failing
import TableGraph.Proofs.Resolving.Reached

/-!
# What resolvers yield

A computation yields answers of some kind when every session ends it with such an answer
or with a failure that is not internal.  Resolvers that are given the settings of their
kind and a row to start from yield rows of the table that they are set to, whatever the
datastore, as long as it keeps track of the tables its selections are over.
-/

namespace TableGraph

/-- A failure for which the schema itself is to blame. -/
def RequestError.isInternal : RequestError → Bool
  | .internal _ => true
  | _ => false

/-! ## Datastores -/

/-- A datastore whose selections are over tables, the rows of each table being of some
kind. -/
structure Datastore.Serves {State Selection : Type} (datastore : Datastore State Selection)
    (isOver : Selection → String → Prop) (isOf : Row → String → Prop) : Prop where
  openTable : ∀ table state, isOver (datastore.openTable table state).1 table
  openRelated : ∀ row table column state selection,
    (datastore.openRelated row table column state).1 = .ok selection → isOver selection table
  openReferenced : ∀ row table column state selection,
    (datastore.openReferenced row table column state).1 = .ok (some selection) →
      isOver selection table
  narrow : ∀ selection call table state, isOver selection table →
    isOver (datastore.narrow selection call state).1 table
  fetch : ∀ selection table state rows, isOver selection table →
    (datastore.fetch selection state).1.1 = .ok rows → ∀ row ∈ rows, isOf row table

/-- A datastore whose rows are named for the table that was selected. -/
def Datastore.NamesTables {State Selection : Type} (datastore : Datastore State Selection) : Prop :=
  ∃ isOver, datastore.Serves isOver fun row table => row.table = table

theorem Datastore.serves_anything {State Selection : Type}
    (datastore : Datastore State Selection) :
    datastore.Serves (fun _ _ => True) fun _ _ => True where
  openTable _ _ := trivial
  openRelated _ _ _ _ _ _ := trivial
  openReferenced _ _ _ _ _ _ := trivial
  narrow _ _ _ _ _ := trivial
  fetch _ _ _ _ _ _ _ _ := trivial

namespace Resolving

variable {State First Second : Type}

/-- From every session a computation ends with an answer that meets a condition, or with
a failure that is not internal. -/
def Yields (action : Resolving State First) (meets : First → Prop) : Prop :=
  ∀ session, match (action session).1 with
    | .ok answer => meets answer
    | .error failure => failure.isInternal = false

variable {action : Resolving State First} {meets : First → Prop}

theorem Yields.bind {rest : First → Resolving State Second} {restMeets : Second → Prop}
    (yields : Yields action meets) (restYields : ∀ answer, meets answer → Yields (rest answer) restMeets) :
    Yields (action >>= rest) restMeets := by
  intro session
  have outcome := yields session
  cases acts : action session with
  | mk result next =>
      rw [acts] at outcome
      cases result with
      | error failure =>
          rw [bind_of_error acts]
          exact outcome
      | ok answer =>
          rw [bind_of_ok acts]
          exact restYields answer outcome next

theorem yields_pure {answer : First} (meetsAnswer : meets answer) :
    Yields (pure answer : Resolving State First) meets := fun _ => meetsAnswer

theorem yields_throw {failure : RequestError} (blameless : failure.isInternal = false) :
    Yields (throw failure : Resolving State First) meets := fun _ => blameless

theorem yields_lift {result : Except RequestError First}
    (succeeds : ∀ answer, result = .ok answer → meets answer)
    (fails : ∀ failure, result = .error failure → failure.isInternal = false) :
    Yields (liftM result : Resolving State First) meets := by
  intro session
  rw [lift_eq]
  cases result with
  | error failure => exact fails failure rfl
  | ok answer => exact succeeds answer rfl

theorem yields_lift_ok {answer : First} {rest : First → Resolving State Second}
    {restMeets : Second → Prop} (yields : Yields (rest answer) restMeets) :
    Yields (liftM (.ok answer : Except RequestError First) >>= rest) restMeets := by
  intro session
  rw [bind_of_ok (lift_eq (.ok answer))]
  exact yields session

theorem yields_compiled {result : Except RequestError First} (fails : FailsToCompile result) :
    Yields (liftM result : Resolving State First) fun answer => result = .ok answer := by
  apply yields_lift
  · intro answer succeeded
    exact succeeded
  · intro failure failed
    obtain ⟨reason, rfl⟩ := fails failure failed
    rfl

theorem yields_call {call : StateM State First} (answers : ∀ state, meets (call state).1) :
    Yields (Resolving.call call) meets := fun session => answers session.store

theorem yields_attempt {call : StateM State (Except StoreFailure First)}
    (answers : ∀ state answer, (call state).1 = .ok answer → meets answer) :
    Yields (attempt call) meets := by
  have called : Yields (Resolving.call call)
      fun result => ∀ answer, result = .ok answer → meets answer := by
    apply yields_call
    intro state answer succeeded
    exact answers state answer succeeded
  apply called.bind
  intro result meetsAnswer
  cases result with
  | error failure => exact yields_throw rfl
  | ok answer => exact yields_pure (meetsAnswer answer rfl)

theorem yields_execute {Selection : Type} {datastore : Datastore State Selection}
    {run : StateM State (Except StoreFailure First × Selection)}
    (answers : ∀ state answer, (run state).1.1 = .ok answer → meets answer) :
    Yields (execute datastore run) meets := by
  have called : Yields (Resolving.call run)
      fun executed => ∀ answer, executed.1 = .ok answer → meets answer := by
    apply yields_call
    intro state answer succeeded
    exact answers state answer succeeded
  apply called.bind
  rintro ⟨outcome, selection⟩ meetsAnswer
  have recorded : Yields (record datastore outcome selection) fun _ => True := by
    intro session
    exact trivial
  apply recorded.bind
  intro _ _
  cases outcome with
  | error failure => exact yields_throw rfl
  | ok answer => exact yields_pure (meetsAnswer answer rfl)

end Resolving

namespace Resolver

open Resolving

variable {State Selection : Type} {resolver : Resolver State Selection}
  {isOver : Selection → String → Prop} {isOf : Row → String → Prop} {table : String}
  {settings : FieldSettings}

/-! ## Selections -/

theorem yields_narrowAll (serves : resolver.datastore.Serves isOver isOf) {selection : Selection}
    (selected : isOver selection table) (calls : List Narrowing) :
    Yields (Resolving.call (resolver.datastore.narrowAll selection calls))
      fun narrowed => isOver narrowed table := by
  apply yields_call
  intro state
  induction calls generalizing selection state with
  | nil => exact selected
  | cons head tail inductionHypothesis =>
      have narrowed := serves.narrow selection head table state selected
      exact inductionHypothesis narrowed (resolver.datastore.narrow selection head state).2

theorem yields_narrow (serves : resolver.datastore.Serves isOver isOf) {selection : Selection}
    (selected : isOver selection table) {compiled : Except RequestError (List Narrowing)}
    (fails : FailsToCompile compiled) :
    Yields (resolver.narrow selection compiled) fun narrowed => isOver narrowed table := by
  apply (yields_compiled fails).bind
  intro calls _
  exact yields_narrowAll serves selected calls

theorem yields_openTable (serves : resolver.datastore.Serves isOver isOf)
    (set : settings.tableName = some table) :
    Yields (resolver.openTable settings) fun selection => isOver selection table := by
  rw [openTable, FieldSettings.requireTable_of_set set]
  exact yields_call fun state => serves.openTable table state

theorem yields_openRelated (serves : resolver.datastore.Serves isOver isOf) (row : Row)
    {column : String} (tableSet : settings.tableName = some table)
    (columnSet : settings.referencingColumn = some column) :
    Yields (resolver.openRelated row settings) fun selection => isOver selection table := by
  rw [openRelated, FieldSettings.requireTable_of_set tableSet,
    FieldSettings.requireColumn_of_set columnSet]
  have opened : Yields (attempt (resolver.datastore.openRelated row table column))
      fun selection => isOver selection table := by
    apply yields_attempt
    intro state selection opens
    exact serves.openRelated row table column state selection opens
  apply opened.bind
  intro selection selected
  exact yields_narrowAll serves selected _

/-! ## Rows -/

theorem yields_execute_fetch (serves : resolver.datastore.Serves isOver isOf)
    {selection : Selection} (selected : isOver selection table) :
    Yields (execute resolver.datastore (resolver.datastore.fetch selection))
      fun rows => ∀ row ∈ rows, isOf row table := by
  apply yields_execute
  intro state rows fetched
  exact serves.fetch selection table state rows selected fetched

theorem yields_fetch (serves : resolver.datastore.Serves isOver isOf) {selection : Selection}
    (selected : isOver selection table) (arguments : Arguments) :
    Yields (resolver.fetch selection arguments) fun rows => ∀ row ∈ rows, isOf row table := by
  apply (yields_narrow serves selected (resolver.compiler.failsToCompile_argumentCalls arguments)).bind
  intro narrowed narrowedOver
  exact yields_execute_fetch serves narrowedOver

theorem yields_count (serves : resolver.datastore.Serves isOver isOf) {selection : Selection}
    (selected : isOver selection table) (arguments : Arguments) :
    Yields (resolver.count selection arguments) fun _ => True := by
  apply (yields_narrow serves selected
    (resolver.compiler.failsToCompile_conditionCalls arguments.conditions)).bind
  intro narrowed _
  apply yields_execute
  intro _ _ _
  exact trivial

theorem yields_fetchOne (serves : resolver.datastore.Serves isOver isOf) (row : Row)
    (table column : String) :
    Yields (resolver.fetchOne row table column) fun found => ∀ one ∈ found, isOf one table := by
  have opened : Yields (attempt (resolver.datastore.openReferenced row table column))
      fun selection? => ∀ selection, selection? = some selection → isOver selection table := by
    apply yields_attempt
    intro state selection? opens selection isSome
    rw [isSome] at opens
    exact serves.openReferenced row table column state selection opens
  apply opened.bind
  intro selection? selected
  cases selection? with
  | none =>
      apply yields_pure
      intro one absent
      cases absent
  | some selection =>
      have limited : Yields
          (Resolving.call (resolver.datastore.narrow selection (.limit (some 1) none)))
          fun narrowed => isOver narrowed table :=
        yields_call fun state => serves.narrow selection _ table state (selected selection rfl)
      apply limited.bind
      intro narrowed narrowedOver
      apply (yields_execute_fetch serves narrowedOver).bind
      intro rows ofTable
      apply yields_pure
      intro one isHead
      exact ofTable one (List.mem_of_mem_head? isHead)

theorem yields_belongsTo (serves : resolver.datastore.Serves isOver isOf) (row : Row)
    {column : String} (tableSet : settings.tableName = some table)
    (columnSet : settings.referencingColumn = some column) :
    Yields (resolver.belongsTo row settings) fun found => ∀ one ∈ found, isOf one table := by
  rw [belongsTo, FieldSettings.requireTable_of_set tableSet,
    FieldSettings.requireColumn_of_set columnSet]
  exact yields_fetchOne serves row table column

/-- The row of a polymorphic reference is tagged with the type of its table. -/
theorem yields_morphTo (serves : resolver.datastore.Serves isOver isOf) (row : Row)
    {relation : MorphRelation} (set : settings.morphRelation = some relation) :
    Yields (resolver.morphTo row settings) fun found => ∀ tagged ∈ found,
      ∃ table, resolver.typeNames.lookup table = some tagged.1 ∧ isOf tagged.2 table := by
  rw [morphTo, FieldSettings.requireMorphRelation_of_set set]
  apply yields_lift_ok
  cases stored : (row.value? relation.typeColumn).bind Value.tableName? with
  | none =>
      apply yields_pure
      intro tagged absent
      cases absent
  | some table =>
      dsimp only
      cases known : resolver.typeNames.lookup table with
      | none => exact yields_throw rfl
      | some typeName =>
          apply (yields_fetchOne serves row table relation.idColumn).bind
          intro found ofTable
          apply yields_pure
          intro tagged isTagged
          obtain ⟨one, isFound, rfl⟩ := Option.map_eq_some_iff.mp isTagged
          exact ⟨table, known, ofTable one isFound⟩

end Resolver

/-! ## The database -/

namespace Database

theorem fetchRows_table {database : Database} {table : String} {statement : Statement}
    {rows : List Row} (fetched : database.fetchRows table statement = .ok rows) :
    ∀ row ∈ rows, row.table = table := by
  unfold fetchRows at fetched
  cases parsed : Query.ofStatement statement.text (statement.binds.map Cell.ofValue) with
  | error reason =>
      rw [parsed] at fetched
      cases fetched
  | ok query =>
      rw [parsed] at fetched
      cases answered : database.queryRows query with
      | error reason =>
          change (database.queryRows query >>= _) = _ at fetched
          rw [answered] at fetched
          cases fetched
      | ok answer =>
          change (database.queryRows query >>= _) = _ at fetched
          rw [answered] at fetched
          have listed := Except.ok.inj fetched
          intro row member
          rw [← listed] at member
          obtain ⟨cells, _, rfl⟩ := List.mem_map.mp member
          rfl

/-- The rows of a database are named for the table that was selected. -/
theorem namesTables : Database.datastore.NamesTables := by
  refine ⟨fun selection table => selection.table = table, ?_⟩
  constructor
  · intro table state
    rfl
  · intro row table column database selection opens
    obtain ⟨key, _, rfl⟩ := related_eq_ok opens
    rfl
  · intro row table column database selection opens
    obtain ⟨condition, rfl⟩ := referenced_eq_ok opens
    rfl
  · intro selection call table state selected
    cases call <;> exact selected
  · intro selection table database rows selected fetched
    change (runSelection selection .rows (database.fetchRows selection.table)).1 = _ at fetched
    unfold runSelection at fetched
    cases rendered : selection.execute .rows with
    | mk result next =>
        cases result with
        | error failure =>
            simp only [rendered] at fetched
            cases fetched
        | ok statement =>
            cases run : database.fetchRows selection.table statement with
            | error reason =>
                simp only [rendered, run] at fetched
                cases fetched
            | ok answer =>
                simp only [rendered, run, Except.ok.injEq] at fetched
                rw [← selected, ← fetched]
                exact fetchRows_table run

end Database

end TableGraph
