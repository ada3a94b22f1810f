import TableGraph.Proofs.Database.HeldTables
import TableGraph.Proofs.Resolving.Agreement
import TableGraph.Proofs.Resolving.Yielding

/-!
# Selections over databases that differ in hidden columns

Two databases hold the tables of a structure and differ in hidden columns only.  An untrusted
caller who names shown columns of a held table fetches rows that differ in hidden values only
(`Database.agree_fetch`) and counts the same ones (`Database.agree_count`).  The statements
that are logged for this mention no hidden column.
-/

namespace TableGraph

/-! ## Executing -/

namespace Database

/-- An entry of a log for a statement on a table whose clauses mention no hidden column. -/
def LogsShown (hidden : String → String → Bool) (database : Database) (entry : String) : Prop :=
  ∃ (selection : TableSelection) (head : TableSelection.Head) (statement : Statement)
    (stored : StoredTable),
    selection.IsSlotted ∧ selection.render head = .ok statement ∧
      (entry = statement.text ∨
        ∃ nanoseconds, entry = QueryLog.timedEntry nanoseconds statement.text) ∧
      database.table? selection.table = some stored ∧
      ∀ query, Query.ofStatement statement.text (statement.binds.map Cell.ofValue) = .ok query →
        query.IsOver (stored.definition.Shows hidden) selection.table

/-- Two databases of which statements that mention no hidden column may be logged. -/
def twins (hidden : String → String → Bool) (first second : Database) : Twins Database :=
  ⟨first, second, first.LogsShown hidden⟩

end Database

open TableSelection (Head)

theorem TableSelection.IsShown.logsShown {hidden : String → String → Bool} {database : Database}
    {selection : TableSelection} (isShown : selection.IsShown hidden database) {head : Head}
    (isUsual : head ∈ [Head.rows, .count "*"]) :
    ∃ text, (selection.execute head).2.shown = text ∧ database.LogsShown hidden text ∧
      ∀ nanoseconds, database.LogsShown hidden (QueryLog.timedEntry nanoseconds text) := by
  obtain ⟨statement, stored, rendered, found, _, _, _, isOver⟩ := isShown.exists_statement isUsual
  refine ⟨statement.text, ?_, ?_, fun nanoseconds => ?_⟩
  · rw [execute, shownText, rendered]
  · exact ⟨selection, head, statement, stored, isShown.slotted, rendered, Or.inl rfl, found, isOver⟩
  · exact ⟨selection, head, statement, stored, isShown.slotted, rendered, Or.inr ⟨_, rfl⟩, found,
      isOver⟩

theorem Database.runSelection_snd {Answer : Type} (selection : TableSelection) (head : Head)
    (run : Statement → Except String Answer) :
    (runSelection selection head run).2 = (selection.execute head).2 := by
  rw [runSelection]
  obtain ⟨rendered, executed⟩ := selection.execute head
  cases rendered with
  | error failure => rfl
  | ok statement => cases ran : run statement <;> simp only [ran]

/-- Executions that leave their databases as they are, with the same statement. -/
theorem Resolving.agree_execute {First Second : Type} {related : First → Second → Prop}
    {twins : Twins Database}
    {action : StateM Database (Except StoreFailure First × TableSelection)}
    {other : StateM Database (Except StoreFailure Second × TableSelection)}
    {outcome : Except StoreFailure First} {otherOutcome : Except StoreFailure Second}
    {selection : TableSelection}
    (acts : action twins.first = ((outcome, selection), twins.first))
    (otherActs : other twins.second = ((otherOutcome, selection), twins.second))
    (alike : AlikeOutcomes related outcome otherOutcome)
    (permitted : twins.permits selection.shown)
    (timedPermitted : ∀ nanoseconds,
      twins.permits (QueryLog.timedEntry nanoseconds selection.shown)) :
    Agree twins related (execute Database.datastore action) (execute Database.datastore other) := by
  intro logs
  have called : call action ⟨twins.first, logs⟩ =
      (.ok (outcome, selection), ⟨twins.first, logs⟩) := by rw [call, acts]
  have otherCalled : call other ⟨twins.second, logs⟩ =
      (.ok (otherOutcome, selection), ⟨twins.second, logs⟩) := by rw [call, otherActs]
  rw [execute, execute, bind_of_ok called, bind_of_ok otherCalled]
  cases alike with
  | ok areRelated =>
      exact ⟨_, _, [QueryLog.timedEntry 0 selection.shown], rfl, rfl, .ok areRelated,
        List.forall_mem_singleton.mpr (timedPermitted 0)⟩
  | error failure =>
      exact ⟨_, _, [selection.shown], rfl, rfl, .error (RequestError.execution failure),
        List.forall_mem_singleton.mpr permitted⟩

/-! ## Rows -/

/-- Rows of a table that differ in hidden values only. -/
structure AlikeRows (hidden : String → String → Bool) (table : String) (rows others : List Row) :
    Prop where
  alike : rows.map (Row.veiled hidden) = others.map (Row.veiled hidden)
  ofTable : ∀ row ∈ rows, row.table = table

/-- A row of a table, if any, that differs in hidden values only. -/
structure AlikeRow (hidden : String → String → Bool) (table : String) (found others : Option Row) :
    Prop where
  alike : found.map (Row.veiled hidden) = others.map (Row.veiled hidden)
  ofTable : ∀ row ∈ found, row.table = table

/-- The rows are alike one by one. -/
theorem AlikeRows.forall₂ {hidden : String → String → Bool} {table : String}
    {rows others : List Row} (areAlike : AlikeRows hidden table rows others) :
    List.Forall₂ (fun row other => row.table = table ∧ row.veiled hidden = other.veiled hidden)
      rows others := by
  have same := areAlike.alike
  rw [← List.forall₂_eq_eq_eq, List.forall₂_map_left_iff, List.forall₂_map_right_iff] at same
  exact (List.forall₂_and_left _ _).mpr ⟨areAlike.ofTable, same⟩

theorem AlikeRows.head? {hidden : String → String → Bool} {table : String} {rows others : List Row}
    (areAlike : AlikeRows hidden table rows others) :
    AlikeRow hidden table rows.head? others.head? where
  alike := by rw [← List.head?_map, areAlike.alike, List.head?_map]
  ofTable row isHead := areAlike.ofTable row (List.mem_of_mem_head? isHead)

namespace Database

variable {configuration : Configuration} {described : Structure} {first second : Database}
  {depth : Nat} {typeNames : List (String × String)} {table : String} {arguments : Arguments}
  {conditions : List (String × Value)}

theorem agree_narrow {twins : Twins Database} (selection : TableSelection)
    (compiled : Except RequestError (List Narrowing)) :
    Agree twins
      (fun narrowed other => narrowed = other ∧
        ∃ calls, compiled = .ok calls ∧ narrowed = calls.foldl TableSelection.narrow selection)
      ((resolver ⟨false, depth⟩ typeNames).narrow selection compiled)
      ((resolver ⟨false, depth⟩ typeNames).narrow selection compiled) := by
  refine Agree.of_results ?_ (fun _ => narrow_eq selection compiled)
    fun _ => narrow_eq selection compiled
  cases compiled with
  | error failure => exact .error failure
  | ok calls => exact .ok ⟨rfl, calls, rfl, rfl⟩

/-! ## References -/

/-- The rows that reference a row are opened through its key, which is not hidden. -/
theorem openedRelated_congr (holds : first.Holds described)
    (alike : first.veiled (configuration.hides described) =
      second.veiled (configuration.hides described)) {settings : FieldSettings} {row other : Row}
    (sameRow : row.veiled (configuration.hides described) =
      other.veiled (configuration.hides described))
    (isDescribed : ∃ owner ∈ described.tables, owner.name = row.table) :
    first.openedRelated row settings = second.openedRelated other settings := by
  have sameTable := Row.table_congr sameRow
  have sameKey : first.primaryKey row.table = second.primaryKey other.table := by
    rw [primaryKey_congr alike, sameTable]
  have sameRelated (table column : String) :
      first.related row table column = second.related other table column := by
    rw [related, related, ← sameKey]
    cases isKey : first.primaryKey row.table with
    | error failure => rfl
    | ok key =>
        have spares : configuration.Spares described row.table key :=
          holds.spares_primaryKey isDescribed isKey
        rw [Except.map, Except.map, Row.value?_congr sameRow spares.shown]
  simp only [openedRelated, sameRelated, sameTable]

/-- The row that a row references is opened by the value of a column that is not hidden. -/
theorem referenced_congr
    (alike : first.veiled (configuration.hides described) =
      second.veiled (configuration.hides described)) {row other : Row} {column : String}
    (sameRow : row.veiled (configuration.hides described) =
      other.veiled (configuration.hides described))
    (shown : configuration.hides described row.table column = false) (target : String) :
    first.referenced row target column = second.referenced other target column := by
  rw [referenced, referenced, Row.value?_congr sameRow shown, primaryKey_congr alike]

/-! ## Selections -/

section Selecting

variable (holds : first.Holds described) (separates : configuration.SeparatesNames described)
  (indexed : first.IndexesShown described (configuration.hides described))
  (alike : first.veiled (configuration.hides described) =
    second.veiled (configuration.hides described))
  (isDescribed : ∃ other ∈ described.tables, other.name = table)
  (tableUndotted : IsUndotted table)
  (spared : ∀ condition ∈ conditions, configuration.Spares described table condition.1)

include holds separates indexed alike isDescribed tableUndotted spared

/-- What is fetched of a held table differs in hidden values only. -/
theorem agree_executeFetch {calls : List Narrowing}
    (compiled : (⟨false, depth⟩ : Compiler).argumentCalls arguments = .ok calls)
    (shown : ∀ name ∈ arguments.restrictingNames ++ arguments.orderNames,
      configuration.ShowsName described table name) :
    let selection := calls.foldl TableSelection.narrow
      ((TableSelection.ofTable table).behind (conditions.map Fragment.equality))
    Agree (twins (configuration.hides described) first second)
      (AlikeRows (configuration.hides described) table)
      (Resolving.execute datastore (datastore.fetch selection))
      (Resolving.execute datastore (datastore.fetch selection)) := by
  intro selection
  have isShown : selection.IsShown (configuration.hides described) first :=
    TableSelection.IsShown.of_calls holds separates indexed isDescribed tableUndotted compiled shown
      spared
  have isTable : selection.table = table := by
    obtain ⟨filter, having, _, _, narrowed⟩ := Compiler.foldl_argumentCalls compiled table
    change (calls.foldl TableSelection.narrow ((TableSelection.ofTable table).behind _)).table = _
    rw [TableSelection.foldl_narrow_behind, narrowed]
    rfl
  have sameRows := (Prod.mk.inj (isShown.fetch_alike alike)).1
  have fetched (database : Database) : datastore.fetch selection database =
      (((datastore.fetch selection database).1.1, (selection.execute .rows).2), database) :=
    congrArg (fun executed => (((datastore.fetch selection database).1.1, executed), database))
      (runSelection_snd selection .rows (database.fetchRows selection.table))
  have named : ∀ rows, (datastore.fetch selection first).1.1 = .ok rows →
      ∀ row ∈ rows, row.table = table := by
    intro rows isRows row member
    exact (isShown.fetch_table isRows row member).trans isTable
  have areAlike := (alikeOutcomes_of_map sameRows).with_first named
  obtain ⟨_, rfl, permitted, timedPermitted⟩ := isShown.logsShown List.mem_cons_self
  exact Resolving.agree_execute (fetched first) (fetched second)
    (areAlike.mono fun _ _ both => ⟨both.1, both.2⟩) permitted timedPermitted

theorem agree_executeCount {calls : List Narrowing}
    (compiled : (⟨false, depth⟩ : Compiler).argumentCalls arguments = .ok calls)
    (shown : ∀ name ∈ arguments.restrictingNames ++ arguments.orderNames,
      configuration.ShowsName described table name) :
    let selection := calls.foldl TableSelection.narrow
      ((TableSelection.ofTable table).behind (conditions.map Fragment.equality))
    Agree (twins (configuration.hides described) first second) (· = ·)
      (Resolving.execute datastore (datastore.count selection "*"))
      (Resolving.execute datastore (datastore.count selection "*")) := by
  intro selection
  have isShown : selection.IsShown (configuration.hides described) first :=
    TableSelection.IsShown.of_calls holds separates indexed isDescribed tableUndotted compiled shown
      spared
  have sameCount := congrArg Prod.fst (isShown.count_alike alike)
  have counted (database : Database) : datastore.count selection "*" database =
      (((datastore.count selection "*" database).1.1, (selection.execute (.count "*")).2),
        database) :=
    congrArg (fun executed => (((datastore.count selection "*" database).1.1, executed), database))
      (runSelection_snd selection (.count "*") database.fetchNumber)
  have alikeCounts : AlikeOutcomes (· = ·) (datastore.count selection "*" first).1.1
      (datastore.count selection "*" second).1.1 := by
    rw [sameCount]
    exact alikeOutcomes_refl _
  obtain ⟨_, rfl, permitted, timedPermitted⟩ :=
    isShown.logsShown (List.mem_cons_of_mem _ List.mem_cons_self)
  exact Resolving.agree_execute (counted first) (counted second) alikeCounts permitted timedPermitted

/-- An untrusted caller who names shown columns fetches rows that differ in hidden values
only. -/
theorem agree_fetch
    (shown : ∀ name ∈ arguments.restrictingNames ++ arguments.orderNames,
      configuration.ShowsName described table name) :
    let selection := (TableSelection.ofTable table).behind (conditions.map Fragment.equality)
    Agree (twins (configuration.hides described) first second)
      (AlikeRows (configuration.hides described) table)
      ((resolver ⟨false, depth⟩ typeNames).fetch selection arguments)
      ((resolver ⟨false, depth⟩ typeNames).fetch selection arguments) := by
  intro selection
  refine (agree_narrow selection _).bind fun narrowed other same => ?_
  obtain ⟨rfl, calls, compiled, rfl⟩ := same
  exact agree_executeFetch holds separates indexed alike isDescribed tableUndotted spared compiled shown

/-- An untrusted caller who names shown columns counts the same rows. -/
theorem agree_count
    (shown : ∀ name ∈ arguments.restrictingNames, configuration.ShowsName described table name) :
    let selection := (TableSelection.ofTable table).behind (conditions.map Fragment.equality)
    Agree (twins (configuration.hides described) first second) (· = ·)
      ((resolver ⟨false, depth⟩ typeNames).count selection arguments)
      ((resolver ⟨false, depth⟩ typeNames).count selection arguments) := by
  intro selection
  refine (agree_narrow selection _).bind fun narrowed other same => ?_
  obtain ⟨rfl, calls, compiled, rfl⟩ := same
  have counts : (⟨false, depth⟩ : Compiler).argumentCalls ⟨none, [], arguments.conditions⟩ =
      .ok calls := (Compiler.conditionCalls_eq _ _).symm.trans compiled
  refine agree_executeCount holds separates indexed alike isDescribed tableUndotted spared counts
    fun name isName => shown name ?_
  simpa [Arguments.restrictingNames, Arguments.orderNames] using isName

end Selecting

end Database

end TableGraph
