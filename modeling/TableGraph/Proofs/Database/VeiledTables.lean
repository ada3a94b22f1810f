import TableGraph.Database.Basic
import TableGraph.Proofs.Database.Veiled

/-!
# Veiled tables

A veiled database has null in the hidden columns of its tables.  When no index of a table
holds a hidden column, a statement whose clauses name columns that are shown finds the same
rows there in the same order, but for the hidden values, and the same number of them
(`Database.fetchRows_veiled`, `Database.fetchNumber_veiled`).
-/

namespace TableGraph

open SqlToken (sameName)

variable {hidden : String → String → Bool}

/-! ## Veils -/

/-- A value, or null when its column is hidden. -/
def Row.veiledEntry (hidden : String → String → Bool) (table : String) (entry : String × Value) :
    String × Value :=
  (entry.1, if hidden table entry.1 then .null else entry.2)

/-- A row with null in place of the values of hidden columns. -/
def Row.veiled (hidden : String → String → Bool) (row : Row) : Row :=
  { row with values := row.values.map (Row.veiledEntry hidden row.table) }

/-- Whether a hidden column stands at a position. -/
def TableDefinition.hides (hidden : String → String → Bool) (table : TableDefinition)
    (position : Nat) : Bool :=
  (table.columns[position]?).any fun column => hidden table.name column.name

/-- A name that is not the one of a hidden column. -/
def TableDefinition.Shows (hidden : String → String → Bool) (table : TableDefinition)
    (name : String) : Prop :=
  ∀ column ∈ table.columns, hidden table.name column.name = true →
    sameName column.name name = false

def StoredTable.veiled (hidden : String → String → Bool) (table : StoredTable) : StoredTable :=
  { table with rows := table.rows.map fun row =>
      { row with cells := row.cells.veiled (table.definition.hides hidden) } }

def Database.veiled (hidden : String → String → Bool) (database : Database) : Database :=
  { database with tables := database.tables.map (StoredTable.veiled hidden) }

/-- An engine that goes through the rows of a table, and through their groups, in an order
that no hidden column has a part in. -/
def Database.VisitsShown (hidden : String → String → Bool) (database : Database)
    (table : TableDefinition) : Prop :=
  ∀ position ∈ database.rowOrder.positions table ++ database.groupOrder.positions table,
    table.hides hidden position = false

/-- The rows of a table have a cell for each column. -/
def StoredTable.HasWidth (table : StoredTable) : Prop :=
  ∀ row ∈ table.rows, row.cells.length = table.definition.columns.length

/-! ## Rows -/

namespace Row

theorem insertPair_veiledEntry (table key : String) (value : Value)
    (entries : List (String × Value)) :
    insertPair key (veiledEntry hidden table (key, value)).2
        (entries.map (veiledEntry hidden table)) =
      (insertPair key value entries).map (veiledEntry hidden table) := by
  induction entries with
  | nil => rfl
  | cons entry rest inductionHypothesis =>
      obtain ⟨other, held⟩ := entry
      rw [List.map_cons, insertPair.eq_def, insertPair.eq_def key value]
      simp only [veiledEntry] at inductionHypothesis ⊢
      split
      · rfl
      · rw [inductionHypothesis]
        rfl

theorem veiled_ofValues (table : String) (values : List (String × Value)) :
    (ofValues table values).veiled hidden =
      ofValues table (values.map (veiledEntry hidden table)) := by
  have inserted (built : List (String × Value)) :
      (values.map (veiledEntry hidden table)).foldl
          (fun built entry => insertPair entry.1 entry.2 built)
          (built.map (veiledEntry hidden table)) =
        (values.foldl (fun built entry => insertPair entry.1 entry.2 built) built).map
          (veiledEntry hidden table) := by
    induction values generalizing built with
    | nil => rfl
    | cons entry rest inductionHypothesis =>
        rw [List.map_cons, List.foldl_cons, List.foldl_cons, ← inductionHypothesis,
          ← insertPair_veiledEntry]
        rfl
  exact congrArg (Row.mk table) (inserted []).symm

theorem value?_veiled (row : Row) (column : String) :
    (row.veiled hidden).value? column =
      (row.value? column).map fun value => if hidden row.table column then .null else value := by
  have looked (entries : List (String × Value)) :
      (entries.map (veiledEntry hidden row.table)).lookup column =
        (entries.lookup column).map fun value =>
          if hidden row.table column then .null else value := by
    induction entries with
    | nil => rfl
    | cons entry rest inductionHypothesis =>
        obtain ⟨other, held⟩ := entry
        rw [List.map_cons, veiledEntry, List.lookup_cons, List.lookup_cons, inductionHypothesis]
        by_cases same : column == other
        · rw [eq_of_beq same]
          simp
        · simp [same]
  exact looked row.values

theorem table_congr {row other : Row} (alike : row.veiled hidden = other.veiled hidden) :
    row.table = other.table := by
  have same : (row.veiled hidden).table = (other.veiled hidden).table := by rw [alike]
  exact same

/-- Rows that differ in hidden columns only have the same values of the others. -/
theorem value?_congr {row other : Row} (alike : row.veiled hidden = other.veiled hidden)
    {column : String} (shown : hidden row.table column = false) :
    row.value? column = other.value? column := by
  have sameTable := table_congr alike
  have same := congrArg (fun row : Row => row.value? column) alike
  simp only [value?_veiled] at same
  rw [← sameTable, shown] at same
  simpa using same

end Row

/-! ## Tables -/

namespace TableDefinition

variable {table : TableDefinition}

theorem hides_length (table : TableDefinition) : table.hides hidden table.columns.length = false := by
  simp [hides]

/-- The shown names of a table stand for columns that are not hidden. -/
theorem places_scope (table : TableDefinition) :
    table.scope.Places (table.Shows hidden) fun position => table.hides hidden position = false := by
  intro name term shown found
  rw [Scope.column?] at found
  split at found
  · next position isPosition =>
      obtain ⟨column, isColumn, rfl⟩ := Option.map_eq_some_iff.mp found
      obtain ⟨definition, isDefinition, rfl⟩ :
          ∃ definition, table.columns[position]? = some definition ∧
            (definition.name, definition.kind) = column := by
        rw [scope, List.getElem?_map] at isColumn
        exact Option.map_eq_some_iff.mp isColumn
      refine .column _ ?_
      obtain ⟨inside, same, _⟩ := List.findIdx?_eq_some_iff_getElem.mp isPosition
      have isSame : sameName definition.name name = true := by
        have held := List.getElem?_eq_getElem inside
        rw [isColumn] at held
        rw [← Option.some.inj held] at same
        exact same
      have notHidden : hidden table.name definition.name = false := by
        by_contra isHidden
        have differs := shown definition (List.mem_of_getElem? isDefinition)
          (Bool.eq_true_of_not_eq_false isHidden)
        rw [isSame] at differs
        cases differs
      simp [hides, isDefinition, notHidden]
  · split at found
    · cases found
      refine .column _ ?_
      rw [show table.scope.columns.length = table.columns.length from List.length_map _]
      exact table.hides_length
    · cases found

end TableDefinition

namespace StoredTable

variable {table : StoredTable}

theorem visible_veiled {row : StoredRow} (width : row.cells.length = table.definition.columns.length) :
    StoredRow.visible { row with cells := row.cells.veiled (table.definition.hides hidden) } =
      row.visible.veiled (table.definition.hides hidden) := by
  have last : table.definition.hides hidden row.cells.length = false := by
    rw [width]
    exact table.definition.hides_length
  simp [StoredRow.visible, Cells.veiled, List.mapIdx_append, last]

theorem HasWidth.visible (hasWidth : table.HasWidth) :
    (table.veiled hidden).rows.map StoredRow.visible =
      (table.rows.map StoredRow.visible).map (Cells.veiled (table.definition.hides hidden)) := by
  rw [veiled, List.map_map, List.map_map]
  exact List.map_congr_left fun row member => visible_veiled (hasWidth row member)

end StoredTable

/-! ## Databases -/

namespace Database

variable {database : Database} {table : String} {stored : StoredTable}

theorem table?_veiled (hidden : String → String → Bool) (database : Database) (table : String) :
    (database.veiled hidden).table? table = (database.table? table).map (StoredTable.veiled hidden) :=
  List.find?_map

theorem primaryKey_veiled (hidden : String → String → Bool) (database : Database) (table : String) :
    (database.veiled hidden).primaryKey table = database.primaryKey table := by
  have keys :
      (((database.veiled hidden).table? table).map fun stored => stored.definition.keyNames) =
        (database.table? table).map fun stored => stored.definition.keyNames := by
    rw [table?_veiled, Option.map_map]
    rfl
  have present :
      ((database.veiled hidden).tables.any fun stored => stored.definition.name == table) =
        database.tables.any fun stored => stored.definition.name == table := by
    rw [veiled, List.any_map]
    rfl
  rw [primaryKey, primaryKey, keys, present]

/-- Databases that differ in hidden columns only have the same keys. -/
theorem primaryKey_congr {other : Database}
    (alike : database.veiled hidden = other.veiled hidden) (table : String) :
    database.primaryKey table = other.primaryKey table := by
  rw [← primaryKey_veiled hidden database, alike, primaryKey_veiled]

theorem source?_of_table? (found : database.table? table = some stored) :
    database.source? table = some (stored.definition.scope, stored.rows.map StoredRow.visible) := by
  rw [source?, found]

theorem source?_veiled (found : database.table? table = some stored) (hasWidth : stored.HasWidth) :
    (database.veiled hidden).source? table =
      some (stored.definition.scope, (stored.rows.map StoredRow.visible).map
        (Cells.veiled (stored.definition.hides hidden))) := by
  have foundVeiled : (database.veiled hidden).table? table = some (stored.veiled hidden) := by
    rw [table?_veiled, found]
    rfl
  rw [source?_of_table? foundVeiled, hasWidth.visible]
  rfl

/-! ### Orders of rows -/

section Visiting

variable {clauses : SelectClauses} (found : database.table? clauses.table = some stored)
  (visits : database.VisitsShown hidden stored.definition)

include found visits

theorem visited_veiled (result : Option SqlExpression) (rows : List Cells) :
    (database.veiled hidden).visited clauses result
        (rows.map (Cells.veiled (stored.definition.hides hidden))) =
      (database.visited clauses result rows).map
        (Cells.veiled (stored.definition.hides hidden)) := by
  rw [visited, visited, table?_veiled, found]
  exact VisitOrder.arrange_map fun row _ =>
    Cells.cellsAt_veiled (fun position member => visits position (List.mem_append_left _ member)) row

theorem visitedGroups_veiled (result : Option SqlExpression) (groups : List SelectedRow) :
    (database.veiled hidden).visitedGroups clauses result
        (groups.map (SelectedRow.veiled (stored.definition.hides hidden))) =
      (database.visitedGroups clauses result groups).map
        (SelectedRow.veiled (stored.definition.hides hidden)) := by
  rw [visitedGroups, visitedGroups, table?_veiled, found]
  exact VisitOrder.arrange_map fun group _ => Cells.cellsAt_veiled
    (fun position member => visits position (List.mem_append_right _ member)) group.cells

end Visiting

/-! ## Statements -/

theorem columnNames_of_table? (found : database.table? table = some stored) :
    database.columnNames table = stored.definition.columns.map ColumnDefinition.name := by
  rw [columnNames, source?_of_table? found]
  simp [TableDefinition.scope]

theorem zip_veiled (hidden : String → String → Bool) (definition : TableDefinition) (cells : Cells) :
    (definition.columns.map ColumnDefinition.name).zip
        ((cells.veiled (definition.hides hidden)).map Cell.toValue) =
      ((definition.columns.map ColumnDefinition.name).zip (cells.map Cell.toValue)).map
        (Row.veiledEntry hidden definition.name) := by
  refine List.ext_getElem? fun position => ?_
  simp only [List.getElem?_map, List.zip, List.getElem?_zipWith,
    Cells.getElem?_veiled]
  cases isColumn : definition.columns[position]? with
  | none => rfl
  | some column =>
      cases cells[position]? with
      | none => rfl
      | some cell =>
          cases isHidden : hidden definition.name column.name <;>
            simp [TableDefinition.hides, isColumn, isHidden, Row.veiledEntry, Cell.toValue]

variable (found : database.table? table = some stored) (hasWidth : stored.HasWidth)
  (visits : database.VisitsShown hidden stored.definition) {statement : Statement}

include found hasWidth visits

theorem select_shown {clauses : SelectClauses} (isTable : clauses.table = table)
    (columns : clauses.ColumnsIn (stored.definition.Shows hidden)) (result : Option SqlExpression)
    (resultColumns : ∀ one ∈ result, one.ColumnsIn (stored.definition.Shows hidden)) :
    (database.veiled hidden).select clauses result =
      (database.select clauses result).map (List.map fun cells =>
        if result.isSome then cells else cells.veiled (stored.definition.hides hidden)) := by
  rw [← isTable] at found
  exact select_veiled stored.definition.places_scope columns resultColumns
    (source?_of_table? found) (source?_veiled found hasWidth) (visited_veiled found visits result _)
    (visitedGroups_veiled found visits result)

/-- A statement over shown columns fetches the same rows, but for the hidden values. -/
theorem fetchRows_veiled (isNamed : stored.definition.name = table)
    (isOver : ∀ query, Query.ofStatement statement.text (statement.binds.map Cell.ofValue) =
      .ok query → query.IsOver (stored.definition.Shows hidden) table) :
    (database.veiled hidden).fetchRows table statement =
      (database.fetchRows table statement).map (List.map (Row.veiled hidden)) := by
  rw [fetchRows, fetchRows]
  cases read : Query.ofStatement statement.text (statement.binds.map Cell.ofValue) with
  | error reason => rfl
  | ok query =>
      have foundVeiled : (database.veiled hidden).table? table = some (stored.veiled hidden) := by
        rw [table?_veiled, found]
        rfl
      cases isOver query read with
      | count isTable columns => rfl
      | rowCount isTable columns => rfl
      | @rows clauses isTable columns =>
          have selected := select_shown found hasWidth visits isTable columns none (by simp)
          have names := columnNames_of_table? found
          have veiledNames : (database.veiled hidden).columnNames table =
              stored.definition.columns.map ColumnDefinition.name :=
            (columnNames_of_table? foundVeiled).trans rfl
          simp only [queryRows, isTable, selected, names, veiledNames, bind, Except.bind, pure,
            Except.pure]
          cases database.select clauses none with
          | error reason => rfl
          | ok rows =>
              have shown (cells : Cells) := zip_veiled hidden stored.definition cells
              simp [Except.map, Row.veiled_ofValues, ← isNamed, shown]

/-- A statement over shown columns counts the same rows. -/
theorem fetchNumber_veiled
    (isOver : ∀ query, Query.ofStatement statement.text (statement.binds.map Cell.ofValue) =
      .ok query → query.IsOver (stored.definition.Shows hidden) table) :
    (database.veiled hidden).fetchNumber statement = database.fetchNumber statement := by
  rw [fetchNumber, fetchNumber]
  cases read : Query.ofStatement statement.text (statement.binds.map Cell.ofValue) with
  | error reason => rfl
  | ok query =>
      cases isOver query read with
      | rows isTable columns => rfl
      | @count clauses isTable columns =>
          have counted := select_shown found hasWidth visits isTable columns (some .countAll)
            fun one isOne => Option.some.inj isOne ▸ .countAll
          simp only [queryNumber, counted, bind, Except.bind, Option.isSome_some, if_true]
          cases database.select clauses (some .countAll) <;> simp [Except.map]
      | @rowCount clauses isTable columns =>
          have selected := select_shown found hasWidth visits isTable columns none (by simp)
          simp only [queryNumber, selected, bind, Except.bind]
          cases database.select clauses none <;> simp [Except.map]

end Database

end TableGraph
