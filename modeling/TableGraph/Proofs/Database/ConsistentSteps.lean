import TableGraph.Proofs.Database.TableNames

/-!
# Databases that scripts make

Tables are defined without rows, a change of rows leaves no reference dangling, and a column
that is added leaves all cells where they are.  So every step keeps a database consistent
(`Database.IsConsistent.step`), and every database that scripts make is consistent
(`Database.isConsistent_executeScripts`).
-/

namespace TableGraph

open SqlToken (sameName)

/-! ## Extended tables -/

namespace TableDefinition

variable {table extended : TableDefinition} {names : List String} {positions : List Nat}
  {position : Nat} {name : String}

theorem lt_of_position? (known : table.position? name = some position) :
    position < table.columns.length :=
  (List.findIdx?_eq_some_iff_getElem.mp known).1

theorem isSome_of_positions? (known : table.positions? names = some positions) :
    ∀ name ∈ names, (table.position? name).isSome = true := by
  induction names generalizing positions with
  | nil => exact fun _ member => absurd member List.not_mem_nil
  | cons head tail inductionHypothesis =>
      rw [positions?, List.mapM_cons] at known
      obtain ⟨first, isFirst, known⟩ := Option.bind_eq_some_iff.mp known
      obtain ⟨later, areLater, _⟩ := Option.bind_eq_some_iff.mp known
      exact List.forall_mem_cons.mpr ⟨isFirst ▸ rfl, inductionHypothesis areLater⟩

theorem filterMap_of_positions? (known : table.positions? names = some positions) :
    names.filterMap table.position? = positions :=
  Option.some.inj ((positions?_eq_some (isSome_of_positions? known)).symm.trans known)

theorem lt_of_positions? (known : table.positions? names = some positions)
    (member : position ∈ positions) : position < table.columns.length := by
  rw [← filterMap_of_positions? known] at member
  obtain ⟨name, _, isPosition⟩ := List.mem_filterMap.mp member
  exact lt_of_position? isPosition

/-- What a row holds in the columns of a key depends on these columns and cells only. -/
theorem keyCells_congr {left right : Cells}
    (columns : ∀ position ∈ positions, extended.columns[position]? = table.columns[position]?)
    (cells : ∀ position ∈ positions, left[position]? = right[position]?) :
    extended.keyCells positions left = table.keyCells positions right := by
  refine List.map_congr_left fun position member => ?_
  rw [collationAt, columns position member, cells position member]
  rfl

end TableDefinition

namespace StoredTable

variable {table extended : StoredTable}

/-- A table has the columns of another one at their places, and for each row of the other one
a row with the same cells there. -/
structure Extends (extended table : StoredTable) : Prop where
  key : extended.definition.primaryKey = table.definition.primaryKey
  position : ∀ name position, table.definition.position? name = some position →
    extended.definition.position? name = some position
  column : ∀ position < table.definition.columns.length,
    extended.definition.columns[position]? = table.definition.columns[position]?
  row : ∀ row ∈ table.rows, ∃ other ∈ extended.rows,
    ∀ position < table.definition.columns.length, other.cells[position]? = row.cells[position]?

theorem Extends.refl (table : StoredTable) : table.Extends table :=
  ⟨rfl, fun _ _ known => known, fun _ _ => rfl, fun row member => ⟨row, member, fun _ _ => rfl⟩⟩

theorem Extends.filterMap_position? (wider : extended.Extends table) {names : List String}
    (known : ∀ name ∈ names, (table.definition.position? name).isSome = true) :
    names.filterMap extended.definition.position? = names.filterMap table.definition.position? := by
  refine List.filterMap_congr fun name among => ?_
  obtain ⟨position, isPosition⟩ := Option.isSome_iff_exists.mp (known name among)
  rw [isPosition, wider.position name position isPosition]

theorem Extends.isSome_position? (wider : extended.Extends table) {name : String}
    (known : (table.definition.position? name).isSome = true) :
    (extended.definition.position? name).isSome = true := by
  obtain ⟨position, isPosition⟩ := Option.isSome_iff_exists.mp known
  rw [wider.position name position isPosition]
  rfl

/-- Known columns have the same places in a wider table. -/
theorem Extends.positions? (wider : extended.Extends table) {names : List String}
    {positions : List Nat} (known : table.definition.positions? names = some positions) :
    extended.definition.positions? names = some positions := by
  have each := TableDefinition.isSome_of_positions? known
  rw [TableDefinition.positions?_eq_some fun name among => wider.isSome_position? (each name among),
    wider.filterMap_position? each, TableDefinition.filterMap_of_positions? known]

variable {draft : ColumnDraft}

/-- An added column leaves the others at their places. -/
theorem extends_extend (consistent : table.IsConsistent) (draft : ColumnDraft) :
    (table.extend draft).Extends table where
  key := rfl
  position name position known := by
    rw [TableDefinition.position?, extend, List.findIdx?_append]
    exact Option.or_eq_some_iff.mpr (Or.inl known)
  column position inside := List.getElem?_append_left inside
  row row isRow := by
    refine ⟨_, List.mem_map_of_mem isRow, fun position inside => ?_⟩
    exact List.getElem?_append_left (consistent.width row isRow ▸ inside)

theorem position?_extend (fresh : table.definition.position? draft.column.name = none) :
    (table.extend draft).definition.position? draft.column.name =
      some table.definition.columns.length := by
  rw [TableDefinition.position?, extend, List.findIdx?_append, Option.or_eq_some_iff]
  refine Or.inr ⟨fresh, ?_⟩
  rw [List.findIdx?_cons, SqlToken.sameName_iff.mpr rfl, if_pos rfl, Option.map_some, Nat.zero_add]

/-- A key of known columns has the same places with another column. -/
theorem keys_extend (consistent : table.IsConsistent) (draft : ColumnDraft) :
    (table.extend draft).keys = table.keys := by
  refine List.filterMap_congr fun key member => ?_
  have known : ∀ name ∈ key, (table.definition.position? name).isSome = true := by
    intro name among
    refine consistent.known name (List.mem_append_left _ ?_)
    rcases List.mem_cons.mp member with rfl | isUnique
    · exact List.mem_append_left _ among
    · exact List.mem_append_right _ (List.mem_flatten.mpr ⟨key, isUnique, among⟩)
  have positions := TableDefinition.positions?_eq_some known
  rw [positions, (extends_extend consistent draft).positions? positions]

theorem lt_of_mem_keys {key : List Nat} (isKey : key ∈ table.keys) {position : Nat}
    (member : position ∈ key) : position < table.definition.columns.length := by
  obtain ⟨names, _, known⟩ := List.mem_filterMap.mp isKey
  exact TableDefinition.lt_of_positions? (Option.filter_eq_some_iff.mp known).1 member

/-- A consistent table stays consistent when a column is added. -/
theorem IsConsistent.extend (consistent : table.IsConsistent)
    (fresh : table.definition.position? draft.column.name = none) :
    (table.extend draft).IsConsistent := by
  have wider := extends_extend consistent draft
  have width : ∀ row ∈ table.rows, row.cells.length = table.definition.columns.length :=
    consistent.width
  refine ⟨?distinct, ?known, ?width, ?stored, ?keys⟩
  case distinct =>
    rw [TableDraft.distinctNames_iff, StoredTable.extend, List.map_append, List.pairwise_append]
    refine ⟨TableDraft.distinctNames_iff.mp consistent.distinct, List.pairwise_singleton _ _, ?_⟩
    intro name member added isAdded
    obtain ⟨column, isColumn, rfl⟩ := List.mem_map.mp member
    rw [List.map_singleton, List.mem_singleton] at isAdded
    rw [isAdded]
    exact List.findIdx?_eq_none_iff.mp fresh column isColumn
  case known =>
    intro name among
    rw [TableDefinition.keyColumns, StoredTable.extend, List.flatMap_append, ← List.append_assoc,
      List.mem_append] at among
    rcases among with before | added
    · exact wider.isSome_position? (consistent.known name before)
    · obtain ⟨foreignKey, isAdded, isColumn⟩ := List.mem_flatMap.mp added
      obtain ⟨reference, _, rfl⟩ := List.mem_map.mp isAdded
      rw [List.mem_singleton.mp isColumn, position?_extend fresh]
      rfl
  case width =>
    refine List.forall_mem_map.mpr fun row isRow => ?_
    rw [List.length_append, width row isRow, StoredTable.extend, List.length_append]
    rfl
  case stored =>
    refine List.forall_mem_map.mpr fun row isRow => ?_
    have before : table.storeCells row.cells = row.cells := consistent.stored row isRow
    rw [storeCells, StoredTable.extend, List.zipWith_append (width row isRow).symm]
    refine congr_arg₂ _ before ?_
    rw [List.zipWith_cons_cons, draft.column.store_store]
    rfl
  case keys =>
    intro key isKey
    -- no key reads the added cell, so rows that differed in one still do
    rw [keys_extend consistent draft] at isKey
    refine List.pairwise_map.mpr ((consistent.keys key isKey).imp_of_mem ?_)
    intro left right isLeft isRight apart
    have same {row : StoredRow} (isRow : row ∈ table.rows) :
        (table.extend draft).definition.keyCells key
            (row.cells ++ [draft.column.store draft.column.initial]) =
          table.definition.keyCells key row.cells := by
      refine TableDefinition.keyCells_congr
        (fun position member => wider.column position (lt_of_mem_keys isKey member))
        (fun position member => List.getElem?_append_left ?_)
      exact width row isRow ▸ lt_of_mem_keys isKey member
    rw [agree, same isLeft, same isRight]
    exact apart

/-- A foreign key refers with the same cells when a column is added. -/
theorem cellsAt_extend (consistent : table.IsConsistent) (draft : ColumnDraft)
    {foreignKey : ForeignKey} (declared : foreignKey ∈ table.definition.foreignKeys)
    {row : StoredRow} (isRow : row ∈ table.rows) :
    cellsAt (foreignKey.columns.filterMap (table.extend draft).definition.position?)
        (row.cells ++ [draft.column.store draft.column.initial]) =
      cellsAt (foreignKey.columns.filterMap table.definition.position?) row.cells := by
  have known : ∀ name ∈ foreignKey.columns, (table.definition.position? name).isSome = true :=
    fun name among => consistent.known name
      (List.mem_append_right _ (List.mem_flatMap.mpr ⟨foreignKey, declared, among⟩))
  rw [(extends_extend consistent draft).filterMap_position? known]
  refine List.map_congr_left fun position member => ?_
  obtain ⟨name, _, known⟩ := List.mem_filterMap.mp member
  have inside : position < row.cells.length :=
    consistent.width row isRow ▸ TableDefinition.lt_of_position? known
  rw [List.getElem?_append_left inside]

end StoredTable

/-! ## References -/

namespace Database

variable {database changed : Database} {table filled : StoredTable} {foreignKey : ForeignKey}

/-- Every table that is found in a database is found in another one with all it had. -/
def FoundWider (database changed : Database) : Prop :=
  ∀ name found, database.table? name = some found →
    ∃ other, changed.table? name = some other ∧ other.Extends found

/-- A reference that leads to a row leads to it in wider tables. -/
theorem FoundWider.satisfies (wider : database.FoundWider changed)
    {definition extended : TableDefinition} {row other : StoredRow}
    (same : StoredTable.cellsAt (foreignKey.columns.filterMap extended.position?) other.cells =
      StoredTable.cellsAt (foreignKey.columns.filterMap definition.position?) row.cells)
    (satisfied : database.satisfies definition foreignKey row = true) :
    changed.satisfies extended foreignKey other = true := by
  rw [Database.satisfies, same]
  rw [Database.satisfies] at satisfied
  obtain hasNull | leads := Bool.or_eq_true_iff.mp satisfied
  · exact Bool.or_eq_true_iff.mpr (Or.inl hasNull)
  refine Bool.or_eq_true_iff.mpr (Or.inr ?_)
  cases target : database.target? foreignKey with
  | none =>
      rw [target] at leads
      cases leads
  | some pair =>
      obtain ⟨referenced, positions⟩ := pair
      obtain ⟨found, known, sameLength⟩ := target?_eq_some.mp target
      obtain ⟨table, isFound, more⟩ := wider _ _ found
      have names : targetNames foreignKey table.definition =
          targetNames foreignKey referenced.definition := by
        rw [targetNames, targetNames, more.key]
      have leadsThere : changed.target? foreignKey = some (table, positions) :=
        target?_eq_some.mpr ⟨isFound, names ▸ more.positions? known, sameLength⟩
      -- the referenced columns are old ones, and there a wider table holds what it held before
      have inside (position : Nat) (member : position ∈ positions) :
          position < referenced.definition.columns.length :=
        TableDefinition.lt_of_positions? known member
      have columns : (positions.filterMap fun position => table.definition.columns[position]?) =
          positions.filterMap fun position => referenced.definition.columns[position]? :=
        List.filterMap_congr fun position member => more.column position (inside position member)
      rw [target] at leads
      obtain ⟨row, isRow, equal⟩ := List.any_eq_true.mp leads
      obtain ⟨other, isOther, cells⟩ := more.row row isRow
      have keyCells : table.definition.keyCells positions other.cells =
          referenced.definition.keyCells positions row.cells := TableDefinition.keyCells_congr
        (fun position member => more.column position (inside position member))
        (fun position member => cells position (inside position member))
      rw [leadsThere]
      refine List.any_eq_true.mpr ⟨other, isOther, ?_⟩
      rw [columns, keyCells]
      exact equal

/-- A new reference is null in every row, or there is no row. -/
theorem satisfies_extend (consistent : table.IsConsistent) {draft : ColumnDraft}
    (fresh : table.definition.position? draft.column.name = none)
    (spares : table.SparesReferences draft)
    (declared : foreignKey ∈ draft.foreignKeys) {row : StoredRow}
    (isRow : row ∈ (table.extend draft).rows) :
    database.satisfies (table.extend draft).definition foreignKey row = true := by
  obtain ⟨reference, isReference, rfl⟩ := List.mem_map.mp declared
  obtain ⟨before, isBefore, rfl⟩ := List.mem_map.mp isRow
  obtain none | isNull | empty := spares
  · exact absurd isReference (none ▸ List.not_mem_nil)
  · refine Bool.or_eq_true_iff.mpr (Or.inl (List.any_eq_true.mpr ⟨_, ?_, isNull⟩))
    have position := StoredTable.position?_extend fresh
    have width : before.cells.length = table.definition.columns.length :=
      consistent.width before isBefore
    have held : (before.cells ++ [draft.column.store draft.column.initial])[
        table.definition.columns.length]? = some (draft.column.store draft.column.initial) := by
      rw [← width, List.getElem?_concat_length]
    rw [List.filterMap_cons_some position, StoredTable.cellsAt, List.map_cons, held]
    exact List.mem_cons_self
  · exact absurd isBefore (empty ▸ List.not_mem_nil)

/-! ## Steps -/

namespace IsConsistent

/-- A table that is defined has no rows yet. -/
theorem define (consistent : database.IsConsistent) {draft : TableDraft}
    {definition : TableDefinition} (absent : database.table? draft.name = none)
    (defines : draft.toDefinition = .ok definition) :
    IsConsistent { database with tables := database.tables ++ [⟨definition, []⟩] } := by
  obtain ⟨rfl, distinct, known⟩ := TableDraft.toDefinition_eq_ok defines
  refine ⟨?distinct, ?tables, ?references⟩
  case distinct =>
    rw [TableDraft.distinctNames_iff, List.map_append]
    exact pairwise_append_of_absent (TableDraft.distinctNames_iff.mp consistent.distinct) absent
  case tables =>
    refine List.forall_mem_append.mpr ⟨consistent.tables, List.forall_mem_singleton.mpr ?_⟩
    exact ⟨distinct, known, fun _ isRow => absurd isRow List.not_mem_nil,
      fun _ isRow => absurd isRow List.not_mem_nil, fun _ _ => List.Pairwise.nil⟩
  case references =>
    have wider : database.FoundWider { database with
        tables := database.tables ++ [⟨draft.definition, []⟩] } := by
      intro name found isFound
      refine ⟨found, ?_, StoredTable.Extends.refl found⟩
      rw [table?, List.find?_append]
      exact Option.or_eq_some_iff.mpr (Or.inl isFound)
    refine danglingCount_eq_zero_iff.mpr (List.forall_mem_append.mpr ⟨?_, ?_⟩)
    · intro stored isStored foreignKey declared row isRow
      exact wider.satisfies rfl (danglingCount_eq_zero_iff.mp consistent.references stored isStored
        foreignKey declared row isRow)
    · exact List.forall_mem_singleton.mpr fun _ _ _ isRow => absurd isRow List.not_mem_nil

/-- An added column leaves every other cell at its place. -/
theorem foundWider_extend (consistent : database.IsConsistent) (member : table ∈ database.tables)
    (draft : ColumnDraft) : database.FoundWider (database.replace (table.extend draft)) := by
  intro name found isFound
  refine ⟨_, table?_replace isFound _, ?_⟩
  split
  · next replaced =>
      have apart := TableDraft.distinctNames_iff.mp consistent.distinct
      obtain rfl := eq_of_sameName apart member (mem_of_table? isFound) replaced
      exact StoredTable.extends_extend (consistent.tables found member) draft
  · exact StoredTable.Extends.refl found

/-- A database stays consistent when a column is added. -/
theorem extend (consistent : database.IsConsistent) {draft : ColumnDraft}
    (member : table ∈ database.tables)
    (fresh : table.definition.position? draft.column.name = none)
    (spares : table.SparesReferences draft) :
    (database.replace (table.extend draft)).IsConsistent := by
  have apart := TableDraft.distinctNames_iff.mp consistent.distinct
  have ofTable := consistent.tables table member
  have wider := consistent.foundWider_extend member draft
  have before := danglingCount_eq_zero_iff.mp consistent.references
  have named : (table.extend draft).definition.name = table.definition.name := rfl
  obtain ⟨names, among⟩ := tables_replace apart member named
  refine ⟨?distinct, ?tables, ?references⟩
  case distinct =>
    rw [names]
    exact consistent.distinct
  case tables =>
    intro other isOther
    obtain rfl | isBefore := among other isOther
    · exact ofTable.extend fresh
    · exact consistent.tables other isBefore
  case references =>
    -- only the references of the new column are new, the others read cells that stay
    refine danglingCount_eq_zero_iff.mpr fun other isOther foreignKey declared row isRow => ?_
    obtain rfl | isBefore := among other isOther
    · obtain isDeclared | isAdded := List.mem_append.mp declared
      · obtain ⟨old, isOld, rfl⟩ := List.mem_map.mp isRow
        exact wider.satisfies (StoredTable.cellsAt_extend ofTable draft isDeclared isOld)
          (before table member foreignKey isDeclared old isOld)
      · exact satisfies_extend ofTable fresh spares isAdded isRow
    · exact wider.satisfies rfl (before other isBefore foreignKey declared row isRow)

/-- A database of fewer tables is consistent when no reference dangles. -/
theorem of_sublist (consistent : database.IsConsistent) {tables : List StoredTable}
    (fewer : tables.Sublist database.tables)
    (references : danglingCount { database with tables := tables } ≤ database.danglingCount) :
    IsConsistent { database with tables := tables } where
  distinct := TableDraft.distinctNames_iff.mpr
    ((TableDraft.distinctNames_iff.mp consistent.distinct).sublist (fewer.map _))
  tables stored isStored := consistent.tables stored (fewer.subset isStored)
  references := Nat.le_zero.mp (consistent.references ▸ references)

/-- A database stays consistent when the rows of a table are rewritten. -/
theorem rewrite (consistent : database.IsConsistent) (member : table ∈ database.tables)
    (rewrites : table.Rewrites filled)
    (references : (database.replace filled).danglingCount ≤ database.danglingCount) :
    (database.replace filled).IsConsistent := by
  have apart := TableDraft.distinctNames_iff.mp consistent.distinct
  obtain ⟨names, among⟩ :=
    tables_replace apart member (congrArg TableDefinition.name rewrites.definition_eq)
  exact
    { distinct := names ▸ consistent.distinct
      tables := fun other isOther => (among other isOther).elim
        (fun isFilled => isFilled ▸ rewrites.isConsistent (consistent.tables table member))
        (consistent.tables other)
      references := Nat.le_zero.mp (consistent.references ▸ references) }

theorem advance (consistent : database.IsConsistent) : database.advance.IsConsistent :=
  ⟨consistent.distinct, consistent.tables, consistent.references⟩

/-- A step keeps a database consistent. -/
theorem step (steps : database.Steps changed) (consistent : database.IsConsistent) :
    changed.IsConsistent := by
  cases steps with
  | stay => exact consistent
  | define absent _ defines => exact (consistent.define absent defines).advance
  | extend found fresh spares =>
      exact (consistent.extend (mem_of_table? found) fresh spares).advance
  | drop fewer references => exact (consistent.of_sublist fewer references).advance
  | rewrite found rewrites references =>
      exact consistent.rewrite (mem_of_table? found) rewrites references

/-- Scripts keep a database consistent, also those that fail on the way. -/
theorem executeScripts (consistent : database.IsConsistent) (scripts : List String) :
    (database.executeScripts scripts).IsConsistent :=
  executeScripts_induction (fun _ _ => step) scripts consistent

end IsConsistent

theorem isConsistent_empty : empty.IsConsistent :=
  ⟨rfl, fun _ member => absurd member List.not_mem_nil, rfl⟩

/-- Every database that scripts make is consistent. -/
theorem isConsistent_executeScripts (scripts : List String) :
    (empty.executeScripts scripts).IsConsistent :=
  isConsistent_empty.executeScripts scripts

end Database

end TableGraph
