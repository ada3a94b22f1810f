import TableGraph.Database.Change
import TableGraph.Proofs.Database.Lookup
import TableGraph.Proofs.Sql.Collation

/-!
# Consistent databases

In a consistent database the rows fit their tables, keys identify them, and every foreign
key leads to a row.  There a cell of a foreign key that leads to the primary key of a table
equals the key of exactly one row of it, as the engine compares cells
(`filter_equals_eq_singleton`).
-/

namespace TableGraph

open SqlToken (sameName)

/-! ## Names -/

namespace SqlToken

theorem sameName_iff {left right : String} :
    sameName left right = true ↔ upperCase left = upperCase right :=
  beq_iff_eq

end SqlToken

namespace TableDraft

theorem distinctNames_iff {names : List String} :
    distinctNames names = true ↔
      names.Pairwise fun left right => sameName left right = false := by
  induction names with
  | nil => exact iff_of_true rfl List.Pairwise.nil
  | cons head tail inductionHypothesis =>
      rw [distinctNames, Bool.and_eq_true, inductionHypothesis, Bool.not_eq_true',
        List.any_eq_false, List.pairwise_cons]
      simp only [Bool.not_eq_true]

theorem nodup_of_distinctNames {names : List String} (distinct : distinctNames names = true) :
    names.Nodup := by
  refine (distinctNames_iff.mp distinct).imp fun {left right} different same => ?_
  rw [same, SqlToken.sameName, beq_self_eq_true] at different
  cases different

end TableDraft

/-- A name that stands for one of some names stands for one that is kept of them. -/
theorem exists_mem_onceEach {names : List String} {name other : String} (member : name ∈ names)
    (same : sameName other name = true) :
    ∃ kept ∈ onceEach names, sameName other kept = true := by
  induction names with
  | nil => cases member
  | cons head tail inductionHypothesis =>
      rcases List.mem_cons.mp member with rfl | behind
      · exact ⟨_, List.mem_cons_self, same⟩
      · obtain ⟨kept, isKept, sameKept⟩ := inductionHypothesis behind
        by_cases repeats : sameName head kept = true
        · refine ⟨head, List.mem_cons_self, SqlToken.sameName_iff.mpr ?_⟩
          exact (SqlToken.sameName_iff.mp sameKept).trans (SqlToken.sameName_iff.mp repeats).symm
        · refine ⟨kept, List.mem_cons_of_mem _ (List.mem_filter.mpr ⟨isKept, ?_⟩), sameKept⟩
          simp [Bool.eq_false_of_not_eq_true repeats]

theorem onceEach_sublist (names : List String) : (onceEach names).Sublist names := by
  induction names with
  | nil => exact List.Sublist.refl _
  | cons head tail inductionHypothesis =>
      exact (List.filter_sublist.trans inductionHypothesis).cons_cons head

theorem pairwise_onceEach (names : List String) :
    (onceEach names).Pairwise fun left right => sameName left right = false := by
  induction names with
  | nil => exact List.Pairwise.nil
  | cons head tail inductionHypothesis =>
      refine List.pairwise_cons.mpr ⟨fun name member => ?_, inductionHypothesis.filter _⟩
      simpa using (List.mem_filter.mp member).2

namespace TableDefinition

variable {table : TableDefinition} {name : String} {position : Nat} {column : ColumnDefinition}

theorem declaredName_of_position? (known : table.position? name = some position)
    (isColumn : table.columns[position]? = some column) : table.declaredName name = column.name := by
  obtain ⟨inside, same, earlier⟩ := List.findIdx?_eq_some_iff_getElem.mp known
  obtain ⟨_, rfl⟩ := List.getElem?_eq_some_iff.mp isColumn
  have found : (table.columns.find? fun column => sameName column.name name) =
      some table.columns[position] :=
    List.find?_eq_some_iff_getElem.mpr ⟨same, position, inside, rfl, by simpa using earlier⟩
  rw [declaredName, found]
  rfl

theorem sameName_declaredName (table : TableDefinition) (name : String) :
    sameName (table.declaredName name) name = true := by
  cases found : table.columns.find? fun column => sameName column.name name with
  | none =>
      rw [declaredName, found]
      exact SqlToken.sameName_iff.mpr rfl
  | some column =>
      rw [declaredName, found]
      exact List.find?_some (p := fun column : ColumnDefinition => sameName column.name name) found

theorem position?_congr {other : String} (same : sameName name other = true) :
    table.position? name = table.position? other := by
  simp only [position?, SqlToken.sameName, SqlToken.sameName_iff.mp same]

theorem position?_declaredName (table : TableDefinition) (name : String) :
    table.position? (table.declaredName name) = table.position? name :=
  position?_congr (table.sameName_declaredName name)

/-- Columns that are all known have positions. -/
theorem positions?_eq_some {names : List String}
    (known : ∀ name ∈ names, (table.position? name).isSome = true) :
    table.positions? names = some (names.filterMap table.position?) := by
  induction names with
  | nil => rfl
  | cons head tail inductionHypothesis =>
      obtain ⟨own, others⟩ := List.forall_mem_cons.mp known
      obtain ⟨position, isPosition⟩ := Option.isSome_iff_exists.mp own
      have later : tail.mapM table.position? = _ := inductionHypothesis others
      rw [positions?, List.mapM_cons, isPosition, later, List.filterMap_cons_some isPosition]
      rfl

/-- A foreign key that a table declares on one column alone. -/
structure References (table : TableDefinition) (foreignKey : ForeignKey)
    (column target : String) : Prop where
  declared : foreignKey ∈ table.foreignKeys
  columns : foreignKey.columns.map table.declaredName = [column]
  target : foreignKey.table = target

end TableDefinition

/-! ## Consistent tables -/

theorem ColumnDefinition.isOrdered_store (column : ColumnDefinition) (cell : Cell) :
    (column.store cell).isOrdered = true :=
  Affinity.isOrdered_store _ cell.isOrdered_storable

namespace StoredTable

/-- The cell of a row in a column. -/
def cellOf (table : StoredTable) (column : String) (row : StoredRow) : Cell :=
  ((table.definition.position? column).bind fun position => row.cells[position]?).getD .null

/-- What is not a number is not stored. -/
theorem isOrdered_of_storeCells {table : StoredTable} {cells : Cells}
    (stored : table.storeCells cells = cells) : ∀ cell ∈ cells, cell.isOrdered = true := by
  intro cell isCell
  rw [← stored] at isCell
  obtain ⟨position, isStored⟩ := List.getElem?_of_mem isCell
  rw [storeCells, List.getElem?_zipWith] at isStored
  split at isStored
  · rw [← Option.some.inj isStored]
    exact ColumnDefinition.isOrdered_store _ _
  · cases isStored

/-- What the engine keeps true of a table: columns have different names, keys consist of
columns, rows are as wide as the table and hold their cells as the columns store them, and no
two rows agree on a key. -/
structure IsConsistent (table : StoredTable) : Prop where
  distinct : TableDraft.distinctNames (table.definition.columns.map ColumnDefinition.name) = true
  known : ∀ name ∈ table.definition.keyColumns, (table.definition.position? name).isSome = true
  width : ∀ row ∈ table.rows, row.cells.length = table.definition.columns.length
  stored : ∀ row ∈ table.rows, table.storeCells row.cells = row.cells
  keys : ∀ key ∈ table.keys, table.rows.Pairwise fun left right =>
    table.agree key left.cells right.cells = false

variable {table : StoredTable} {row : StoredRow} {column : String} {position : Nat}
  {definition : ColumnDefinition}

namespace IsConsistent

theorem cell_eq (consistent : table.IsConsistent) (member : row ∈ table.rows)
    (known : table.definition.position? column = some position) :
    row.cells[position]? = some (table.cellOf column row) := by
  have inside : position < row.cells.length := by
    rw [consistent.width row member]
    exact (List.findIdx?_eq_some_iff_getElem.mp known).1
  rw [cellOf, known, Option.bind_some, List.getElem?_eq_getElem inside, Option.getD_some]

theorem visible_eq (consistent : table.IsConsistent) (member : row ∈ table.rows)
    (known : table.definition.position? column = some position) :
    row.visible[position]? = some (table.cellOf column row) := by
  have held := consistent.cell_eq member known
  rw [StoredRow.visible, List.getElem?_append_left (List.getElem?_eq_some_iff.mp held).1]
  exact held

theorem store_cellOf (consistent : table.IsConsistent) (member : row ∈ table.rows)
    (known : table.definition.position? column = some position)
    (isColumn : table.definition.columns[position]? = some definition) :
    definition.store (table.cellOf column row) = table.cellOf column row := by
  have held := consistent.cell_eq member known
  have same := congrArg (fun cells : Cells => cells[position]?) (consistent.stored row member)
  simp only [storeCells, List.getElem?_zipWith, isColumn, held, Option.some.injEq] at same
  exact same

theorem isOrdered (consistent : table.IsConsistent) (member : row ∈ table.rows) :
    ∀ cell ∈ row.cells, cell.isOrdered = true :=
  isOrdered_of_storeCells (consistent.stored row member)

theorem isOrdered_cellOf (consistent : table.IsConsistent) (member : row ∈ table.rows)
    (column : String) : (table.cellOf column row).isOrdered = true := by
  cases known : table.definition.position? column with
  | none =>
      rw [cellOf, known]
      rfl
  | some position =>
      exact consistent.isOrdered member _ (List.mem_of_getElem? (consistent.cell_eq member known))

/-- A row is fetched with the values of its cells. -/
theorem value?_fetched (consistent : table.IsConsistent) (member : row ∈ table.rows)
    (known : table.definition.position? column = some position)
    (isColumn : table.definition.columns[position]? = some definition)
    (named : definition.name = column) (name : String) :
    (table.fetched name row).value? column = some (table.cellOf column row).toValue := by
  let names := table.definition.columns.map ColumnDefinition.name
  let values := (row.visible.take table.definition.columns.length).map Cell.toValue
  have sameLength : names.length = values.length := by
    have width := consistent.width row member
    simp only [names, values, StoredRow.visible, List.length_map, List.length_take,
      List.length_append]
    omega
  have distinct : ((names.zip values).map Prod.fst).Nodup := by
    rw [List.map_fst_zip sameLength.le]
    exact TableDraft.nodup_of_distinctNames consistent.distinct
  have inside : position < table.definition.columns.length :=
    (List.getElem?_eq_some_iff.mp isColumn).1
  have among : (column, (table.cellOf column row).toValue) ∈ names.zip values := by
    refine List.mem_of_getElem? (i := position) (List.getElem?_zip_eq_some.mpr ⟨?_, ?_⟩)
    · rw [List.getElem?_map, isColumn, ← named]
      rfl
    · rw [List.getElem?_map, List.getElem?_take_of_lt inside, consistent.visible_eq member known]
      rfl
  have found := lookup_reverse_of_nodup distinct among
  rw [← lookup_pairsOf] at found
  exact found

end IsConsistent

/-! ### Keys -/

/-- A column that a key consists of is known by its declared name. -/
theorem IsConsistent.exists_column (consistent : table.IsConsistent) {name : String}
    (among : name ∈ table.definition.keyColumns) :
    ∃ position definition, table.definition.position? name = some position ∧
      table.definition.position? (table.definition.declaredName name) = some position ∧
      table.definition.columns[position]? = some definition ∧
      definition.name = table.definition.declaredName name := by
  obtain ⟨position, known⟩ := Option.isSome_iff_exists.mp (consistent.known name among)
  have isColumn := List.getElem?_eq_getElem (List.findIdx?_eq_some_iff_getElem.mp known).1
  refine ⟨position, _, known, ?_, isColumn, ?_⟩
  · rw [TableDefinition.position?_declaredName, known]
  · exact (TableDefinition.declaredName_of_position? known isColumn).symm

/-- A primary key of one column, which may be repeated in it. -/
theorem IsConsistent.exists_key (consistent : table.IsConsistent) {key : String}
    (isKey : table.definition.keyNames = [key]) :
    ∃ position definition, table.definition.position? key = some position ∧
      table.definition.columns[position]? = some definition ∧ definition.name = key ∧
      table.definition.keyPositions ∈ table.keys ∧
      ∀ other ∈ table.definition.keyPositions, other = position := by
  obtain ⟨name, columns, rfl⟩ := List.map_eq_singleton_iff.mp isKey
  have ofKey {other : String} (member : other ∈ table.definition.primaryKey) :
      other ∈ table.definition.keyColumns := List.mem_append_left _ (List.mem_append_left _ member)
  have isName : name ∈ table.definition.primaryKey :=
    (onceEach_sublist _).subset (columns ▸ List.mem_cons_self)
  obtain ⟨position, definition, known, isPosition, isColumn, named⟩ :=
    consistent.exists_column (ofKey isName)
  have same : ∀ other ∈ table.definition.primaryKey,
      table.definition.position? other = some position := by
    intro other member
    obtain ⟨kept, isKept, sameKept⟩ :=
      exists_mem_onceEach member (SqlToken.sameName_iff.mpr rfl)
    rw [columns, List.mem_singleton] at isKept
    rw [← known, ← isKept, TableDefinition.position?_congr sameKept]
  refine ⟨position, definition, isPosition, isColumn, named, ?_, fun other member => ?_⟩
  · have positions : table.definition.positions? table.definition.primaryKey =
        some table.definition.keyPositions :=
      TableDefinition.positions?_eq_some fun other member => same other member ▸ rfl
    have present : position ∈ table.definition.keyPositions :=
      List.mem_filterMap.mpr ⟨name, isName, known⟩
    refine List.mem_filterMap.mpr ⟨table.definition.primaryKey, List.mem_cons_self, ?_⟩
    rw [positions, Option.filter_some, if_pos]
    simpa using List.ne_nil_of_mem present
  · obtain ⟨other', member', known'⟩ := List.mem_filterMap.mp member
    exact Option.some.inj (known'.symm.trans (same other' member'))

theorem IsConsistent.exists_reference (consistent : table.IsConsistent) {foreignKey : ForeignKey}
    {target : String} (references : table.definition.References foreignKey column target) :
    ∃ position definition, table.definition.position? column = some position ∧
      table.definition.columns[position]? = some definition ∧ definition.name = column ∧
      foreignKey.columns.filterMap table.definition.position? = [position] := by
  obtain ⟨name, columns, rfl⟩ := List.map_eq_singleton_iff.mp references.columns
  have among : name ∈ table.definition.keyColumns :=
    List.mem_append_right _ (List.mem_flatMap.mpr
      ⟨foreignKey, references.declared, columns ▸ List.mem_cons_self⟩)
  obtain ⟨position, definition, known, isPosition, isColumn, named⟩ := consistent.exists_column among
  exact ⟨position, definition, isPosition, isColumn, named, by simp [columns, known]⟩

end StoredTable

/-! ## Comparing stored cells -/

namespace ColumnDefinition

variable {column other : ColumnDefinition} {cell bound : Cell}

theorem equals_iff (cellOrdered : cell.isOrdered = true) (boundOrdered : bound.isOrdered = true) :
    column.equals cell bound = true ↔
      cell.isNull = false ∧ bound.isNull = false ∧
        (column.collation.fold (column.affinity.convert cell)).content =
          (column.collation.fold (column.affinity.convert bound)).content := by
  have same := column.collation.order_eq_iff
    (Affinity.isOrdered_convert column.affinity cellOrdered)
    (Affinity.isOrdered_convert column.affinity boundOrdered)
  rw [equals, Affinity.align_some]
  simp [Affinity.isNull_convert, Collation.same, same, and_assoc]

/-- A cell that is stored is one that the affinity of the column leaves as it is. -/
theorem store_affinity (stored : column.store cell = cell) (ordered : cell.isOrdered = true) :
    column.affinity.store cell = cell := by
  rwa [store, Cell.storable_of_isOrdered ordered] at stored

/-- A cell that a column would store as some cell of it equals that cell. -/
theorem equals_of_store (stored : column.store cell = cell)
    (cellOrdered : cell.isOrdered = true) (boundOrdered : bound.isOrdered = true)
    (present : bound.isNull = false) (keeps : column.affinity.Keeps bound)
    (same : column.collation.order (column.affinity.store bound) cell = .eq) :
    column.equals cell bound = true := by
  have converted := Affinity.convert_of_stored (store_affinity stored cellOrdered)
  have contents :
      (column.collation.fold (column.affinity.convert bound)).content =
        (column.collation.fold cell).content :=
    (column.collation.content_fold_congr ((Affinity.keeps_iff boundOrdered).mp keeps)).symm.trans
      ((column.collation.order_eq_iff (Affinity.isOrdered_store _ boundOrdered) cellOrdered).mp same)
  have cellPresent : cell.isNull = false := by
    have nulls := Cell.isNull_of_content contents
    rw [Collation.isNull_fold, Collation.isNull_fold, Affinity.isNull_convert, present] at nulls
    exact nulls.symm
  refine (equals_iff cellOrdered boundOrdered).mpr ⟨cellPresent, present, ?_⟩
  rw [converted, contents]

/-- Between columns of one affinity and one collation it does not matter which one is
compared. -/
theorem equals_comm (alike : column.kind = other.kind)
    (cellOrdered : cell.isOrdered = true) (boundOrdered : bound.isOrdered = true) :
    column.equals cell bound = other.equals bound cell := by
  obtain ⟨sameAffinity, sameCollation⟩ := ColumnKind.mk.inj alike
  rw [Bool.eq_iff_iff, equals_iff cellOrdered boundOrdered, equals_iff boundOrdered cellOrdered,
    sameAffinity, sameCollation]
  exact ⟨fun ⟨left, right, same⟩ => ⟨right, left, same.symm⟩,
    fun ⟨left, right, same⟩ => ⟨right, left, same.symm⟩⟩

end ColumnDefinition

/-! ## Rows of a key -/

/-- Of elements no two of which pass a test together, one that passes is the only one. -/
theorem filter_eq_singleton {α : Type} {test : α → Bool} {elements : List α} {found : α}
    (apart : elements.Pairwise fun left right => test left = true → test right = false)
    (member : found ∈ elements) (passes : test found = true) : elements.filter test = [found] := by
  have among : found ∈ elements.filter test := List.mem_filter.mpr ⟨member, passes⟩
  have pairs : (elements.filter test).Pairwise fun left right =>
      test left = true → test right = false := apart.filter test
  cases kept : elements.filter test with
  | nil =>
      rw [kept] at among
      cases among
  | cons first rest =>
      cases rest with
      | nil =>
          rw [kept] at among
          rw [List.mem_singleton.mp among]
      | cons second others =>
          have inFilter (element : α) (isKept : element ∈ first :: second :: others) :
              test element = true := (List.mem_filter.mp (kept ▸ isKept)).2
          rw [kept] at pairs
          have fails := (List.pairwise_cons.mp pairs).1 second List.mem_cons_self
            (inFilter first List.mem_cons_self)
          rw [inFilter second (List.mem_cons_of_mem _ List.mem_cons_self)] at fails
          cases fails

namespace StoredTable

variable {table : StoredTable} {row other : StoredRow} {column key : String} {position : Nat}
  {definition : ColumnDefinition} {bound : Cell}

/-- Rows agree on a key when they hold cells there that its columns take as the same, none of
them null. -/
theorem agree_iff (table : StoredTable) {left right : Cells}
    (leftOrdered : ∀ cell ∈ left, cell.isOrdered = true)
    (rightOrdered : ∀ cell ∈ right, cell.isOrdered = true) (positions : List Nat) :
    table.agree positions left right = true ↔
      ∀ position ∈ positions, (left[position]?.getD .null).isNull = false ∧
        ((table.definition.collationAt position).fold (left[position]?.getD .null)).content =
          ((table.definition.collationAt position).fold (right[position]?.getD .null)).content := by
  have isOrdered {cells : Cells} (ordered : ∀ cell ∈ cells, cell.isOrdered = true)
      (position : Nat) :
      ((table.definition.collationAt position).fold (cells[position]?.getD .null)).isOrdered =
        true := by
    rw [Collation.isOrdered_fold]
    cases held : cells[position]? with
    | none => rfl
    | some cell => exact ordered cell (List.mem_of_getElem? held)
  induction positions with
  | nil => simp [agree, TableDefinition.keyCells, Cells.order]
  | cons head tail inductionHypothesis =>
      have same := Cell.order_eq_iff (isOrdered leftOrdered head) (isOrdered rightOrdered head)
      refine Iff.trans ?_
        (List.forall_mem_cons.trans (and_congr_right' inductionHypothesis.symm)).symm
      simp only [agree, TableDefinition.keyCells, List.map_cons, List.any_cons, Cells.order,
        Collation.isNull_fold, Bool.and_eq_true, Bool.not_eq_true', Bool.or_eq_false_iff,
        beq_iff_eq, Ordering.then_eq_eq, same]
      exact and_and_and_comm

theorem agree_comm (table : StoredTable) {left right : Cells}
    (leftOrdered : ∀ cell ∈ left, cell.isOrdered = true)
    (rightOrdered : ∀ cell ∈ right, cell.isOrdered = true) (positions : List Nat) :
    table.agree positions left right = table.agree positions right left := by
  rw [Bool.eq_iff_iff, table.agree_iff leftOrdered rightOrdered,
    table.agree_iff rightOrdered leftOrdered]
  have turned {collation : Collation} {first second : Cell} :
      (first.isNull = false ∧ (collation.fold first).content = (collation.fold second).content) ↔
        (second.isNull = false ∧
          (collation.fold second).content = (collation.fold first).content) := by
    have nulls (same : (collation.fold first).content = (collation.fold second).content) :
        first.isNull = second.isNull := by
      simpa using Cell.isNull_of_content same
    exact ⟨fun ⟨present, same⟩ => ⟨nulls same ▸ present, same.symm⟩,
      fun ⟨present, same⟩ => ⟨(nulls same.symm).symm ▸ present, same.symm⟩⟩
  exact forall₂_congr fun _ _ => turned

theorem IsConsistent.equals_eq (consistent : table.IsConsistent) (member : row ∈ table.rows)
    (known : table.definition.position? column = some position)
    (isColumn : table.definition.columns[position]? = some definition) (bound : Cell) :
    table.equals column bound row = definition.equals (table.cellOf column row) bound := by
  simp [equals, known, isColumn, consistent.visible_eq member known]

/-- At most one row has a given key. -/
theorem IsConsistent.filter_equals_eq_singleton (consistent : table.IsConsistent)
    (isKey : table.definition.keyNames = [key]) (boundOrdered : bound.isOrdered = true)
    (member : row ∈ table.rows) (equal : table.equals key bound row = true) :
    table.rows.filter (table.equals key bound) = [row] := by
  obtain ⟨position, definition, known, isColumn, _, identifies, only⟩ := consistent.exists_key isKey
  have compares : table.definition.collationAt position = definition.collation := by
    rw [TableDefinition.collationAt, isColumn]
    rfl
  have contents {other : StoredRow} (otherMember : other ∈ table.rows)
      (passes : table.equals key bound other = true) :
      (table.cellOf key other).isNull = false ∧
        (definition.collation.fold (table.cellOf key other)).content =
          (definition.collation.fold (definition.affinity.convert bound)).content := by
    have ordered := consistent.isOrdered_cellOf otherMember key
    rw [consistent.equals_eq otherMember known isColumn,
      ColumnDefinition.equals_iff ordered boundOrdered,
      Affinity.convert_of_stored (ColumnDefinition.store_affinity
        (consistent.store_cellOf otherMember known isColumn) ordered)] at passes
    exact ⟨passes.1, passes.2.2⟩
  -- Two rows that equal the bound cell would agree on the key.
  refine filter_eq_singleton ?_ member equal
  refine (consistent.keys _ identifies).imp_of_mem fun {left right} isLeft isRight apart passes => ?_
  refine Bool.eq_false_of_not_eq_true fun alsoPasses => ?_
  obtain ⟨present, leftContent⟩ := contents isLeft passes
  obtain ⟨_, rightContent⟩ := contents isRight alsoPasses
  have agrees : table.agree table.definition.keyPositions left.cells right.cells = true := by
    rw [table.agree_iff (consistent.isOrdered isLeft) (consistent.isOrdered isRight)]
    intro other isPosition
    rw [only other isPosition, consistent.cell_eq isLeft known, consistent.cell_eq isRight known,
      compares]
    exact ⟨present, leftContent.trans rightContent.symm⟩
  rw [agrees] at apart
  cases apart

end StoredTable

/-! ## Consistent databases -/

namespace Database

/-- What the engine keeps true of a database whose foreign keys hold: tables have different
names and are consistent, and no reference leads nowhere.  Scripts make only such databases
(`isConsistent_executeScripts`). -/
structure IsConsistent (database : Database) : Prop where
  distinct : TableDraft.distinctNames
    (database.tables.map fun table => table.definition.name) = true
  tables : ∀ table ∈ database.tables, table.IsConsistent
  references : database.danglingCount = 0

variable {database : Database} {referencing referenced stored : StoredTable}
  {foreignKey : ForeignKey} {column target key : String} {row : StoredRow}

/-- A foreign key that leads to the primary key of a table, which is one column. -/
structure LeadsToKey (database : Database) (foreignKey : ForeignKey) (referenced : StoredTable)
    (key : String) : Prop where
  columns : database.target? foreignKey = some (referenced, referenced.definition.keyPositions)
  key : referenced.definition.keyNames = [key]

theorem danglingCount_eq_zero_iff :
    database.danglingCount = 0 ↔ ∀ stored ∈ database.tables,
      ∀ foreignKey ∈ stored.definition.foreignKeys, ∀ row ∈ stored.rows,
        database.satisfies stored.definition foreignKey row = true := by
  rw [danglingCount, ← List.sum_eq_foldl, List.sum_eq_zero_iff]
  simp only [List.forall_mem_flatMap, List.forall_mem_map, List.countP_eq_zero,
    Bool.not_eq_true', Bool.not_eq_false]

theorem table?_of_pairwise
    (apart : (database.tables.map fun table => table.definition.name).Pairwise
      fun left right => sameName left right = false) (member : stored ∈ database.tables) :
    database.table? stored.definition.name = some stored := by
  rw [List.pairwise_map] at apart
  obtain ⟨before, behind, split⟩ := List.append_of_mem member
  rw [split] at apart
  have earlier : before.find? (fun table => sameName table.definition.name stored.definition.name) =
      none := by
    refine List.find?_eq_none.mpr fun table isEarlier => ?_
    rw [(List.pairwise_append.mp apart).2.2 table isEarlier stored List.mem_cons_self]
    exact Bool.false_ne_true
  rw [table?, split, List.find?_append, earlier, Option.none_or]
  exact List.find?_cons_of_pos (SqlToken.sameName_iff.mpr rfl)

theorem IsConsistent.table?_of_mem (consistent : database.IsConsistent)
    (member : stored ∈ database.tables) :
    database.table? stored.definition.name = some stored :=
  table?_of_pairwise (TableDraft.distinctNames_iff.mp consistent.distinct) member

theorem mem_of_table? {name : String} (found : database.table? name = some stored) :
    stored ∈ database.tables :=
  List.mem_of_find?_eq_some found

/-- A foreign key leads to known columns of a table, as many as it has itself. -/
theorem target?_eq_some {positions : List Nat} :
    database.target? foreignKey = some (referenced, positions) ↔
      database.table? foreignKey.table = some referenced ∧
        referenced.definition.positions? (targetNames foreignKey referenced.definition) =
          some positions ∧ positions.length = foreignKey.columns.length := by
  constructor
  · intro leads
    obtain ⟨table, found, leads⟩ := Option.bind_eq_some_iff.mp leads
    obtain ⟨known, isKnown, leads⟩ := Option.bind_eq_some_iff.mp leads
    split at leads
    · next sameLength =>
        cases leads
        exact ⟨found, isKnown, sameLength⟩
    · cases leads
  · rintro ⟨found, isKnown, sameLength⟩
    refine Option.bind_eq_some_iff.mpr ⟨referenced, found, ?_⟩
    exact Option.bind_eq_some_iff.mpr ⟨positions, isKnown, if_pos sameLength⟩

theorem primaryKey_of_keyNames {name : String} (found : database.table? name = some stored)
    (isKey : stored.definition.keyNames = [key]) : database.primaryKey name = .ok key := by
  rw [primaryKey, found]
  simp [isKey]

/-- A cell of a foreign key that leads to a primary key is the key of a row. -/
theorem IsConsistent.exists_equals (consistent : database.IsConsistent)
    (member : referencing ∈ database.tables)
    (references : referencing.definition.References foreignKey column target)
    (leads : database.LeadsToKey foreignKey referenced key) (isRow : row ∈ referencing.rows)
    (present : (referencing.cellOf column row).isNull = false)
    (keeps : ∀ definition ∈ referenced.definition.columns, definition.name = key →
      definition.affinity.Keeps (referencing.cellOf column row)) :
    ∃ found ∈ referenced.rows,
      referenced.equals key (referencing.cellOf column row) found = true := by
  let cell := referencing.cellOf column row
  have fromTable := consistent.tables referencing member
  have toTable := consistent.tables referenced (mem_of_table? (target?_eq_some.mp leads.columns).1)
  obtain ⟨position, definition, known, isColumn, isNamed, _, only⟩ := toTable.exists_key leads.key
  have positions : referenced.definition.keyPositions = [position] := by
    have sameLength := (target?_eq_some.mp leads.columns).2.2
    obtain ⟨name, columns, _⟩ := List.map_eq_singleton_iff.mp references.columns
    rw [columns] at sameLength
    obtain ⟨other, isOther⟩ := List.length_eq_one_iff.mp sameLength
    rw [isOther, only other (isOther ▸ List.mem_cons_self)]
  obtain ⟨place, _, isPlace, _, _, places⟩ := fromTable.exists_reference references
  have held : StoredTable.cellsAt (foreignKey.columns.filterMap referencing.definition.position?)
      row.cells = [cell] := by
    rw [places, StoredTable.cellsAt, List.map_singleton, fromTable.cell_eq isRow isPlace]
    rfl
  have satisfied := danglingCount_eq_zero_iff.mp consistent.references referencing member
    foreignKey references.declared row isRow
  -- The row that satisfies the reference holds the cell as the key column would store it.
  rw [satisfies, held, leads.columns, positions] at satisfied
  simp only [List.any_cons, List.any_nil, Bool.or_false, cell, present, Bool.false_or,
    List.filterMap_cons, List.filterMap_nil, isColumn, List.zipWith_cons_cons,
    List.zipWith_nil_left] at satisfied
  obtain ⟨found, isFound, same⟩ := List.any_eq_true.mp satisfied
  rw [TableDefinition.keyCells, List.map_singleton, toTable.cell_eq isFound known,
    TableDefinition.collationAt, isColumn, beq_iff_eq] at same
  refine ⟨found, isFound, ?_⟩
  rw [toTable.equals_eq isFound known isColumn]
  exact ColumnDefinition.equals_of_store (toTable.store_cellOf isFound known isColumn)
    (toTable.isOrdered_cellOf isFound key) (fromTable.isOrdered_cellOf isRow column) present
    (keeps definition (List.mem_of_getElem? isColumn) isNamed) (Ordering.then_eq_eq.mp same).1

/-- A cell of a foreign key that leads to a primary key is the key of exactly one row. -/
theorem IsConsistent.exists_filter_eq (consistent : database.IsConsistent)
    (member : referencing ∈ database.tables)
    (references : referencing.definition.References foreignKey column target)
    (leads : database.LeadsToKey foreignKey referenced key) (isRow : row ∈ referencing.rows)
    (present : (referencing.cellOf column row).isNull = false)
    (keeps : ∀ definition ∈ referenced.definition.columns, definition.name = key →
      definition.affinity.Keeps (referencing.cellOf column row)) :
    ∃ found ∈ referenced.rows,
      referenced.rows.filter (referenced.equals key (referencing.cellOf column row)) = [found] := by
  have fromTable := consistent.tables referencing member
  have toTable := consistent.tables referenced (mem_of_table? (target?_eq_some.mp leads.columns).1)
  obtain ⟨found, isFound, equal⟩ :=
    consistent.exists_equals member references leads isRow present keeps
  exact ⟨found, isFound, toTable.filter_equals_eq_singleton leads.key
    (fromTable.isOrdered_cellOf isRow column) isFound equal⟩

end Database

end TableGraph
