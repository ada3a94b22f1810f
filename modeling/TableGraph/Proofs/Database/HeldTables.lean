import TableGraph.Configuration.Basic
import TableGraph.Proofs.Database.DescribedKeys
import TableGraph.Proofs.Database.VeiledTables
import TableGraph.Proofs.Resolving.BoundStatements
import TableGraph.Proofs.Resolving.NamedStatements
import TableGraph.Proofs.Resolving.Yielding

/-!
# Held tables

A database holds the tables of a structure when it stores each with the columns and the key
that are described.  Over two such databases that differ in hidden columns only, and have
none of these in an index, a selection of a held table that names shown columns finds rows
that differ in hidden values only (`TableSelection.IsShown.fetch_alike`), and as many
(`TableSelection.IsShown.count_alike`).
-/

namespace TableGraph

open SqlToken (sameName)

/-! ## Hidden columns -/

/-- Whether a column is a part of the key of a table. -/
def Structure.isKey (described : Structure) (table column : String) : Bool :=
  described.tables.any fun other => other.name == table &&
    other.columns.any fun found => found.primary && found.name == column

/-- Whether a column is hidden.  The columns of a key do not count as hidden: by them the
rows of a table are told apart, whatever is exposed. -/
def Configuration.hides (configuration : Configuration) (described : Structure)
    (table column : String) : Bool :=
  !configuration.isColumnVisible table column && !described.isKey table column

/-- A name that a statement on a table may contain: none of its parts is the name of a
hidden column of the table. -/
def Configuration.ShowsName (configuration : Configuration) (described : Structure)
    (table name : String) : Prop :=
  PartsIn (fun part => ∀ other ∈ described.tables, other.name = table →
    ∀ column ∈ other.columns, configuration.hides described table column.name = true →
      sameName column.name part = false) name

/-- A described column that does not count as hidden. -/
structure Configuration.Spares (configuration : Configuration) (described : Structure)
    (table column : String) : Prop where
  present : ∃ other ∈ described.tables, other.name = table ∧ column ∈ other.columns.map Column.name
  shown : configuration.hides described table column = false

/-- No column that is spared has the name of a hidden one as a part of its own. -/
def Configuration.SeparatesNames (configuration : Configuration) (described : Structure) : Prop :=
  ∀ table column, configuration.Spares described table column →
    configuration.ShowsName described table column

theorem Configuration.hides_of_visible {configuration : Configuration} {table column : String}
    (visible : configuration.isColumnVisible table column = true) (described : Structure) :
    configuration.hides described table column = false := by
  simp [hides, visible]

/-- The sole key of a described table does not count as hidden. -/
theorem Configuration.spares_key (configuration : Configuration) {described : Structure}
    {table : Table} (member : table ∈ described.tables) {key : Column}
    (isKey : table.primaryKey? = some key) :
    configuration.Spares described table.name key.name := by
  have among : key ∈ table.columns.filter Column.primary := by
    rw [Table.primaryKey?] at isKey
    split at isKey
    · next only =>
        rw [only, Option.some.inj isKey]
        exact List.mem_cons_self
    · cases isKey
  obtain ⟨present, primary⟩ := List.mem_filter.mp among
  refine ⟨⟨table, member, rfl, List.mem_map_of_mem present⟩, ?_⟩
  have ofKey : described.isKey table.name key.name = true := by
    rw [Structure.isKey, List.any_eq_true]
    refine ⟨table, member, Bool.and_eq_true_iff.mpr ⟨beq_self_eq_true table.name, ?_⟩⟩
    exact List.any_eq_true.mpr ⟨key, present, by simp [primary]⟩
  simp [hides, ofKey]

/-! ## Held tables -/

/-- A stored table as it is described. -/
structure StoredTable.IsDescribedBy (stored : StoredTable) (table : Table) : Prop where
  name : stored.definition.name = table.name
  columns : stored.definition.columns.map ColumnDefinition.name = table.columns.map Column.name
  distinct : TableDraft.distinctNames
    (stored.definition.columns.map ColumnDefinition.name) = true
  width : stored.HasWidth
  keys : stored.definition.keyNames.Perm ((table.columns.filter Column.primary).map Column.name)

/-- A database that stores the tables of a structure as they are described. -/
def Database.Holds (database : Database) (described : Structure) : Prop :=
  ∀ table ∈ described.tables, ∃ stored,
    database.table? table.name = some stored ∧ stored.IsDescribedBy table

/-- The described tables have no hidden column in an index, be it one of a unique key or
another.  Rows may be found along an index, and then what it holds shows in their order. -/
def Database.IndexesShown (database : Database) (described : Structure)
    (hidden : String → String → Bool) : Prop :=
  ∀ table ∈ described.tables, ∀ stored, database.table? table.name = some stored →
    ∀ name ∈ stored.definition.uniqueKeys.flatten ++
        (database.rowOrder.indexed stored.definition ++
          database.groupOrder.indexed stored.definition),
      stored.definition.Shows hidden name

namespace Database

variable {database other : Database} {described : Structure} {table : Table}
  {hidden : String → String → Bool}

theorem Holds.hasKeysOf (holds : database.Holds described) : database.HasKeysOf described := by
  intro table member
  obtain ⟨stored, found, isDescribed⟩ := holds table member
  exact ⟨stored, found, isDescribed.name, isDescribed.keys⟩

/-- A consistent database holds the tables of the structure that is read from it. -/
theorem IsConsistent.holds_introspect (consistent : database.IsConsistent) :
    database.Holds database.introspect := by
  intro table member
  obtain ⟨stored, found, named, keys⟩ := consistent.hasKeysOf_introspect table member
  have distinct := nodup_described (TableDraft.nodup_of_distinctNames consistent.distinct)
  rw [introspect, Structure.tables_ofTables distinct] at member
  obtain ⟨plain, isPlain, rfl⟩ := List.mem_map.mp member
  obtain ⟨definition, isListed, rfl⟩ := List.mem_map.mp isPlain
  obtain ⟨listed, isStored, rfl⟩ :=
    List.mem_map.mp (List.mem_filter.mp (database.listed_perm.mem_iff.mp isListed)).1
  have foundListed := consistent.table?_of_mem isStored
  obtain rfl : listed = stored := Option.some.inj (foundListed.symm.trans found)
  have isConsistent := consistent.tables listed isStored
  have columns : listed.definition.columns.map ColumnDefinition.name =
      listed.definition.describe.columns.map Column.name := by
    rw [TableDefinition.describe, List.map_map]
    rfl
  exact ⟨listed, found, named, columns, isConsistent.distinct, isConsistent.width, keys⟩

/-- Databases that differ in hidden columns only are visited alike. -/
theorem VisitsShown.congr {definition : TableDefinition}
    (visits : database.VisitsShown hidden definition)
    (alike : database.veiled hidden = other.veiled hidden) : other.VisitsShown hidden definition := by
  have sameRows : (database.veiled hidden).rowOrder = (other.veiled hidden).rowOrder := by rw [alike]
  have sameGroups : (database.veiled hidden).groupOrder = (other.veiled hidden).groupOrder := by
    rw [alike]
  have rows : database.rowOrder = other.rowOrder := sameRows
  have groups : database.groupOrder = other.groupOrder := sameGroups
  rw [VisitsShown, ← rows, ← groups]
  exact visits

/-- What a database holds, another holds that differs in hidden columns only. -/
theorem exists_table?_of_alike (alike : database.veiled hidden = other.veiled hidden)
    {name : String} {stored : StoredTable} (found : database.table? name = some stored) :
    ∃ twin, other.table? name = some twin ∧ stored.veiled hidden = twin.veiled hidden := by
  have foundVeiled := Database.table?_veiled hidden database name
  rw [alike, table?_veiled, found] at foundVeiled
  obtain ⟨twin, foundTwin, same⟩ := Option.map_eq_some_iff.mp foundVeiled
  exact ⟨twin, foundTwin, same.symm⟩

end Database

namespace StoredTable

variable {stored twin : StoredTable} {table : Table} {hidden : String → String → Bool}

theorem definition_congr (alike : stored.veiled hidden = twin.veiled hidden) :
    stored.definition = twin.definition := by
  have same : (stored.veiled hidden).definition = (twin.veiled hidden).definition := by rw [alike]
  exact same

theorem HasWidth.congr (hasWidth : stored.HasWidth)
    (alike : stored.veiled hidden = twin.veiled hidden) : twin.HasWidth := by
  intro row member
  have isVeiled : { row with cells := row.cells.veiled (twin.definition.hides hidden) } ∈
      (twin.veiled hidden).rows :=
    List.mem_map_of_mem (f := fun row : StoredRow =>
      { row with cells := row.cells.veiled (twin.definition.hides hidden) }) member
  rw [← alike] at isVeiled
  obtain ⟨own, isOwn, same⟩ := List.mem_map.mp isVeiled
  have sameLength : own.cells.length = row.cells.length := by
    have lengths := congrArg (fun row : StoredRow => row.cells.length) same
    simpa [Cells.veiled] using lengths
  rw [← sameLength, ← definition_congr alike]
  exact hasWidth own isOwn

/-- A column of a table that is not hidden has a name of its own. -/
theorem IsDescribedBy.shows (isDescribed : stored.IsDescribedBy table) {column : String}
    (present : column ∈ table.columns.map Column.name)
    (shown : hidden table.name column = false) : stored.definition.Shows hidden column := by
  intro definition member isHidden
  by_contra differs
  have same : sameName definition.name column = true := Bool.eq_true_of_not_eq_false differs
  rw [← isDescribed.columns] at present
  obtain ⟨own, isOwn, rfl⟩ := List.mem_map.mp present
  have isSame : own.name = definition.name :=
    (TableDefinition.declaredName_of_sameName isDescribed.distinct isOwn
      (SqlToken.sameName_iff.mpr rfl)).symm.trans
      (TableDefinition.declaredName_of_sameName isDescribed.distinct member same)
  rw [isDescribed.name, ← isSame, shown] at isHidden
  cases isHidden

/-- Names without the parts of hidden columns are shown by the table. -/
theorem IsDescribedBy.partsIn {configuration : Configuration} {described : Structure}
    (isDescribed : stored.IsDescribedBy table) (member : table ∈ described.tables) {name : String}
    (shows : configuration.ShowsName described table.name name) :
    PartsIn (stored.definition.Shows (configuration.hides described)) name := by
  intro part isPart definition isColumn isHidden
  have among : definition.name ∈ table.columns.map Column.name := by
    rw [← isDescribed.columns]
    exact List.mem_map_of_mem isColumn
  obtain ⟨column, inTable, same⟩ := List.mem_map.mp among
  rw [isDescribed.name, ← same] at isHidden
  rw [← same]
  exact shows part isPart table member rfl column inTable isHidden

end StoredTable

namespace TableDefinition

variable {table : TableDefinition} {hidden : String → String → Bool} {name : String} {position : Nat}

/-- A shown name does not stand for a hidden column. -/
theorem Shows.hides_eq_false (shows : table.Shows hidden name)
    (isPosition : table.position? name = some position) : table.hides hidden position = false := by
  obtain ⟨inside, same, _⟩ := List.findIdx?_eq_some_iff_getElem.mp isPosition
  rw [hides, List.getElem?_eq_getElem inside, Option.any_some]
  by_contra isHidden
  have differs := shows _ (List.getElem_mem inside) (Bool.eq_true_of_not_eq_false isHidden)
  rw [same] at differs
  cases differs

theorem hides_positions_eq_false {order : VisitOrder}
    (shows : ∀ name ∈ order.columns table, table.Shows hidden name) :
    ∀ position ∈ order.positions table, table.hides hidden position = false := by
  intro position member
  rcases List.mem_append.mp member with isColumn | isNumber
  · obtain ⟨name, among, isPosition⟩ := List.mem_filterMap.mp isColumn
    exact (shows name among).hides_eq_false isPosition
  · rw [List.mem_singleton.mp isNumber]
    exact table.hides_length

end TableDefinition

namespace Database.Holds

variable {database : Database} {described : Structure} {configuration : Configuration}
  {table column : String} {stored : StoredTable} (holds : database.Holds described)

include holds

theorem isDescribedBy (found : database.table? table = some stored) {other : Table}
    (member : other ∈ described.tables) (isNamed : other.name = table) :
    stored.IsDescribedBy other := by
  obtain ⟨held, isFound, isDescribed⟩ := holds other member
  rw [isNamed, found] at isFound
  exact Option.some.inj isFound ▸ isDescribed

theorem partsIn_of_spares (separates : configuration.SeparatesNames described)
    (found : database.table? table = some stored)
    (spares : configuration.Spares described table column) :
    PartsIn (stored.definition.Shows (configuration.hides described)) column := by
  obtain ⟨other, member, rfl, _⟩ := spares.present
  exact (holds.isDescribedBy found member rfl).partsIn member (separates _ _ spares)

/-- The rows of a table without hidden columns in its indexes are found in an order that no
hidden column has a part in: the columns of the primary key never count as hidden. -/
theorem visitsShown (indexed : database.IndexesShown described (configuration.hides described))
    (found : database.table? table = some stored) {other : Table}
    (member : other ∈ described.tables) (isNamed : other.name = table) :
    database.VisitsShown (configuration.hides described) stored.definition := by
  subst isNamed
  have isDescribed := holds.isDescribedBy found member rfl
  have ofKey : ∀ name ∈ stored.definition.primaryKey,
      stored.definition.Shows (configuration.hides described) name := by
    intro name isKey definition isColumn isHidden
    refine Bool.eq_false_of_not_eq_true fun same => ?_
    have among : definition.name ∈ stored.definition.keyNames := by
      obtain ⟨kept, isKept, sameKept⟩ := exists_mem_onceEach isKey same
      rw [← TableDefinition.declaredName_of_sameName isDescribed.distinct isColumn sameKept]
      exact List.mem_map_of_mem isKept
    obtain ⟨column, isPrimary, named⟩ := List.mem_map.mp (isDescribed.keys.mem_iff.mp among)
    obtain ⟨present, primary⟩ := List.mem_filter.mp isPrimary
    have key : described.isKey other.name column.name = true :=
      List.any_eq_true.mpr ⟨other, member, Bool.and_eq_true_iff.mpr ⟨beq_self_eq_true _,
        List.any_eq_true.mpr ⟨column, present, by simp [primary]⟩⟩⟩
    rw [isDescribed.name, ← named, Configuration.hides, key] at isHidden
    simp at isHidden
  have ofIndex := indexed other member stored found
  intro position isPosition
  rcases List.mem_append.mp isPosition with ofRows | ofGroups
  · refine TableDefinition.hides_positions_eq_false (fun name among => ?_) position ofRows
    simp only [VisitOrder.columns, List.mem_append] at among
    rcases among with (isKey | isUnique) | isIndexed
    · exact ofKey name isKey
    · exact ofIndex name (List.mem_append_left _ isUnique)
    · exact ofIndex name (List.mem_append_right _ (List.mem_append_left _ isIndexed))
  · refine TableDefinition.hides_positions_eq_false (fun name among => ?_) position ofGroups
    simp only [VisitOrder.columns, List.mem_append] at among
    rcases among with (isKey | isUnique) | isIndexed
    · exact ofKey name isKey
    · exact ofIndex name (List.mem_append_left _ isUnique)
    · exact ofIndex name (List.mem_append_right _ (List.mem_append_right _ isIndexed))

/-- The sole key of a held table does not count as hidden. -/
theorem spares_primaryKey (isDescribed : ∃ other ∈ described.tables, other.name = table)
    {key : String} (isKey : database.primaryKey table = .ok key) :
    configuration.Spares described table key := by
  obtain ⟨other, member, rfl⟩ := isDescribed
  rw [holds.hasKeysOf.primaryKey_eq member] at isKey
  cases sole : other.primaryKey? with
  | none =>
      rw [sole] at isKey
      cases isKey
  | some found =>
      rw [sole] at isKey
      rw [← Except.ok.inj isKey]
      exact configuration.spares_key member sole

/-- Names without dots have no name of another column as a part. -/
theorem separatesNames
    (undotted : ∀ table ∈ described.tables, ∀ column ∈ table.columns, IsUndotted column.name) :
    configuration.SeparatesNames described := by
  intro table column spares part isPart other member named hidden isColumn isHidden
  obtain ⟨owner, among, rfl, present⟩ := spares.present
  obtain ⟨own, isOwn, rfl⟩ := List.mem_map.mp present
  rw [Identifier.parts_eq_singleton (undotted owner among own isOwn), List.mem_singleton] at isPart
  rw [isPart, String.ofList_toList]
  obtain ⟨stored, found, isDescribed⟩ := holds owner among
  have shows := isDescribed.shows present spares.shown
  have columns := (holds.isDescribedBy found member named).columns
  have isName : hidden.name ∈ stored.definition.columns.map ColumnDefinition.name := by
    rw [columns]
    exact List.mem_map_of_mem isColumn
  obtain ⟨definition, isStored, same⟩ := List.mem_map.mp isName
  rw [← same]
  refine shows definition isStored ?_
  rw [isDescribed.name, same]
  exact isHidden

end Database.Holds

/-! ## Selections -/

namespace TableSelection

/-- A selection of a stored table whose fragments name shown columns. -/
structure IsShown (hidden : String → String → Bool) (database : Database)
    (selection : TableSelection) : Prop where
  slotted : selection.IsSlotted
  undotted : IsUndotted selection.table
  stored : ∃ stored, database.table? selection.table = some stored ∧
    stored.definition.name = selection.table ∧ stored.HasWidth ∧
      database.VisitsShown hidden stored.definition ∧
        selection.NamesIn (stored.definition.Shows hidden)

namespace IsShown

variable {hidden : String → String → Bool} {database other : Database} {selection : TableSelection}
  {head : Head}

/-- What an untrusted caller selects of a held table names shown columns, when the caller
writes no name of a hidden one and the relation spares them. -/
theorem of_calls {described : Structure} {configuration : Configuration} {table : String}
    (holds : database.Holds described) (separates : configuration.SeparatesNames described)
    (indexed : database.IndexesShown described (configuration.hides described))
    (isDescribed : ∃ other ∈ described.tables, other.name = table)
    (tableUndotted : TableGraph.IsUndotted table) {depth : Nat} {arguments : Arguments}
    {calls : List Narrowing}
    (compiled : (⟨false, depth⟩ : Compiler).argumentCalls arguments = .ok calls)
    (shown : ∀ name ∈ arguments.restrictingNames ++ arguments.orderNames,
      configuration.ShowsName described table name)
    {conditions : List (String × Value)}
    (spared : ∀ condition ∈ conditions, configuration.Spares described table condition.1) :
    (calls.foldl narrow
      ((ofTable table).behind (conditions.map Fragment.equality))).IsShown
        (configuration.hides described) database := by
  obtain ⟨other, member, rfl⟩ := isDescribed
  obtain ⟨stored, found, describedBy⟩ := holds other member
  have ofCalls : (calls.foldl narrow (ofTable other.name)).table = other.name := by
    obtain ⟨filter, having, _, _, selection⟩ := Compiler.foldl_argumentCalls compiled other.name
    rw [selection]
  rw [foldl_narrow_behind]
  have isTable : ((calls.foldl narrow (ofTable other.name)).behind
      (conditions.map Fragment.equality)).table = other.name := ofCalls
  constructor
  · refine (Compiler.isSlotted_foldl compiled other.name).behind fun fragment isFragment => ?_
    obtain ⟨condition, _, rfl⟩ := List.mem_map.mp isFragment
    exact Fragment.isSlotted_equality condition
  · rw [isTable]
    exact tableUndotted
  · rw [isTable]
    refine ⟨stored, found, describedBy.name, describedBy.width,
      holds.visitsShown indexed found member rfl, ?_⟩
    have names := Compiler.namesIn_foldl compiled
      (fun name isName => describedBy.partsIn member (shown name isName)) other.name
    exact names.behind fun condition isCondition =>
      holds.partsIn_of_spares separates found (spared condition isCondition)

theorem congr (isShown : selection.IsShown hidden database)
    (alike : database.veiled hidden = other.veiled hidden) : selection.IsShown hidden other := by
  obtain ⟨stored, found, named, hasWidth, visits, names⟩ := isShown.stored
  obtain ⟨twin, foundTwin, same⟩ := Database.exists_table?_of_alike alike found
  rw [StoredTable.definition_congr same] at named visits names
  exact ⟨isShown.slotted, isShown.undotted, twin, foundTwin, named, hasWidth.congr same,
    Database.VisitsShown.congr visits alike, names⟩

/-- The statement of a selection is a query whose clauses name shown columns only. -/
theorem exists_statement (isShown : selection.IsShown hidden database)
    (isUsual : head ∈ [Head.rows, .count "*"]) :
    ∃ statement stored, selection.render head = .ok statement ∧
      database.table? selection.table = some stored ∧
      stored.definition.name = selection.table ∧ stored.HasWidth ∧
      database.VisitsShown hidden stored.definition ∧
      ∀ query, Query.ofStatement statement.text (statement.binds.map Cell.ofValue) = .ok query →
        query.IsOver (stored.definition.Shows hidden) selection.table := by
  obtain ⟨stored, found, named, hasWidth, visits, names⟩ := isShown.stored
  obtain ⟨statement, rendered, isOver⟩ :=
    isShown.slotted.exists_statement names isShown.undotted isUsual
  exact ⟨statement, stored, rendered, found, named, hasWidth, visits, isOver⟩

theorem runSelection_of_render {Answer : Type} {statement : Statement}
    (rendered : selection.render head = .ok statement) (run : Statement → Except String Answer) :
    Database.runSelection selection head run =
      ((run statement).mapError .engine, (selection.execute head).2) := by
  rw [Database.runSelection, execute, rendered]
  cases ran : run statement <;> simp only [ran] <;> rfl

/-- The rows that a selection finds are those of the veiled database, unveiled. -/
theorem runSelection_rows (isShown : selection.IsShown hidden database) :
    ((Database.runSelection selection .rows (database.fetchRows selection.table)).1.map
        (List.map (Row.veiled hidden)),
      (Database.runSelection selection .rows (database.fetchRows selection.table)).2) =
      Database.runSelection selection .rows
        ((database.veiled hidden).fetchRows selection.table) := by
  obtain ⟨statement, stored, rendered, found, named, hasWidth, visits, isOver⟩ :=
    isShown.exists_statement List.mem_cons_self
  rw [runSelection_of_render rendered, runSelection_of_render rendered,
    Database.fetchRows_veiled found hasWidth visits named isOver]
  cases database.fetchRows selection.table statement <;> rfl

theorem fetch_table (isShown : selection.IsShown hidden database) {rows : List Row}
    (fetched : (Database.datastore.fetch selection database).1.1 = .ok rows) :
    ∀ row ∈ rows, row.table = selection.table := by
  obtain ⟨statement, _, rendered, _⟩ := isShown.exists_statement List.mem_cons_self
  rw [Database.fetch_of_render rendered] at fetched
  exact Database.fetchRows_table (mapError_eq_ok fetched)

/-- A selection counts the rows of the veiled database. -/
theorem runSelection_count (isShown : selection.IsShown hidden database) :
    Database.runSelection selection (.count "*") database.fetchNumber =
      Database.runSelection selection (.count "*") (database.veiled hidden).fetchNumber := by
  obtain ⟨statement, stored, rendered, found, _, hasWidth, visits, isOver⟩ :=
    isShown.exists_statement (List.mem_cons_of_mem _ List.mem_cons_self)
  rw [runSelection_of_render rendered, runSelection_of_render rendered,
    Database.fetchNumber_veiled found hasWidth visits isOver]

variable (isShown : selection.IsShown hidden database)
  (alike : database.veiled hidden = other.veiled hidden)

include isShown alike

theorem fetch_alike :
    ((Database.datastore.fetch selection database).1.1.map (List.map (Row.veiled hidden)),
        (Database.datastore.fetch selection database).1.2) =
      ((Database.datastore.fetch selection other).1.1.map (List.map (Row.veiled hidden)),
        (Database.datastore.fetch selection other).1.2) := by
  have own := isShown.runSelection_rows
  rw [alike] at own
  exact own.trans (isShown.congr alike).runSelection_rows.symm

theorem count_alike :
    (Database.datastore.count selection "*" database).1 =
      (Database.datastore.count selection "*" other).1 := by
  have own := isShown.runSelection_count
  rw [alike] at own
  exact own.trans (isShown.congr alike).runSelection_count.symm

end IsShown

end TableSelection

end TableGraph
