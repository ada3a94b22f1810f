import TableGraph.Proofs.Database.Introspection
import TableGraph.Proofs.Resolving.References
import TableGraph.Proofs.Text.Utf8

/-!
# Relations along foreign keys

An edge that is introspected stands for a foreign key of one column.  When the key leads to
the primary key of its table, the fields of the edge follow it: a row leads to the one row
whose key it holds, and a row is given the rows that hold its key
(`IsConsistent.relations_follow`).  The edge does not say which column its key leads to, so
a key that leads to another unique column is followed to the wrong rows.
-/

namespace TableGraph

/-! ## Cells that are read and bound -/

namespace Cell

/-- Whether a text is in UTF-8. -/
def IsUtf8 : Cell → Prop
  | .text bytes => ∃ text, bytes = bytesOf text
  | _ => True

/-- The value of a cell is bound as this cell. -/
theorem ofValue_toValue {cell : Cell} (utf8 : cell.IsUtf8) (ordered : cell.isOrdered = true) :
    ofValue cell.toValue = cell := by
  cases cell with
  | null => rfl
  | integer value => rfl
  | real value =>
      have isNumber : value.isNaN = false := by simpa [isOrdered] using ordered
      simp [toValue, ofValue, ofDouble, isNumber]
  | text bytes =>
      obtain ⟨text, rfl⟩ := utf8
      simp only [toValue, ofValue, ofText, bytesOf, Utf8.decodeLossy_utf8EncodeChar]
  | blob bytes => rfl

theorem isNull_toValue (cell : Cell) : cell.toValue.isNull = cell.isNull := by
  cases cell <;> rfl

end Cell

namespace Database

variable {database : Database} {referencing referenced : StoredTable} {foreignKey : ForeignKey}
  {table column target key : String}

/-! ## Following a foreign key -/

/-- The fields of an edge follow its values: a cell leads to the only row with this key, and
the rows whose cell equals the key of a row are given as the engine finds them, both as the
engine compares a column with a value.  Between columns of one affinity and one collation
cells are equal either way. -/
structure Follows (database : Database) (referencing referenced : StoredTable)
    (table column target key : String) : Prop where
  belongsTo : ∀ row ∈ referencing.rows, (referencing.cellOf column row).isNull = false →
    (referencing.cellOf column row).IsUtf8 →
    (∀ definition ∈ referenced.definition.columns, definition.name = key →
      definition.affinity.Keeps (referencing.cellOf column row)) →
    ∃ found ∈ referenced.rows,
      referenced.rows.filter (referenced.equals key (referencing.cellOf column row)) = [found] ∧
        ∀ (compiler : Compiler) (typeNames : List (String × String)) (settings : FieldSettings)
          (arguments : Arguments) (session : Session Database), session.store = database →
          settings.tableName = some target → settings.referencingColumn = some column →
          ((resolver compiler typeNames).resolve .belongsTo (some (referencing.fetched table row))
            arguments settings session).1 = .ok (.row (some (referenced.fetched target found)))
  hasMany : ∀ parent ∈ referenced.rows, (referenced.cellOf key parent).IsUtf8 →
    ∀ (compiler : Compiler) (typeNames : List (String × String)) (settings : FieldSettings)
      (session : Session Database) (name : String), session.store = database →
      database.table? name = some referenced → settings.tableName = some table →
      settings.referencingColumn = some column → settings.referencingTypeColumn = none →
      ∃ rows : List StoredRow,
        rows.Perm (referencing.rows.filter
          (referencing.equals column (referenced.cellOf key parent))) ∧
        ((resolver compiler typeNames).resolve .hasMany (some (referenced.fetched name parent))
          .blank settings session).1 = .ok (.rows (rows.map (referencing.fetched table)))
  inverse : (∀ definition ∈ referencing.definition.columns, definition.name = column →
      ∀ other ∈ referenced.definition.columns, other.name = key →
        definition.kind = other.kind) →
    ∀ row ∈ referencing.rows, ∀ parent ∈ referenced.rows,
      referencing.equals column (referenced.cellOf key parent) row =
        referenced.equals key (referencing.cellOf column row) parent

section

variable {compiler : Compiler} {typeNames : List (String × String)} {settings : FieldSettings}
  {session : Session Database}

/-- A cell that is the key of one row leads to this row. -/
theorem resolve_belongsTo_of_filter (fromTable : referencing.IsConsistent)
    (references : referencing.definition.References foreignKey column target)
    (isTarget : session.store.table? target = some referenced)
    (toTable : referenced.IsConsistent) (isKey : referenced.definition.keyNames = [key])
    (targetUndotted : IsUndotted target) (keyUndotted : IsUndotted key)
    (isTableName : settings.tableName = some target)
    (isColumnName : settings.referencingColumn = some column) {row found : StoredRow}
    (isRow : row ∈ referencing.rows) (present : (referencing.cellOf column row).isNull = false)
    (utf8 : (referencing.cellOf column row).IsUtf8)
    (only : referenced.rows.filter (referenced.equals key (referencing.cellOf column row)) =
      [found]) (arguments : Arguments) :
    ((resolver compiler typeNames).resolve .belongsTo (some (referencing.fetched table row))
      arguments settings session).1 = .ok (.row (some (referenced.fetched target found))) := by
  obtain ⟨place, definition, isPlace, isColumn, named, _⟩ := fromTable.exists_reference references
  obtain ⟨position, _, isPosition, _⟩ := toTable.exists_key isKey
  have holds := fromTable.value?_fetched isRow isPlace isColumn named table
  rw [← Cell.ofValue_toValue utf8 (fromTable.isOrdered_cellOf isRow column)] at only
  rw [← Cell.isNull_toValue] at present
  rw [Resolver.resolve_belongsTo isTableName isColumnName,
    fetchOne_of_value holds present (primaryKey_of_keyNames isTarget isKey),
    fetch_wherever_of_only isTarget targetUndotted keyUndotted (isPosition ▸ rfl) only]
  rfl

/-- The rows that hold the key of a row are given. -/
theorem resolve_hasMany_of_key (fromTable : referencing.IsConsistent)
    (references : referencing.definition.References foreignKey column target)
    (isTable : session.store.table? table = some referencing)
    (toTable : referenced.IsConsistent) (isKey : referenced.definition.keyNames = [key])
    (tableUndotted : IsUndotted table) (columnUndotted : IsUndotted column)
    (isTableName : settings.tableName = some table)
    (isColumnName : settings.referencingColumn = some column)
    (notPolymorphic : settings.referencingTypeColumn = none) {name : String}
    (isName : session.store.table? name = some referenced) {parent : StoredRow}
    (isParent : parent ∈ referenced.rows) (utf8 : (referenced.cellOf key parent).IsUtf8) :
    ∃ rows : List StoredRow,
      rows.Perm (referencing.rows.filter
        (referencing.equals column (referenced.cellOf key parent))) ∧
      ((resolver compiler typeNames).resolve .hasMany (some (referenced.fetched name parent)) .blank
        settings session).1 = .ok (.rows (rows.map (referencing.fetched table))) := by
  obtain ⟨place, _, isPlace, _⟩ := fromTable.exists_reference references
  obtain ⟨position, definition, isPosition, isColumn, named, _⟩ := toTable.exists_key isKey
  have holds := toTable.value?_fetched isParent isPosition isColumn named name
  have primary : session.store.primaryKey (referenced.fetched name parent).table = .ok key :=
    primaryKey_of_keyNames isName isKey
  obtain ⟨visited, perm, fetched⟩ := fetch_wherever isTable tableUndotted columnUndotted
    (isPlace ▸ rfl) (referenced.cellOf key parent).toValue false
  rw [Cell.ofValue_toValue utf8 (toTable.isOrdered_cellOf isParent key)] at fetched
  refine ⟨_, perm.filter (referencing.equals column (referenced.cellOf key parent)), ?_⟩
  rw [resolve_hasMany isTableName isColumnName notPolymorphic primary, holds, Option.getD_some,
    fetched]
  rfl

end

/-- A foreign key that leads to a primary key is followed. -/
theorem IsConsistent.follows (consistent : database.IsConsistent)
    (isTable : database.table? table = some referencing)
    (references : referencing.definition.References foreignKey column target)
    (leads : database.LeadsToKey foreignKey referenced key) (tableUndotted : IsUndotted table)
    (columnUndotted : IsUndotted column) (targetUndotted : IsUndotted target)
    (keyUndotted : IsUndotted key) :
    database.Follows referencing referenced table column target key := by
  have isTarget : database.table? target = some referenced :=
    references.target ▸ (target?_eq_some.mp leads.columns).1
  have fromTable := consistent.tables referencing (mem_of_table? isTable)
  have toTable := consistent.tables referenced (mem_of_table? isTarget)
  refine ⟨?belongsTo, ?hasMany, ?inverse⟩
  case belongsTo =>
    intro row isRow present utf8 keeps
    obtain ⟨found, isFound, only⟩ := consistent.exists_filter_eq (mem_of_table? isTable) references
      leads isRow present keeps
    refine ⟨found, isFound, only, fun compiler typeNames settings arguments session isStore
      isTableName isColumnName => ?_⟩
    subst isStore
    exact resolve_belongsTo_of_filter fromTable references isTarget toTable leads.key
      targetUndotted keyUndotted isTableName isColumnName isRow present utf8 only arguments
  case hasMany =>
    intro parent isParent utf8 compiler typeNames settings session name isStore isName isTableName
      isColumnName notPolymorphic
    subst isStore
    exact resolve_hasMany_of_key fromTable references isTable toTable leads.key tableUndotted
      columnUndotted isTableName isColumnName notPolymorphic isName isParent utf8
  case inverse =>
    intro alike row isRow parent isParent
    obtain ⟨place, columnDefinition, isPlace, isColumn, columnNamed, _⟩ :=
      fromTable.exists_reference references
    obtain ⟨position, keyDefinition, isPosition, isKeyColumn, keyNamed, _⟩ :=
      toTable.exists_key leads.key
    have sameKind := alike columnDefinition (List.mem_of_getElem? isColumn) columnNamed
      keyDefinition (List.mem_of_getElem? isKeyColumn) keyNamed
    rw [fromTable.equals_eq isRow isPlace isColumn,
      toTable.equals_eq isParent isPosition isKeyColumn]
    exact ColumnDefinition.equals_comm sameKind (fromTable.isOrdered_cellOf isRow column)
      (toTable.isOrdered_cellOf isParent key)

/-- The fields of an introspected edge follow the foreign keys behind it that lead to a
primary key, and there is a foreign key behind it. -/
theorem IsConsistent.relations_follow (consistent : database.IsConsistent) {described : Table}
    (member : described ∈ database.introspect.tables)
    (edge : (column, target) ∈ described.belongsTo) :
    ∃ referencing, database.table? described.name = some referencing ∧
      (∃ foreignKey, referencing.definition.References foreignKey column target) ∧
      ∀ foreignKey, referencing.definition.References foreignKey column target →
        ∀ referenced key, database.LeadsToKey foreignKey referenced key →
          IsUndotted described.name → IsUndotted column → IsUndotted target → IsUndotted key →
          database.Follows referencing referenced described.name column target key := by
  obtain ⟨stored, isStored, named, edges⟩ := consistent.exists_stored member
  have isTable : database.table? described.name = some stored :=
    named ▸ consistent.table?_of_mem isStored
  refine ⟨stored, isTable, TableDefinition.exists_foreignKey_of_edge (edges ▸ edge), ?_⟩
  intro foreignKey references referenced key leads tableUndotted columnUndotted targetUndotted
    keyUndotted
  exact consistent.follows isTable references leads tableUndotted columnUndotted targetUndotted
    keyUndotted

/-! ### Loans of copies -/

private def copiesTable : StoredTable :=
  ⟨⟨"copies", [⟨"id", "INTEGER", false, .null⟩, ⟨"barcode", "INTEGER", false, .null⟩], ["id"],
    [["barcode"]], [], true⟩,
    [⟨1, [.integer 1, .integer 7]⟩, ⟨7, [.integer 7, .integer 5]⟩]⟩

private def copyKey (targets : List String) : ForeignKey := ⟨["copy"], "copies", targets⟩

private def loansTable (targets : List String) : StoredTable :=
  ⟨⟨"loans", [⟨"id", "INTEGER", false, .null⟩, ⟨"copy", "INTEGER", false, .null⟩], ["id"], [],
    [copyKey targets], true⟩,
    [⟨1, [.integer 1, .integer 7]⟩]⟩

/-- A loan of the copy whose key or whose barcode is 7. -/
private def libraryOf (targets : List String) : Database :=
  { Database.empty with tables := [copiesTable, loansTable targets] }

private theorem isConsistent_copiesTable : copiesTable.IsConsistent where
  distinct := by decide
  known := by decide
  width := by decide
  stored := by decide
  keys := by decide

private theorem isConsistent_loansTable (targets : List String) :
    (loansTable targets).IsConsistent := by
  have plain : (loansTable []).IsConsistent :=
    { distinct := by decide
      known := by decide
      width := by decide
      stored := by decide
      keys := by decide }
  exact ⟨plain.distinct, plain.known, plain.width, plain.stored, plain.keys⟩

private theorem isConsistent_libraryOf {targets : List String}
    (satisfied : (libraryOf targets).danglingCount = 0) : (libraryOf targets).IsConsistent where
  distinct := by cbv
  tables := by
    intro table member
    rcases List.mem_pair.mp member with rfl | rfl
    · exact isConsistent_copiesTable
    · exact isConsistent_loansTable targets
  references := satisfied

private theorem exists_described (targets : List String) :
    ∃ described ∈ (libraryOf targets).introspect.tables, described.name = "loans" ∧
      ("copy", "copies") ∈ described.belongsTo := by
  have tables : (libraryOf targets).introspect.tables =
      [⟨"copies", [⟨"id", false, true, "INTEGER", none⟩, ⟨"barcode", true, false, "INTEGER", none⟩],
        [], [("loans", ["copy"])]⟩,
        ⟨"loans", [⟨"id", false, true, "INTEGER", none⟩, ⟨"copy", true, false, "INTEGER", none⟩],
        [("copy", "copies")], []⟩] := by cbv
  exact ⟨_, tables ▸ List.mem_cons_of_mem _ List.mem_cons_self, rfl, List.mem_cons_self⟩

private def loan : StoredRow := ⟨1, [.integer 1, .integer 7]⟩

private def firstCopy : StoredRow := ⟨1, [.integer 1, .integer 7]⟩

private def seventhCopy : StoredRow := ⟨7, [.integer 7, .integer 5]⟩

private def copySettings : FieldSettings :=
  { FieldSettings.blank with tableName := some "copies", referencingColumn := some "copy" }

private def loansSettings : FieldSettings :=
  { FieldSettings.blank with tableName := some "loans", referencingColumn := some "copy" }

private def sessionOf (targets : List String) : Session Database :=
  ⟨libraryOf targets, ⟨none, none⟩⟩

private theorem loans_libraryOf (targets : List String) :
    (libraryOf targets).table? "loans" = some (loansTable targets) := by cbv

private theorem copies_libraryOf (targets : List String) :
    (libraryOf targets).table? "copies" = some copiesTable := by cbv

private theorem references_loansTable (targets : List String) :
    (loansTable targets).definition.References (copyKey targets) "copy" "copies" where
  declared := List.mem_cons_self
  columns := by cbv
  target := rfl

private theorem primaryKey_libraryOf (targets : List String) :
    (sessionOf targets).store.primaryKey "copies" = .ok "id" := rfl

private theorem belongsTo_libraryOf (targets : List String) :
    ((resolver (.new false) []).resolve .belongsTo
        (some ((loansTable targets).fetched "loans" loan)) .blank copySettings
        (sessionOf targets)).1 =
      .ok (.row (some (copiesTable.fetched "copies" seventhCopy))) := by
  have holds : ((loansTable targets).fetched "loans" loan).value? "copy" = some (.integer 7) := rfl
  have known : (copiesTable.definition.position? "id").isSome = true := rfl
  have only : copiesTable.rows.filter (copiesTable.equals "id" (Cell.ofValue (.integer 7))) =
      [seventhCopy] := rfl
  have fetched : (datastore.fetch (.wherever "copies" ("id", .integer 7) true)
      (sessionOf targets).store).1.1 = .ok _ :=
    fetch_wherever_of_only (copies_libraryOf targets) (by decide) (by decide) known only
  rw [Resolver.resolve_belongsTo rfl rfl, fetchOne_of_value holds rfl (primaryKey_libraryOf targets),
    fetched]
  rfl

private theorem hasMany_libraryOf (targets : List String) :
    ((resolver (.new false) []).resolve .hasMany
        (some (copiesTable.fetched "copies" firstCopy)) .blank loansSettings
        (sessionOf targets)).1 = .ok (.rows []) := by
  have holds : (copiesTable.fetched "copies" firstCopy).value? "id" = some (.integer 1) := rfl
  have known : ((loansTable targets).definition.position? "copy").isSome = true := rfl
  obtain ⟨visited, perm, fetched⟩ := fetch_wherever (loans_libraryOf targets) (by decide)
    (by decide) known (.integer 1) false
  have none := perm.filter ((loansTable targets).equals "copy" (Cell.ofValue (.integer 1)))
  have empty : (loansTable targets).rows.filter ((loansTable targets).equals "copy"
      (Cell.ofValue (.integer 1))) = [] := rfl
  rw [empty, List.perm_nil] at none
  change (datastore.fetch _ (sessionOf targets).store).1.1 = _ at fetched
  rw [resolve_hasMany rfl rfl rfl (primaryKey_libraryOf targets), holds, Option.getD_some, fetched,
    none]
  rfl

/-- A loan of a copy by its key leads to this copy, and the copy to its loan. -/
theorem relations_follow_loans :
    ((resolver (.new false) []).resolve .belongsTo
        (some ((loansTable ["id"]).fetched "loans" loan)) .blank copySettings
        (sessionOf ["id"])).1 =
      .ok (.row (some (copiesTable.fetched "copies" seventhCopy))) ∧
    ((resolver (.new false) []).resolve .hasMany
        (some (copiesTable.fetched "copies" seventhCopy)) .blank loansSettings
        (sessionOf ["id"])).1 =
      .ok (.rows [(loansTable ["id"]).fetched "loans" loan]) := by
  have consistent : (libraryOf ["id"]).IsConsistent := isConsistent_libraryOf rfl
  obtain ⟨described, member, named, edge⟩ := exists_described ["id"]
  obtain ⟨referencing, isTable, _, follow⟩ := consistent.relations_follow member edge
  rw [named] at isTable follow
  obtain rfl : loansTable ["id"] = referencing :=
    Option.some.inj ((loans_libraryOf ["id"]).symm.trans isTable)
  have leads : (libraryOf ["id"]).LeadsToKey (copyKey ["id"]) copiesTable "id" :=
    ⟨rfl, rfl⟩
  have follows := follow _ (references_loansTable ["id"]) _ _ leads (by decide) (by decide)
    (by decide) (by decide)
  have isCell : (loansTable ["id"]).cellOf "copy" loan = .integer 7 := rfl
  have isKey : copiesTable.cellOf "id" seventhCopy = .integer 7 := rfl
  constructor
  · have keeps : ∀ definition ∈ copiesTable.definition.columns, definition.name = "id" →
        definition.affinity.Keeps ((loansTable ["id"]).cellOf "copy" loan) := by
      intro definition isColumn _
      refine Affinity.keeps_of_ne_real ?_ (isCell ▸ rfl)
      rcases List.mem_pair.mp isColumn with rfl | rfl <;> decide
    obtain ⟨found, _, only, resolves⟩ :=
      follows.belongsTo loan List.mem_cons_self (isCell ▸ rfl) (isCell ▸ trivial) keeps
    have filtered : copiesTable.rows.filter (copiesTable.equals "id" (.integer 7)) =
        [seventhCopy] := rfl
    rw [isCell, filtered] at only
    obtain rfl : seventhCopy = found := List.head_eq_of_cons_eq only
    exact resolves _ _ _ _ _ rfl rfl rfl
  · have filtered : (loansTable ["id"]).rows.filter
        ((loansTable ["id"]).equals "copy" (.integer 7)) = [loan] := rfl
    obtain ⟨rows, perm, resolved⟩ := follows.hasMany seventhCopy
      (List.mem_cons_of_mem _ List.mem_cons_self) (isKey ▸ trivial) (.new false) [] loansSettings
      (sessionOf ["id"]) "copies" rfl (copies_libraryOf ["id"]) rfl rfl rfl
    rw [isKey, filtered, List.perm_singleton] at perm
    rw [perm] at resolved
    exact resolved

/-- A loan of a copy by its barcode is followed to the copy whose key is this barcode, and the
copy with the barcode is given no loan. -/
theorem not_relations_follow_barcode :
    (libraryOf ["barcode"]).IsConsistent ∧
      (∃ described ∈ (libraryOf ["barcode"]).introspect.tables, described.name = "loans" ∧
        ("copy", "copies") ∈ described.belongsTo) ∧
      (libraryOf ["barcode"]).table? "loans" = some (loansTable ["barcode"]) ∧
      (loansTable ["barcode"]).definition.References (copyKey ["barcode"]) "copy" "copies" ∧
      (libraryOf ["barcode"]).target? (copyKey ["barcode"]) = some (copiesTable, [1]) ∧
      copiesTable.definition.position? "barcode" = some 1 ∧
      (loan ∈ (loansTable ["barcode"]).rows ∧
        copiesTable.rows.filter (copiesTable.equals "barcode"
          ((loansTable ["barcode"]).cellOf "copy" loan)) = [firstCopy] ∧
        ((resolver (.new false) []).resolve .belongsTo
            (some ((loansTable ["barcode"]).fetched "loans" loan)) .blank copySettings
            (sessionOf ["barcode"])).1 =
          .ok (.row (some (copiesTable.fetched "copies" seventhCopy)))) ∧
      (loansTable ["barcode"]).rows.filter ((loansTable ["barcode"]).equals "copy"
        (copiesTable.cellOf "barcode" firstCopy)) = [loan] ∧
      ((resolver (.new false) []).resolve .hasMany
          (some (copiesTable.fetched "copies" firstCopy)) .blank loansSettings
          (sessionOf ["barcode"])).1 = .ok (.rows []) := by
  refine ⟨isConsistent_libraryOf rfl, exists_described ["barcode"], loans_libraryOf _,
    references_loansTable _, rfl, rfl, ⟨List.mem_cons_self, ?_, belongsTo_libraryOf _⟩, ?_,
    hasMany_libraryOf _⟩
  · have isCell : (loansTable ["barcode"]).cellOf "copy" loan = .integer 7 := rfl
    rw [isCell]
    rfl
  · have isCell : copiesTable.cellOf "barcode" firstCopy = .integer 7 := rfl
    rw [isCell]
    rfl

end Database

end TableGraph
