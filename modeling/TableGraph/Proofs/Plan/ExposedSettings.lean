import Mathlib
import TableGraph.Proofs.Plan.FieldKinds

/-!
# Settings name only what is exposed

Whatever tables and columns the settings of a planned field name are exposed: the tables
become object types, and the columns are there and not hidden in the table that they are
read from or that is filtered on them.  A reference is read from the row that it is asked
of, an inverse reference is filtered on the rows that reference it.
-/

namespace TableGraph

namespace Configuration

/-- A table of a structure that becomes an object type. -/
def ExposesTable (configuration : Configuration) (database : Structure) (name : String) : Prop :=
  ∃ table ∈ database.tables, table.name = name ∧ configuration.exposes table = true

/-- A column of an exposed table that is not hidden. -/
def ExposesColumn (configuration : Configuration) (database : Structure)
    (name column : String) : Prop :=
  ∃ table ∈ database.tables, table.name = name ∧ configuration.exposes table = true ∧
    (∃ found ∈ table.columns, found.name = column) ∧ configuration.isColumnVisible name column = true

theorem visibleColumn?_eq_some {configuration : Configuration} {table : Table} {name : String}
    {column : Column} (visible : configuration.visibleColumn? table name = some column) :
    column ∈ table.columns ∧ column.name = name ∧
      configuration.isColumnVisible table.name name = true := by
  obtain ⟨found, notHidden⟩ := Option.filter_eq_some_iff.mp visible
  have member : column ∈ table.columns := List.mem_of_find?_eq_some found
  have same : column.name = name :=
    eq_of_beq (List.find?_some (p := fun column : Column => column.name == name) found)
  rw [same] at notHidden
  exact ⟨member, same, notHidden⟩

end Configuration

namespace FieldPlan

/-- The table that has the referencing column of a field of an object type of a table. -/
def referencingTable? (own : String) (field : FieldPlan) : Option String :=
  if field.resolver = some .belongsTo then some own else field.settings.tableName

/-- A field of an object type of a table whose settings name nothing that is hidden. -/
structure NamesExposed (configuration : Configuration) (database : Structure) (own : String)
    (field : FieldPlan) : Prop where
  table : ∀ table ∈ field.settings.tableName, configuration.ExposesTable database table
  column : ∀ column ∈ field.settings.columnName, configuration.ExposesColumn database own column
  referencing : ∀ column ∈ field.settings.referencingColumn,
    ∃ table ∈ field.referencingTable? own, configuration.ExposesColumn database table column
  referencingType : ∀ column ∈ field.settings.referencingTypeColumn,
    ∃ table ∈ field.settings.tableName, configuration.ExposesColumn database table column
  /-- The columns of a relation are read from the row that the field is asked of. -/
  relation : ∀ relation ∈ field.settings.morphRelation, relation.table = own ∧
    configuration.ExposesColumn database own relation.idColumn ∧
      configuration.ExposesColumn database own relation.typeColumn

end FieldPlan

namespace PlanSource

variable {source : PlanSource}

/-! ## Exposed tables and columns -/

theorem mem_tables_of_named {entry : Table × String} (member : entry ∈ source.namedTables) :
    entry.1 ∈ source.database.tables ∧ source.configuration.exposes entry.1 = true :=
  List.mem_filter.mp (mem_exposedTables member)

theorem exposesTable_of_named {entry : Table × String} (member : entry ∈ source.namedTables) :
    source.configuration.ExposesTable source.database entry.1.name := by
  obtain ⟨present, exposed⟩ := mem_tables_of_named member
  exact ⟨entry.1, present, rfl, exposed⟩

theorem exposesColumn_of_named {entry : Table × String} (member : entry ∈ source.namedTables)
    {column : Column} (present : column ∈ entry.1.columns)
    (visible : source.configuration.isColumnVisible entry.1.name column.name = true) :
    source.configuration.ExposesColumn source.database entry.1.name column.name := by
  obtain ⟨tablePresent, exposed⟩ := mem_tables_of_named member
  exact ⟨entry.1, tablePresent, rfl, exposed, ⟨column, present, rfl⟩, visible⟩

theorem exposesColumn_of_isSome {entry : Table × String} (member : entry ∈ source.namedTables)
    {name : String} (visible : (source.configuration.visibleColumn? entry.1 name).isSome = true) :
    source.configuration.ExposesColumn source.database entry.1.name name := by
  obtain ⟨column, isVisible⟩ := Option.isSome_iff_exists.mp visible
  obtain ⟨present, rfl, notHidden⟩ := Configuration.visibleColumn?_eq_some isVisible
  exact exposesColumn_of_named member present notHidden

/-- A named table is the one that is found by its name. -/
theorem exists_named_of_table? (distinct : (source.database.tables.map Table.name).Nodup)
    {name : String} {table : Table} (found : source.database.table? name = some table)
    (exposed : source.isExposed name = true) :
    ∃ entry ∈ source.namedTables, entry.1 = table ∧ entry.1.name = name := by
  obtain ⟨entry, member, same⟩ := isExposed_iff.mp exposed
  have foundToo : source.database.table? entry.1.name = some entry.1 :=
    Structure.table?_of_mem distinct (mem_tables_of_named member).1
  rw [same, found] at foundToo
  exact ⟨entry, member, (Option.some.inj foundToo).symm, same⟩

theorem exposes_of_morphOwner? (distinct : (source.database.tables.map Table.name).Nodup)
    {relation : MorphRelation} {owner : Table} (owned : source.morphOwner? relation = some owner) :
    source.configuration.ExposesTable source.database relation.table ∧
      source.configuration.ExposesColumn source.database relation.table relation.idColumn ∧
      source.configuration.ExposesColumn source.database relation.table relation.typeColumn := by
  obtain ⟨exposed, found, idVisible, typeVisible⟩ := morphOwner?_eq_some owned
  obtain ⟨entry, member, rfl, same⟩ := exists_named_of_table? distinct found exposed
  rw [← same]
  exact ⟨exposesTable_of_named member, exposesColumn_of_isSome member idVisible,
    exposesColumn_of_isSome member typeVisible⟩

/-! ## Fields -/

theorem namesExposed_listAndCount (typeColumn : Option String)
    {name object own table column : String} {field : FieldPlan}
    (exposed : source.configuration.ExposesTable source.database table)
    (columnExposed : source.configuration.ExposesColumn source.database table column)
    (typeExposed : ∀ named ∈ typeColumn,
      source.configuration.ExposesColumn source.database table named)
    (member : field ∈ listAndCount name object { FieldSettings.blank with
      tableName := some table, referencingColumn := some column,
      referencingTypeColumn := typeColumn }) :
    field.NamesExposed source.configuration source.database own := by
  have settings : field.settings = { FieldSettings.blank with
      tableName := some table, referencingColumn := some column,
      referencingTypeColumn := typeColumn } := by
    rcases mem_listAndCount.mp member with rfl | rfl <;> rfl
  have inverse : field.referencingTable? own = some table := by
    rcases mem_listAndCount.mp member with rfl | rfl <;> rfl
  constructor
  · intro _ named
    rw [settings] at named
    cases named
    exact exposed
  · intro _ named
    rw [settings] at named
    cases named
  · intro _ named
    rw [settings] at named
    cases named
    exact ⟨table, inverse, columnExposed⟩
  · intro column named
    rw [settings] at named ⊢
    exact ⟨table, rfl, typeExposed column named⟩
  · intro _ named
    rw [settings] at named
    cases named

/-- Whatever a field comes from, nothing hidden is named by its settings. -/
theorem namesExposed_of_origin (distinct : (source.database.tables.map Table.name).Nodup)
    {entry : Table × String} (entryMember : entry ∈ source.namedTables) {field : FieldPlan}
    (origin : FieldOrigin source entry.1 field) :
    field.NamesExposed source.configuration source.database entry.1.name := by
  cases origin with
  | column planned =>
      obtain ⟨column, exposed, scalar, rfl⟩ := mem_columnFields planned
      obtain ⟨present, visible⟩ := List.mem_filter.mp exposed
      have notHidden := (Bool.and_eq_true_iff.mp visible).1
      constructor
      · rintro _ ⟨⟩
      · rintro _ ⟨⟩
        exact exposesColumn_of_named entryMember present notHidden
      · rintro _ ⟨⟩
      · rintro _ ⟨⟩
      · rintro _ ⟨⟩
  | belongsTo declared planned =>
      obtain ⟨column, object, visible, named, rfl⟩ := belongsToField?_eq_some planned
      obtain ⟨target, targetMember, targetName, _⟩ := exists_of_objectOf? named
      have targetExposed := exposesTable_of_named targetMember
      have isVisible := Option.isSome_of_eq_some visible
      constructor
      · rintro _ ⟨⟩
        rw [← targetName]
        exact targetExposed
      · rintro _ ⟨⟩
      · rintro _ ⟨⟩
        exact ⟨entry.1.name, rfl, exposesColumn_of_isSome entryMember isVisible⟩
      · rintro _ ⟨⟩
      · rintro _ ⟨⟩
  | morphTo declared planned =>
      obtain ⟨same, owned, rfl⟩ := morphToField?_eq_some planned
      obtain ⟨owner, isOwner⟩ := Option.isSome_iff_exists.mp owned
      obtain ⟨_, idExposed, typeExposed⟩ := exposes_of_morphOwner? distinct isOwner
      rw [same] at idExposed typeExposed
      constructor
      · rintro _ ⟨⟩
      · rintro _ ⟨⟩
      · rintro _ ⟨⟩
      · rintro _ ⟨⟩
      · rintro _ ⟨⟩
        exact ⟨same, idExposed, typeExposed⟩
  | hasMany declared planned =>
      obtain ⟨object, other, named, found, column, _, offered⟩ := mem_hasManyFieldsOf planned
      obtain ⟨visible, listed⟩ := mem_hasManyFields offered
      have exposed := isSome_objectOf?.mp (Option.isSome_of_eq_some named)
      obtain ⟨otherEntry, otherMember, rfl, _⟩ := exists_named_of_table? distinct found exposed
      exact namesExposed_listAndCount none (exposesTable_of_named otherMember)
        (exposesColumn_of_isSome otherMember visible) (by rintro _ ⟨⟩) listed
  | @inverse relation _ _ _ _ declared owned _ _ _ planned =>
      obtain ⟨exposed, idExposed, typeExposed⟩ := exposes_of_morphOwner? distinct owned
      refine namesExposed_listAndCount (some relation.typeColumn) exposed idExposed ?_ planned
      rintro _ ⟨⟩
      exact typeExposed

theorem exposesTable_objects {object : ObjectPlan} (planned : object ∈ source.plan.objects) :
    source.configuration.ExposesTable source.database object.table := by
  obtain ⟨entry, entryMember, isPlan⟩ := isPlanOf_objects object planned
  rw [isPlan.table]
  exact exposesTable_of_named entryMember

theorem namesExposed_objects (distinct : (source.database.tables.map Table.name).Nodup)
    {object : ObjectPlan} (planned : object ∈ source.plan.objects) {field : FieldPlan}
    (member : field ∈ object.fields) :
    field.NamesExposed source.configuration source.database object.table := by
  obtain ⟨entry, entryMember, isPlan⟩ := isPlanOf_objects object planned
  rw [isPlan.table]
  exact namesExposed_of_origin distinct entryMember (isPlan.origin field member)

/-- A root field names an exposed table and nothing else. -/
theorem exists_settings_query {field : FieldPlan} (member : field ∈ source.plan.query) :
    ∃ table, source.configuration.ExposesTable source.database table ∧
      field.settings = { FieldSettings.blank with tableName := some table } := by
  obtain ⟨entry, entryMember, offered⟩ := exists_of_mem_query member
  refine ⟨entry.1.name, exposesTable_of_named entryMember, ?_⟩
  rcases mem_rootFields.mp offered with rfl | rfl <;> rfl

end PlanSource

end TableGraph
