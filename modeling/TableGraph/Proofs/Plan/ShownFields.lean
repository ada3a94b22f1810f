import TableGraph.Proofs.Plan.ExposedSettings

/-!
# Fields over shown columns

Whatever tables a structure has, and whether or not their names are different, a planned
field reads its own table in a visible column, or follows visible columns of the referencing
table to an object type of the table that it is set to.
-/

namespace TableGraph

/-- An object type of a table of a plan. -/
def SchemaPlan.HasObject (plan : SchemaPlan) (table object : String) : Prop :=
  ∃ planned ∈ plan.objects, planned.table = table ∧ planned.name = object

/-- A described column that is visible. -/
structure Configuration.Exposes (configuration : Configuration) (described : Structure)
    (table column : String) : Prop where
  present : ∃ other ∈ described.tables, other.name = table ∧ column ∈ other.columns.map Column.name
  visible : configuration.isColumnVisible table column = true

/-- A field of the object type of a table: the columns that it reads or filters on are
visible, and it leads to the object type that it declares. -/
inductive FieldPlan.IsShown (source : PlanSource) (own : String) (field : FieldPlan) : Prop where
  | column {scalar : Scalar} {column : String}
      (resolver : field.resolver = none)
      (type : field.type = .scalar scalar)
      (settings : field.settings = { FieldSettings.blank with columnName := some column })
      (shown : source.configuration.Exposes source.database own column)
  | belongsTo {table object column : String}
      (resolver : field.resolver = some .belongsTo)
      (type : field.type = .object object)
      (settings : field.settings = { FieldSettings.blank with
        tableName := some table, referencingColumn := some column })
      (leads : source.plan.HasObject table object)
      (shown : source.configuration.Exposes source.database own column)
  | hasMany {table object column : String} {typeColumn : Option String}
      (isMany : field.resolver = some .hasMany ∧ field.type = .list object ∨
        field.resolver = some .hasManyCount ∧ field.type = .count)
      (settings : field.settings = { FieldSettings.blank with
        tableName := some table, referencingColumn := some column,
        referencingTypeColumn := typeColumn })
      (leads : source.plan.HasObject table object)
      (shown : source.configuration.Exposes source.database table column)
      (typeShown : ∀ named ∈ typeColumn,
        source.configuration.Exposes source.database table named)
  | morphTo {relation : MorphRelation}
      (resolver : field.resolver = some .morphTo)
      (type : field.type = .morph)
      (settings : field.settings = { FieldSettings.blank with morphRelation := some relation })
      (idShown : source.configuration.Exposes source.database own relation.idColumn)
      (typeShown : source.configuration.Exposes source.database own relation.typeColumn)

namespace FieldPlan.IsShown

variable {source : PlanSource} {own : String} {field : FieldPlan}

/-- A field without a resolver reads a visible column. -/
theorem exists_column (isShown : field.IsShown source own) (unresolved : field.resolver = none) :
    ∃ scalar column, field.type = .scalar scalar ∧
      field.settings = { FieldSettings.blank with columnName := some column } ∧
        source.configuration.Exposes source.database own column := by
  cases isShown with
  | column resolver type settings shown => exact ⟨_, _, type, settings, shown⟩
  | belongsTo resolver | morphTo resolver =>
      rw [resolver] at unresolved
      cases unresolved
  | hasMany isMany =>
      rcases isMany with ⟨resolver, _⟩ | ⟨resolver, _⟩ <;>
        · rw [resolver] at unresolved
          cases unresolved

theorem needsParent (isShown : field.IsShown source own) {kind : ResolverKind}
    (isKind : field.resolver = some kind) : kind.needsParent = true := by
  cases isShown with
  | column resolver =>
      rw [resolver] at isKind
      cases isKind
  | belongsTo resolver | morphTo resolver =>
      rw [resolver] at isKind
      obtain rfl := Option.some.inj isKind
      rfl
  | hasMany isMany =>
      rcases isMany with ⟨resolver, _⟩ | ⟨resolver, _⟩ <;>
        · rw [resolver] at isKind
          obtain rfl := Option.some.inj isKind
          rfl

end FieldPlan.IsShown

/-- A root field of a table. -/
inductive FieldPlan.IsRootOf (source : PlanSource) (field : FieldPlan) : Prop where
  | rows {table object : String}
      (isRoot : field.resolver = some .table ∧ field.type = .list object ∨
        field.resolver = some .tableCount ∧ field.type = .count)
      (settings : field.settings = { FieldSettings.blank with tableName := some table })
      (leads : source.plan.HasObject table object)

namespace PlanSource

variable {source : PlanSource} {field : FieldPlan}

theorem hasObject_of_named {entry : Table × String} (named : entry ∈ source.namedTables) :
    source.plan.HasObject entry.1.name entry.2 := by
  have among : (entry.1.name, entry.2) ∈ source.plan.objects.map naming := by
    rw [naming_plan]
    exact List.mem_map_of_mem (f := fun entry : Table × String => (entry.1.name, entry.2)) named
  obtain ⟨object, planned, same⟩ := List.mem_map.mp among
  obtain ⟨sameTable, sameName⟩ := Prod.mk.inj same
  exact ⟨object, planned, sameTable, sameName⟩

theorem hasObject_of_objectOf? {table object : String} (named : source.objectOf? table = some object) :
    source.plan.HasObject table object := by
  obtain ⟨entry, member, rfl, rfl⟩ := exists_of_objectOf? named
  exact hasObject_of_named member

theorem exposes_of_visibleColumn? {table : Table} {column : String}
    (described : table ∈ source.database.tables)
    (visible : (source.configuration.visibleColumn? table column).isSome = true) :
    source.configuration.Exposes source.database table.name column := by
  obtain ⟨found, isVisible⟩ := Option.isSome_iff_exists.mp visible
  obtain ⟨present, rfl, notHidden⟩ := Configuration.visibleColumn?_eq_some isVisible
  exact ⟨⟨table, described, rfl, List.mem_map_of_mem present⟩, notHidden⟩

theorem exposes_columns_of_morphOwner? {relation : MorphRelation} {owner : Table}
    (owned : source.morphOwner? relation = some owner) :
    source.configuration.Exposes source.database relation.table relation.idColumn ∧
      source.configuration.Exposes source.database relation.table relation.typeColumn := by
  obtain ⟨_, found, idVisible, typeVisible⟩ := morphOwner?_eq_some owned
  have described : owner ∈ source.database.tables := List.mem_of_find?_eq_some found
  rw [← name_of_table? found]
  exact ⟨exposes_of_visibleColumn? described idVisible,
    exposes_of_visibleColumn? described typeVisible⟩

theorem isShown_listAndCount {own table column name object : String} {typeColumn : Option String}
    (leads : source.plan.HasObject table object)
    (shown : source.configuration.Exposes source.database table column)
    (typeShown : ∀ named ∈ typeColumn,
      source.configuration.Exposes source.database table named)
    (planned : field ∈ listAndCount name object { FieldSettings.blank with
      tableName := some table, referencingColumn := some column,
      referencingTypeColumn := typeColumn }) : field.IsShown source own := by
  rcases mem_listAndCount.mp planned with rfl | rfl
  · exact .hasMany (Or.inl ⟨rfl, rfl⟩) rfl leads shown typeShown
  · exact .hasMany (Or.inr ⟨rfl, rfl⟩) rfl leads shown typeShown

theorem isShown_of_origin {table : Table} (described : table ∈ source.database.tables)
    (origin : FieldOrigin source table field) : field.IsShown source table.name := by
  cases origin with
  | column planned =>
      obtain ⟨column, exposed, scalar, rfl⟩ := mem_columnFields planned
      obtain ⟨present, visible⟩ := List.mem_filter.mp exposed
      exact .column rfl rfl rfl ⟨⟨table, described, rfl, List.mem_map_of_mem present⟩,
        (Bool.and_eq_true_iff.mp visible).1⟩
  | belongsTo declared planned =>
      obtain ⟨column, object, visible, named, rfl⟩ := belongsToField?_eq_some planned
      exact .belongsTo rfl rfl rfl (hasObject_of_objectOf? named)
        (exposes_of_visibleColumn? described (Option.isSome_of_eq_some visible))
  | morphTo declared planned =>
      obtain ⟨same, owned, rfl⟩ := morphToField?_eq_some planned
      obtain ⟨owner, isOwner⟩ := Option.isSome_iff_exists.mp owned
      obtain ⟨idShown, typeShown⟩ := exposes_columns_of_morphOwner? isOwner
      rw [same] at idShown typeShown
      exact .morphTo rfl rfl rfl idShown typeShown
  | hasMany declared planned =>
      obtain ⟨object, other, named, found, column, _, offered⟩ := mem_hasManyFieldsOf planned
      obtain ⟨visible, listed⟩ := mem_hasManyFields offered
      have leads := hasObject_of_objectOf? named
      rw [← name_of_table? found] at leads
      have shown := exposes_of_visibleColumn? (List.mem_of_find?_eq_some found) visible
      exact isShown_listAndCount leads shown (fun _ absent => by cases absent) listed
  | @inverse relation _ _ owner _ declared owned named _ _ planned =>
      obtain ⟨entry, entryNamed, same⟩ := List.mem_map.mp named
      obtain ⟨sameTable, sameName⟩ := Prod.mk.inj same
      have leads := hasObject_of_named entryNamed
      rw [sameTable, sameName, name_of_morphOwner? owned] at leads
      obtain ⟨idShown, typeShown⟩ := exposes_columns_of_morphOwner? owned
      exact isShown_listAndCount leads idShown
        (fun _ isType => Option.some.inj isType ▸ typeShown) planned

theorem isShown_objects {object : ObjectPlan} (planned : object ∈ source.plan.objects)
    (member : field ∈ object.fields) : field.IsShown source object.table := by
  obtain ⟨entry, named, isPlan⟩ := isPlanOf_objects object planned
  rw [isPlan.table]
  exact isShown_of_origin (mem_tables_of_named named).1 (isPlan.origin field member)

theorem isRootOf_query (member : field ∈ source.plan.query) : field.IsRootOf source := by
  obtain ⟨entry, named, offered⟩ := exists_of_mem_query member
  rcases mem_rootFields.mp offered with rfl | rfl
  · exact .rows (Or.inl ⟨rfl, rfl⟩) rfl (hasObject_of_named named)
  · exact .rows (Or.inr ⟨rfl, rfl⟩) rfl (hasObject_of_named named)

/-- The table of an object type is described, under a name of GraphQL. -/
theorem exists_described_of_hasObject {table object : String}
    (leads : source.plan.HasObject table object) :
    isGraphName table = true ∧ ∃ described ∈ source.database.tables, described.name = table := by
  obtain ⟨planned, member, rfl, rfl⟩ := leads
  obtain ⟨entry, named, isPlan⟩ := isPlanOf_objects planned member
  obtain ⟨described, exposed⟩ := mem_tables_of_named named
  have valid := (Bool.and_eq_true_iff.mp (Bool.and_eq_true_iff.mp exposed).1).2
  exact ⟨isPlan.table ▸ valid, entry.1, described, isPlan.table.symm⟩

end PlanSource

end TableGraph
