import Mathlib
import TableGraph.Proofs.Plan.FieldOrigin

/-!
# Kinds of planned fields

The resolver of a planned field, its type, its arguments and its settings belong
together.  A root field is the list or the count of the rows of one table.  A field of an
object type is a column, the row or the rows of a reference or their count, or the row of
a polymorphic reference.  The type of a field that leads to rows is the object type of the
table in its settings.
-/

namespace TableGraph

/-! ## Looking up by name -/

theorem find?_of_nodup {Item : Type} {key : Item → String} {items : List Item} {item : Item}
    (distinct : (items.map key).Nodup) (member : item ∈ items) :
    items.find? (fun other => key other == key item) = some item := by
  have present : (items.find? fun other => key other == key item).isSome = true := by
    rw [List.find?_isSome]
    exact ⟨item, member, beq_self_eq_true (key item)⟩
  obtain ⟨found, isFound⟩ := Option.isSome_iff_exists.mp present
  have sameKey : key found = key item :=
    eq_of_beq (List.find?_some (p := fun other => key other == key item) isFound)
  have same : found = item :=
    List.inj_on_of_nodup_map distinct (List.mem_of_find?_eq_some isFound) member sameKey
  rw [isFound, same]

theorem Structure.table?_of_mem {database : Structure} {table : Table}
    (distinct : (database.tables.map Table.name).Nodup) (member : table ∈ database.tables) :
    database.table? table.name = some table :=
  find?_of_nodup distinct member

theorem SchemaPlan.object?_of_mem {plan : SchemaPlan} {object : ObjectPlan}
    (distinct : (plan.objects.map ObjectPlan.table).Nodup) (member : object ∈ plan.objects) :
    plan.object? object.table = some object :=
  find?_of_nodup distinct member

namespace PlanSource

variable {source : PlanSource}

theorem tables_objects :
    source.plan.objects.map ObjectPlan.table =
      (source.configuration.exposedTables source.database).map Table.name := by
  calc
    source.plan.objects.map ObjectPlan.table = (source.plan.objects.map naming).map Prod.fst := by
      rw [List.map_map]
      rfl
    _ = (source.namedTables.map Prod.fst).map Table.name := by
      rw [naming_plan, List.map_map, List.map_map]
      rfl
    _ = (source.configuration.exposedTables source.database).map Table.name := by
      rw [tables_namedTables]

theorem nodup_tables_objects (distinct : (source.database.tables.map Table.name).Nodup) :
    (source.plan.objects.map ObjectPlan.table).Nodup := by
  rw [tables_objects]
  have exposed :
      (source.configuration.exposedTables source.database).Sublist source.database.tables :=
    List.filter_sublist
  exact distinct.sublist (exposed.map Table.name)

/-- Every named table has an object type of its name. -/
theorem exists_object (distinct : (source.database.tables.map Table.name).Nodup)
    {entry : Table × String} (member : entry ∈ source.namedTables) :
    ∃ object, source.plan.object? object.table = some object ∧ object.table = entry.1.name ∧
      object.name = entry.2 := by
  have named : (entry.1.name, entry.2) ∈ source.plan.objects.map naming := by
    rw [naming_plan]
    exact List.mem_map_of_mem (f := fun entry : Table × String => (entry.1.name, entry.2)) member
  obtain ⟨object, planned, same⟩ := List.mem_map.mp named
  obtain ⟨table, name⟩ := Prod.mk.inj same
  exact ⟨object, SchemaPlan.object?_of_mem (nodup_tables_objects distinct) planned, table, name⟩

end PlanSource

/-! ## Kinds -/

/-- A root field: the rows of the table of an object type, or their number. -/
inductive FieldPlan.IsRoot (plan : SchemaPlan) (field : FieldPlan) : Prop where
  | table {object : ObjectPlan} (planned : plan.object? object.table = some object)
      (resolver : field.resolver = some .table)
      (type : field.type = .list object.name)
      (arguments : field.arguments = .list)
      (settings : field.settings = { FieldSettings.blank with tableName := some object.table })
  | tableCount {object : ObjectPlan} (planned : plan.object? object.table = some object)
      (resolver : field.resolver = some .tableCount)
      (type : field.type = .count)
      (arguments : field.arguments = .count)
      (settings : field.settings = { FieldSettings.blank with tableName := some object.table })

/-- A field of an object type. -/
inductive FieldPlan.IsMember (plan : SchemaPlan) (field : FieldPlan) : Prop where
  | column {column : String} {scalar : Scalar}
      (resolver : field.resolver = none)
      (type : field.type = .scalar scalar)
      (arguments : field.arguments = .none)
      (settings : field.settings = { FieldSettings.blank with columnName := some column })
  | belongsTo {object : ObjectPlan} {column : String}
      (planned : plan.object? object.table = some object)
      (resolver : field.resolver = some .belongsTo)
      (type : field.type = .object object.name)
      (arguments : field.arguments = .none)
      (settings : field.settings = { FieldSettings.blank with
        tableName := some object.table, referencingColumn := some column })
  | hasMany {object : ObjectPlan} {column : String} {typeColumn : Option String}
      (planned : plan.object? object.table = some object)
      (resolver : field.resolver = some .hasMany)
      (type : field.type = .list object.name)
      (arguments : field.arguments = .list)
      (settings : field.settings = { FieldSettings.blank with
        tableName := some object.table, referencingColumn := some column,
        referencingTypeColumn := typeColumn })
  | hasManyCount {object : ObjectPlan} {column : String} {typeColumn : Option String}
      (planned : plan.object? object.table = some object)
      (resolver : field.resolver = some .hasManyCount)
      (type : field.type = .count)
      (arguments : field.arguments = .count)
      (settings : field.settings = { FieldSettings.blank with
        tableName := some object.table, referencingColumn := some column,
        referencingTypeColumn := typeColumn })
  | morphTo {relation : MorphRelation}
      (resolver : field.resolver = some .morphTo)
      (type : field.type = .morph)
      (arguments : field.arguments = .none)
      (settings : field.settings = { FieldSettings.blank with morphRelation := some relation })

theorem FieldPlan.IsMember.exists_relation {plan : SchemaPlan} {field : FieldPlan}
    (member : field.IsMember plan) (follows : field.resolver = some .morphTo) :
    ∃ relation, field.settings.morphRelation = some relation := by
  cases member with
  | @morphTo relation _ _ _ settings => exact ⟨relation, by rw [settings]⟩
  | column resolver => simp [resolver] at follows
  | belongsTo _ resolver => simp [resolver] at follows
  | hasMany _ resolver => simp [resolver] at follows
  | hasManyCount _ resolver => simp [resolver] at follows

namespace PlanSource

variable {source : PlanSource}

theorem isRoot_query (distinct : (source.database.tables.map Table.name).Nodup)
    {field : FieldPlan} (member : field ∈ source.plan.query) : field.IsRoot source.plan := by
  obtain ⟨entry, entryMember, offered⟩ := exists_of_mem_query member
  obtain ⟨object, planned, table, name⟩ := exists_object distinct entryMember
  rw [mem_rootFields, ← table, ← name] at offered
  rcases offered with rfl | rfl
  · exact .table planned rfl rfl rfl rfl
  · exact .tableCount planned rfl rfl rfl rfl

theorem isMember_listAndCount (typeColumn : Option String) {object : ObjectPlan}
    {name column : String} {field : FieldPlan}
    (planned : source.plan.object? object.table = some object)
    (member : field ∈ listAndCount name object.name { FieldSettings.blank with
      tableName := some object.table, referencingColumn := some column,
      referencingTypeColumn := typeColumn }) :
    field.IsMember source.plan := by
  rcases mem_listAndCount.mp member with rfl | rfl
  · exact .hasMany planned rfl rfl rfl rfl
  · exact .hasManyCount planned rfl rfl rfl rfl

/-- Whatever a field comes from, it is of one of the kinds. -/
theorem isMember_of_origin (distinct : (source.database.tables.map Table.name).Nodup)
    {table : Table} {field : FieldPlan} (origin : FieldOrigin source table field) :
    field.IsMember source.plan := by
  cases origin with
  | column planned =>
      obtain ⟨column, _, scalar, rfl⟩ := mem_columnFields planned
      exact .column rfl rfl rfl rfl
  | @belongsTo reference declared planned =>
      obtain ⟨column, typeName, _, named, rfl⟩ := belongsToField?_eq_some planned
      obtain ⟨entry, entryMember, sameTable, sameName⟩ := exists_of_objectOf? named
      obtain ⟨object, found, ofTable, ofName⟩ := exists_object distinct entryMember
      have targetTable : reference.2 = object.table := sameTable.symm.trans ofTable.symm
      have targetName : typeName = object.name := sameName.symm.trans ofName.symm
      rw [targetTable, targetName]
      exact .belongsTo found rfl rfl rfl rfl
  | morphTo declared planned =>
      obtain ⟨_, _, rfl⟩ := morphToField?_eq_some planned
      exact .morphTo rfl rfl rfl rfl
  | hasMany declared planned =>
      obtain ⟨typeName, other, named, tableFound, column, _, offered⟩ := mem_hasManyFieldsOf planned
      obtain ⟨entry, entryMember, sameTable, sameName⟩ := exists_of_objectOf? named
      obtain ⟨object, found, ofTable, ofName⟩ := exists_object distinct entryMember
      have otherTable : other.name = object.table :=
        ((name_of_table? tableFound).trans sameTable.symm).trans ofTable.symm
      have otherName : typeName = object.name := sameName.symm.trans ofName.symm
      have listed := (mem_hasManyFields offered).2
      rw [otherTable, otherName] at listed
      exact isMember_listAndCount none found listed
  | @inverse relation _ _ owner _ declared owned named _ _ planned =>
      obtain ⟨entry, entryMember, same⟩ := List.mem_map.mp named
      obtain ⟨sameTable, sameName⟩ := Prod.mk.inj same
      obtain ⟨object, found, ofTable, ofName⟩ := exists_object distinct entryMember
      have ownerTable : relation.table = object.table :=
        ((name_of_morphOwner? owned).symm.trans sameTable.symm).trans ofTable.symm
      have ownerName : owner.2 = object.name := sameName.symm.trans ofName.symm
      rw [inverseSettings, ownerTable, ownerName] at planned
      exact isMember_listAndCount (some relation.typeColumn) found planned

theorem isMember_objects (distinct : (source.database.tables.map Table.name).Nodup)
    {object : ObjectPlan} (planned : object ∈ source.plan.objects) {field : FieldPlan}
    (member : field ∈ object.fields) : field.IsMember source.plan := by
  obtain ⟨entry, _, isPlan⟩ := isPlanOf_objects object planned
  exact isMember_of_origin distinct (isPlan.origin field member)

end PlanSource

end TableGraph
