import Mathlib
import TableGraph.Proofs.Plan.DistinctFields
import TableGraph.Proofs.Plan.ExposedSettings

/-!
# Plans leave nothing out

A table is an end of four kinds of edges: the references of its columns, its polymorphic
relations, the references of other tables to it, and the polymorphic relations that may
lead to it.  Each exposed edge offers its fields to the object type of the table, behind
the columns and one edge after the other.

The main statement, `SchemaPlan.complete`, is that every exposed table has its object type
with all of its columns in front, and that the field of an edge is missing only when an
earlier one has its name.
-/

namespace TableGraph

/-! ## Adding fields behind others -/

theorem prefix_pushField (fields : List FieldPlan) (added : FieldPlan) :
    fields <+: pushField fields added := by
  by_cases taken : added.name ∈ fields.map FieldPlan.name
  · rw [pushField_of_mem taken]
  · rw [pushField_of_not_mem taken]
    exact List.prefix_append fields [added]

theorem prefix_pushFields (fields added : List FieldPlan) : fields <+: pushFields fields added := by
  induction added generalizing fields with
  | nil => exact List.prefix_rfl
  | cons head tail inductionHypothesis =>
      exact (prefix_pushField fields head).trans (inductionHypothesis (pushField fields head))

theorem pushFields_append (fields first second : List FieldPlan) :
    pushFields fields (first ++ second) = pushFields (pushFields fields first) second :=
  List.foldl_append

/-- Fields of distinct names that are all free are added behind the others. -/
theorem pushFields_of_nodup {fields added : List FieldPlan}
    (distinct : ((fields ++ added).map FieldPlan.name).Nodup) :
    pushFields fields added = fields ++ added := by
  induction added generalizing fields with
  | nil => exact (List.append_nil fields).symm
  | cons head tail inductionHypothesis =>
      have free : head.name ∉ fields.map FieldPlan.name := by
        rw [List.map_append, List.map_cons] at distinct
        intro taken
        exact List.disjoint_of_nodup_append distinct taken List.mem_cons_self
      have pushed : pushFields fields (head :: tail) = pushFields (fields ++ [head]) tail := by
        rw [← pushField_of_not_mem free]
        rfl
      rw [List.append_cons] at distinct
      rw [pushed, inductionHypothesis distinct, ← List.append_cons]

/-- A field that is offered is added, unless a field of its name was there before; the
fields that are offered together have distinct names. -/
theorem exists_of_offered {fields added : List FieldPlan} {offered : FieldPlan}
    (distinct : (added.map FieldPlan.name).Nodup) (member : offered ∈ added) :
    ∃ field ∈ pushFields fields added, field.name = offered.name ∧
      (field = offered ∨ field ∈ fields) := by
  have named : offered.name ∈ (pushFields fields added).map FieldPlan.name :=
    name_mem_pushFields member
  obtain ⟨field, present, same⟩ := List.mem_map.mp named
  refine ⟨field, present, same, ?_⟩
  rcases mem_pushFields present with before | together
  · exact Or.inr before
  · exact Or.inl (List.inj_on_of_nodup_map distinct together member same)

/-! ## Edges -/

/-- A reference that a table may be an end of. -/
inductive Edge where
  /-- A column of the table, and the table it references. -/
  | belongsTo (column target : String)
  /-- A polymorphic relation, followed from the table that owns it. -/
  | morphTo (relation : MorphRelation)
  /-- A column of another table that references the table, among all such columns there. -/
  | hasMany (other : String) (columns : List String) (column : String)
  /-- A polymorphic relation, followed from a table that it may lead to. -/
  | inverse (relation : MorphRelation)

/-- A column that a table has and a configuration does not hide. -/
def Configuration.ShowsColumn (configuration : Configuration) (table : Table) (name : String) :
    Prop :=
  ∃ column ∈ table.columns, column.name = name ∧ configuration.isColumnVisible table.name name = true

namespace PlanSource

/-- The edges of a table that references the others directly, in the order of the passes. -/
def directEdges (source : PlanSource) (table : Table) : List Edge :=
  (table.belongsTo.map fun reference => .belongsTo reference.1 reference.2) ++
    source.configuration.morphRelations.map .morphTo ++
    table.hasMany.flatMap fun inverse => inverse.2.map (.hasMany inverse.1 inverse.2)

/-- The edges of a table in the order of the passes. -/
def edges (source : PlanSource) (table : Table) : List Edge :=
  source.directEdges table ++ source.configuration.morphRelations.map .inverse

/-- The name of the inverse fields of a polymorphic relation behind some fields: the long
one when it is forced or a short one is taken. -/
def inverseNameBehind (source : PlanSource) (before : List FieldPlan) (relation : MorphRelation) :
    String :=
  if source.configuration.forcedLongNames || (hasField before relation.table ||
      hasField before (relation.table ++ FieldPlan.countSuffix)) then
    longName relation.table relation.idColumn
  else relation.table

/-- The fields that an exposed edge of a table offers behind some fields. -/
inductive Offers (source : PlanSource) (table : Table) (before : List FieldPlan) :
    Edge → FieldPlan → Prop where
  | belongsTo {column : Column} {target : ObjectPlan} (present : column ∈ table.columns)
      (visible : source.configuration.isColumnVisible table.name column.name = true)
      (planned : target ∈ source.plan.objects) :
      Offers source table before (.belongsTo column.name target.table)
        { name := source.belongsToName column.name
          type := .object target.name
          nullable := column.nullable
          arguments := .none
          resolver := some .belongsTo
          settings := { FieldSettings.blank with
            tableName := some target.table, referencingColumn := some column.name }
          description := none }
  | morphTo {relation : MorphRelation} {column : Column} (owned : relation.table = table.name)
      (present : column ∈ table.columns) (isId : column.name = relation.idColumn)
      (visible : source.configuration.isColumnVisible table.name relation.idColumn = true)
      (typed : source.configuration.ShowsColumn table relation.typeColumn) :
      Offers source table before (.morphTo relation)
        { name := relation.relationName
          type := .morph
          nullable := column.nullable
          arguments := .none
          resolver := some .morphTo
          settings := { FieldSettings.blank with morphRelation := some relation }
          description := none }
  | hasMany {other : Table} {object : ObjectPlan} {columns : List String} {column : String}
      {field : FieldPlan}
      (exposed : other ∈ source.configuration.exposedTables source.database)
      (planned : object ∈ source.plan.objects) (ofOther : object.table = other.name)
      (shown : source.configuration.ShowsColumn other column)
      (offered : field ∈ listAndCount (source.hasManyName other.name columns column) object.name
        (hasManySettings other.name column)) :
      Offers source table before (.hasMany other.name columns column) field
  | inverse {relation : MorphRelation} {owner : Table} {object : ObjectPlan} {field : FieldPlan}
      (exposed : owner ∈ source.configuration.exposedTables source.database)
      (owns : owner.name = relation.table)
      (planned : object ∈ source.plan.objects) (ofOwner : object.table = owner.name)
      (identified : source.configuration.ShowsColumn owner relation.idColumn)
      (typed : source.configuration.ShowsColumn owner relation.typeColumn)
      (target : relation.targets = [] ∨ table.name ∈ relation.targets)
      (offered : field ∈ listAndCount (source.inverseNameBehind before relation) object.name
        (inverseSettings relation)) :
      Offers source table before (.inverse relation) field

/-- The fields of an object type of a table lack no column and no edge. -/
structure IsComplete (source : PlanSource) (table : Table) (fields : List FieldPlan) : Prop where
  /-- The columns come first, and nothing takes the place of one. -/
  columns : ∃ relations, fields =
    ((source.configuration.exposedColumns table).map fun column =>
      .ofColumn column (if column.primary then .id else source.mapper column)) ++ relations
  /-- Each field of an edge is there, unless the columns and the edges in front of it have
  given its name to another. -/
  edges : ∀ earlier edge later, source.edges table = earlier ++ edge :: later →
    ∃ before, before <+: fields ∧
      (∀ field ∈ before, field ∈ source.columnFields table ∨
        ∃ other ∈ earlier, ∃ behind, source.Offers table behind other field) ∧
      ∀ offered, source.Offers table before edge offered →
        ∃ field ∈ fields, field.name = offered.name ∧ (field = offered ∨ field ∈ before)

/-! ## What the passes add for an edge -/

/-- The fields that are added for an edge of a table behind some fields, if their names are
free. -/
def edgeFields (source : PlanSource) (table : Table) (before : List FieldPlan) :
    Edge → List FieldPlan
  | .belongsTo column target => (source.belongsToField? table (column, target)).toList
  | .morphTo relation => (source.morphToField? table relation).toList
  | .hasMany other columns column =>
    match source.objectOf? other, source.database.table? other with
    | some object, some found => source.hasManyFields found object columns column
    | _, _ => []
  | .inverse relation =>
    match source.morphOwner? relation, source.objectOf? relation.table with
    | some _, some object =>
      if relation.targets.isEmpty || relation.targets.contains table.name then
        listAndCount (source.inverseNameBehind before relation) object (inverseSettings relation)
      else []
    | _, _ => []

/-- The fields of an object type once some edges have been followed. -/
def fieldsBehind (source : PlanSource) (table : Table) (edges : List Edge) : List FieldPlan :=
  edges.foldl (fun fields edge => pushFields fields (source.edgeFields table fields edge))
    (source.columnFields table)

theorem nodup_listAndCount (name object : String) (settings : FieldSettings) :
    ((listAndCount name object settings).map FieldPlan.name).Nodup := by
  have names : (listAndCount name object settings).map FieldPlan.name =
      [name, name ++ FieldPlan.countSuffix] := rfl
  have different : name ≠ name ++ FieldPlan.countSuffix := (FieldPlan.append_countSuffix_ne name).symm
  rw [names]
  exact List.nodup_cons.mpr ⟨by simpa using different, List.nodup_singleton _⟩

variable {source : PlanSource} {table : Table}

theorem nodup_edgeFields (before : List FieldPlan) (edge : Edge) :
    ((source.edgeFields table before edge).map FieldPlan.name).Nodup := by
  have atMostOne : ∀ field? : Option FieldPlan, (field?.toList.map FieldPlan.name).Nodup := by
    intro field?
    cases field? with
    | none => exact List.nodup_nil
    | some field => exact List.nodup_singleton field.name
  cases edge with
  | belongsTo column target => exact atMostOne _
  | morphTo relation => exact atMostOne _
  | hasMany other columns column =>
      simp only [edgeFields]
      split
      · rw [hasManyFields_eq]
        split
        · exact List.nodup_nil
        · exact nodup_listAndCount _ _ _
      · exact List.nodup_nil
  | inverse relation =>
      simp only [edgeFields]
      split
      · split
        · exact nodup_listAndCount _ _ _
        · exact List.nodup_nil
      · exact List.nodup_nil

/-! ## Exposed edges -/

theorem nodup_exposedTables (distinct : (source.database.tables.map Table.name).Nodup) :
    ((source.configuration.exposedTables source.database).map Table.name).Nodup := by
  have exposed :
      (source.configuration.exposedTables source.database).Sublist source.database.tables :=
    List.filter_sublist
  exact distinct.sublist (exposed.map Table.name)

theorem nodup_namedTables (distinct : (source.database.tables.map Table.name).Nodup) :
    (source.namedTables.map fun entry => entry.1.name).Nodup := by
  have names :
      (source.namedTables.map fun entry => entry.1.name) =
        (source.configuration.exposedTables source.database).map Table.name := by
    rw [← source.tables_namedTables, List.map_map]
    rfl
  rw [names]
  exact nodup_exposedTables distinct

theorem objectOf?_of_mem (distinct : (source.database.tables.map Table.name).Nodup)
    {entry : Table × String} (member : entry ∈ source.namedTables) :
    source.objectOf? entry.1.name = some entry.2 := by
  have known : (source.objectOf? entry.1.name).isSome = true :=
    isSome_objectOf?.mpr (isExposed_of_mem (mem_exposedTables member))
  obtain ⟨name, isNamed⟩ := Option.isSome_iff_exists.mp known
  obtain ⟨found, foundMember, sameTable, rfl⟩ := exists_of_objectOf? isNamed
  have same : found = entry :=
    List.inj_on_of_nodup_map (nodup_namedTables distinct) foundMember member sameTable
  rw [isNamed, same]

/-- The object type that is found for a table is the one of the plan. -/
theorem objectOf?_eq_some_iff (distinct : (source.database.tables.map Table.name).Nodup)
    {other name : String} :
    source.objectOf? other = some name ↔
      ∃ object ∈ source.plan.objects, object.table = other ∧ object.name = name := by
  have planned :
      (∃ object ∈ source.plan.objects, object.table = other ∧ object.name = name) ↔
        (other, name) ∈ source.namedTables.map fun entry => (entry.1.name, entry.2) := by
    rw [← naming_plan, List.mem_map]
    simp [naming]
  rw [planned]
  constructor
  · intro found
    obtain ⟨entry, member, rfl, rfl⟩ := exists_of_objectOf? found
    exact List.mem_map_of_mem (f := fun entry : Table × String => (entry.1.name, entry.2)) member
  · intro listed
    obtain ⟨entry, member, same⟩ := List.mem_map.mp listed
    obtain ⟨rfl, rfl⟩ := Prod.mk.inj same
    exact objectOf?_of_mem distinct member

theorem visibleColumn?_eq_some_iff {configuration : Configuration} {table : Table} {name : String}
    (distinct : (table.columns.map Column.name).Nodup) {column : Column} :
    configuration.visibleColumn? table name = some column ↔
      column ∈ table.columns ∧ column.name = name ∧
        configuration.isColumnVisible table.name name = true := by
  constructor
  · exact Configuration.visibleColumn?_eq_some
  · rintro ⟨present, rfl, visible⟩
    have found : table.column? column.name = some column := find?_of_nodup distinct present
    rw [Configuration.visibleColumn?, found, Option.filter_some, if_pos visible]

theorem isSome_visibleColumn?_iff {configuration : Configuration} {table : Table} {name : String} :
    (configuration.visibleColumn? table name).isSome = true ↔ configuration.ShowsColumn table name := by
  rw [Option.isSome_iff_exists]
  constructor
  · rintro ⟨column, isVisible⟩
    exact ⟨column, Configuration.visibleColumn?_eq_some isVisible⟩
  · rintro ⟨column, present, same, visible⟩
    have known : (table.column? name).isSome = true := by
      rw [Table.column?, List.find?_isSome]
      exact ⟨column, present, by simpa using same⟩
    obtain ⟨found, isFound⟩ := Option.isSome_iff_exists.mp known
    have sameName : found.name = name :=
      eq_of_beq (List.find?_some (p := fun column : Column => column.name == name) isFound)
    refine ⟨found, ?_⟩
    rw [Configuration.visibleColumn?, isFound, Option.filter_some, sameName, if_pos visible]

theorem table?_of_exposed (distinct : (source.database.tables.map Table.name).Nodup)
    {other : Table} (exposed : other ∈ source.configuration.exposedTables source.database) :
    source.database.table? other.name = some other :=
  Structure.table?_of_mem distinct (List.mem_filter.mp exposed).1

/-- The owner of a relation is the exposed table of its name, with both columns shown. -/
theorem morphOwner?_eq_some_iff (distinct : (source.database.tables.map Table.name).Nodup)
    {relation : MorphRelation} {owner : Table} :
    source.morphOwner? relation = some owner ↔
      owner ∈ source.configuration.exposedTables source.database ∧ owner.name = relation.table ∧
        source.configuration.ShowsColumn owner relation.idColumn ∧
          source.configuration.ShowsColumn owner relation.typeColumn := by
  constructor
  · intro owned
    obtain ⟨exposed, found, identified, typed⟩ := morphOwner?_eq_some owned
    obtain ⟨entry, member, rfl, same⟩ := exists_named_of_table? distinct found exposed
    exact ⟨mem_exposedTables member, same, isSome_visibleColumn?_iff.mp identified,
      isSome_visibleColumn?_iff.mp typed⟩
  · rintro ⟨exposed, owns, identified, typed⟩
    have found := table?_of_exposed distinct exposed
    have both := Bool.and_eq_true_iff.mpr
      ⟨isSome_visibleColumn?_iff.mpr identified, isSome_visibleColumn?_iff.mpr typed⟩
    rw [morphOwner?, ← owns, if_pos (isExposed_of_mem exposed), found, Option.filter_some, if_pos both]

theorem eq_of_name (distinct : (source.database.tables.map Table.name).Nodup) {one other : Table}
    (oneExposed : one ∈ source.configuration.exposedTables source.database)
    (otherExposed : other ∈ source.configuration.exposedTables source.database)
    (same : one.name = other.name) : one = other :=
  List.inj_on_of_nodup_map distinct (List.mem_filter.mp oneExposed).1
    (List.mem_filter.mp otherExposed).1 same

/-- What the passes add for an edge is what the edge offers when it is exposed. -/
theorem offers_of_mem_edgeFields (distinct : (source.database.tables.map Table.name).Nodup)
    (distinctColumns : (table.columns.map Column.name).Nodup)
    (exposed : table ∈ source.configuration.exposedTables source.database)
    {before : List FieldPlan} {edge : Edge} {field : FieldPlan}
    (member : field ∈ source.edgeFields table before edge) :
    source.Offers table before edge field := by
  cases edge with
  | belongsTo column target =>
      obtain ⟨found, object, visible, named, rfl⟩ :=
        belongsToField?_eq_some (Option.mem_toList.mp member)
      obtain ⟨present, rfl, notHidden⟩ := Configuration.visibleColumn?_eq_some visible
      obtain ⟨planned, isPlanned, rfl, rfl⟩ := (objectOf?_eq_some_iff distinct).mp named
      exact .belongsTo present notHidden isPlanned
  | morphTo relation =>
      obtain ⟨owned, owner?, rfl⟩ := morphToField?_eq_some (Option.mem_toList.mp member)
      obtain ⟨owner, isOwner⟩ := Option.isSome_iff_exists.mp owner?
      obtain ⟨ownerExposed, sameName, ⟨column, present, isId, visible⟩, typed⟩ :=
        (morphOwner?_eq_some_iff distinct).mp isOwner
      obtain rfl := eq_of_name distinct ownerExposed exposed (sameName.trans owned)
      have found : owner.column? relation.idColumn = some column := by
        rw [← isId]
        exact find?_of_nodup distinctColumns present
      rw [found]
      exact .morphTo owned present isId visible typed
  | hasMany other columns column =>
      simp only [edgeFields] at member
      split at member
      · rename_i object found named isFound
        obtain ⟨visible, offered⟩ := mem_hasManyFields member
        obtain ⟨planned, isPlanned, ofOther, rfl⟩ := (objectOf?_eq_some_iff distinct).mp named
        have known := isSome_objectOf?.mp (Option.isSome_of_eq_some named)
        obtain ⟨entry, entryMember, rfl, rfl⟩ := exists_named_of_table? distinct isFound known
        exact .hasMany (mem_exposedTables entryMember) isPlanned ofOther
          (isSome_visibleColumn?_iff.mp visible) offered
      · cases member
  | inverse relation =>
      simp only [edgeFields] at member
      split at member
      · rename_i owner object isOwner named
        obtain ⟨ownerExposed, owns, identified, typed⟩ := (morphOwner?_eq_some_iff distinct).mp isOwner
        obtain ⟨planned, isPlanned, ofOwner, rfl⟩ := (objectOf?_eq_some_iff distinct).mp named
        split at member
        · rename_i target
          exact .inverse ownerExposed owns isPlanned (ofOwner.trans owns.symm) identified typed
            (by simpa using target) member
        · cases member
      · cases member

theorem mem_edgeFields_of_offers (distinct : (source.database.tables.map Table.name).Nodup)
    (distinctColumns : (table.columns.map Column.name).Nodup)
    (exposed : table ∈ source.configuration.exposedTables source.database)
    {before : List FieldPlan} {edge : Edge} {field : FieldPlan}
    (offers : source.Offers table before edge field) :
    field ∈ source.edgeFields table before edge := by
  cases offers with
  | @belongsTo column target present visible planned =>
      have shown : source.configuration.visibleColumn? table column.name = some column :=
        (visibleColumn?_eq_some_iff distinctColumns).mpr ⟨present, rfl, visible⟩
      have named : source.objectOf? target.table = some target.name :=
        (objectOf?_eq_some_iff distinct).mpr ⟨target, planned, rfl, rfl⟩
      simp [edgeFields, belongsToField?, shown, named]
  | @morphTo relation column owned present isId visible typed =>
      have isOwner : source.morphOwner? relation = some table :=
        (morphOwner?_eq_some_iff distinct).mpr
          ⟨exposed, owned.symm, ⟨column, present, isId, visible⟩, typed⟩
      have found : table.column? relation.idColumn = some column := by
        rw [← isId]
        exact find?_of_nodup distinctColumns present
      simp [edgeFields, morphToField?, owned, isOwner, found]
  | @hasMany other object columns column field otherExposed planned ofOther shown offered =>
      have named : source.objectOf? other.name = some object.name :=
        (objectOf?_eq_some_iff distinct).mpr ⟨object, planned, ofOther, rfl⟩
      have visible := isSome_visibleColumn?_iff.mpr shown
      simp only [edgeFields, named, table?_of_exposed distinct otherExposed]
      rw [hasManyFields_eq, if_neg]
      · exact offered
      · simpa [Option.isSome_iff_ne_none] using visible
  | @inverse relation owner object field ownerExposed owns planned ofOwner identified typed target
      offered =>
      have isOwner : source.morphOwner? relation = some owner :=
        (morphOwner?_eq_some_iff distinct).mpr ⟨ownerExposed, owns, identified, typed⟩
      have named : source.objectOf? relation.table = some object.name :=
        (objectOf?_eq_some_iff distinct).mpr ⟨object, planned, ofOwner.trans owns, rfl⟩
      simp only [edgeFields, isOwner, named]
      rw [if_pos (by simpa using target)]
      exact offered

/-! ## The passes, table by table -/

theorem fieldsBehind_append (first second : List Edge) :
    source.fieldsBehind table (first ++ second) =
      second.foldl (fun fields edge => pushFields fields (source.edgeFields table fields edge))
        (source.fieldsBehind table first) :=
  List.foldl_append

theorem prefix_foldl_edgeFields (source : PlanSource) (table : Table) (edges : List Edge)
    (fields : List FieldPlan) :
    fields <+: edges.foldl
      (fun fields edge => pushFields fields (source.edgeFields table fields edge)) fields := by
  induction edges generalizing fields with
  | nil => exact List.prefix_rfl
  | cons head tail inductionHypothesis =>
      exact (prefix_pushFields fields _).trans (inductionHypothesis _)

theorem nodup_columnFields (distinctColumns : (table.columns.map Column.name).Nodup) :
    ((source.columnFields table).map FieldPlan.name).Nodup := by
  have names :
      (source.columnFields table).map FieldPlan.name =
        (source.configuration.exposedColumns table).map Column.name := by
    rw [columnFields, List.map_map]
    rfl
  have shown : (source.configuration.exposedColumns table).Sublist table.columns :=
    List.filter_sublist
  rw [names]
  exact distinctColumns.sublist (shown.map Column.name)

/-- The edges that references give do not depend on the fields before them. -/
theorem edgeFields_direct {edge : Edge} (direct : edge ∈ source.directEdges table)
    (before : List FieldPlan) :
    source.edgeFields table before edge = source.edgeFields table [] edge := by
  cases edge with
  | belongsTo column target => rfl
  | morphTo relation => rfl
  | hasMany other columns column => rfl
  | inverse relation => simp [directEdges] at direct

theorem flatMap_edgeFields_direct :
    (source.directEdges table).flatMap (source.edgeFields table []) = source.relationFields table := by
  have followed :
      (table.belongsTo.map fun reference => Edge.belongsTo reference.1 reference.2).flatMap
          (source.edgeFields table []) =
        table.belongsTo.filterMap (source.belongsToField? table) := by
    rw [List.flatMap_map, List.filterMap_eq_flatMap_toList]
    rfl
  have polymorphic :
      (source.configuration.morphRelations.map Edge.morphTo).flatMap (source.edgeFields table []) =
        source.configuration.morphRelations.filterMap (source.morphToField? table) := by
    rw [List.flatMap_map, List.filterMap_eq_flatMap_toList]
    rfl
  have inverse :
      (table.hasMany.flatMap fun inverse =>
          inverse.2.map (Edge.hasMany inverse.1 inverse.2)).flatMap (source.edgeFields table []) =
        table.hasMany.flatMap source.hasManyFieldsOf := by
    rw [List.flatMap_assoc]
    congr 1
    funext inverse
    rw [List.flatMap_map, hasManyFieldsOf]
    simp only [edgeFields]
    cases source.objectOf? inverse.1 with
    | none => simp
    | some object =>
        cases source.database.table? inverse.1 with
        | none => simp
        | some found => rfl
  rw [directEdges, List.flatMap_append, List.flatMap_append, followed, polymorphic, inverse,
    relationFields]

theorem foldl_edgeFields_direct {edges : List Edge} (direct : edges ⊆ source.directEdges table)
    (fields : List FieldPlan) :
    edges.foldl (fun fields edge => pushFields fields (source.edgeFields table fields edge)) fields =
      pushFields fields (edges.flatMap (source.edgeFields table [])) := by
  induction edges generalizing fields with
  | nil => rfl
  | cons head tail inductionHypothesis =>
      have first := edgeFields_direct (direct List.mem_cons_self) fields
      have rest := inductionHypothesis (List.subset_of_cons_subset direct)
      rw [List.foldl_cons, rest, first, List.flatMap_cons, pushFields_append]

theorem fieldsBehind_direct (distinctColumns : (table.columns.map Column.name).Nodup) (name : String) :
    source.fieldsBehind table (source.directEdges table) =
      (source.objectPlan (table, name)).fields := by
  have columns : pushFields [] (source.columnFields table) = source.columnFields table :=
    pushFields_of_nodup (nodup_columnFields distinctColumns)
  rw [fieldsBehind, foldl_edgeFields_direct (List.Subset.refl _), flatMap_edgeFields_direct,
    objectPlan, columns]

/-- The object type of a table once some edges have been followed. -/
def objectBehind (source : PlanSource) (relations : List MorphRelation) (entry : Table × String) :
    ObjectPlan :=
  ⟨entry.1.name, entry.2,
    source.fieldsBehind entry.1 (source.directEdges entry.1 ++ relations.map .inverse)⟩

theorem inverseName_eq (relation : MorphRelation) (object : ObjectPlan) :
    source.inverseName relation object = source.inverseNameBehind object.fields relation := rfl

theorem objectBehind_snoc (earlier : List MorphRelation) (relation : MorphRelation)
    (entry : Table × String) :
    source.objectBehind (earlier ++ [relation]) entry =
      { source.objectBehind earlier entry with
        fields := pushFields (source.objectBehind earlier entry).fields
          (source.edgeFields entry.1 (source.objectBehind earlier entry).fields
            (.inverse relation)) } := by
  rw [objectBehind, List.map_append, ← List.append_assoc, fieldsBehind_append]
  rfl

/-- A relation adds to an object type what its inverse edge gives. -/
theorem addMorphFields_objectBehind {relation : MorphRelation} {owner : Table} {name : String}
    (owned : source.morphOwner? relation = some owner)
    (named : source.objectOf? relation.table = some name) (earlier : List MorphRelation)
    (entry : Table × String) :
    source.addMorphFields relation name (source.objectBehind earlier entry) =
      source.objectBehind (earlier ++ [relation]) entry := by
  have target : isTarget relation (source.objectBehind earlier entry) =
      (relation.targets.isEmpty || relation.targets.contains entry.1.name) := rfl
  rw [addMorphFields_eq, objectBehind_snoc, target, inverseName_eq]
  simp only [edgeFields, owned, named]
  split
  · rfl
  · rfl

/-- The object types once the inverse fields of some relations were added, table by table. -/
theorem objectsAfter_eq (distinct : (source.database.tables.map Table.name).Nodup)
    (distinctColumns : ∀ table ∈ source.database.tables, (table.columns.map Column.name).Nodup)
    (relations : List MorphRelation) :
    source.objectsAfter relations = source.namedTables.map (source.objectBehind relations) := by
  induction relations using List.reverseRecOn with
  | nil =>
      apply List.map_congr_left
      intro entry member
      have direct : source.fieldsBehind entry.1 (source.directEdges entry.1) =
          (source.objectPlan entry).fields :=
        fieldsBehind_direct (distinctColumns entry.1 (mem_tables_of_named member).1) entry.2
      rw [objectBehind, List.map_nil, List.append_nil, direct]
      rfl
  | append_singleton earlier relation inductionHypothesis =>
      rw [objectsAfter_snoc, inductionHypothesis]
      cases owned : source.morphOwner? relation with
      | none =>
          have unchanged : ∀ entry, source.objectBehind (earlier ++ [relation]) entry =
              source.objectBehind earlier entry := by
            intro entry
            rw [objectBehind_snoc]
            simp only [edgeFields, owned]
            rfl
          rw [addMorphRelation, owned]
          exact List.map_congr_left fun entry _ => (unchanged entry).symm
      | some owner =>
          obtain ⟨exposed, owns, _⟩ := (morphOwner?_eq_some_iff distinct).mp owned
          obtain ⟨name, member⟩ := exists_named exposed
          have found :
              (source.namedTables.map (source.objectBehind earlier)).find?
                  (fun object => object.table == owner.name) =
                some (source.objectBehind earlier (owner, name)) := by
            rw [List.find?_map]
            exact congrArg _ (find?_of_nodup (nodup_namedTables distinct) member)
          have named : source.objectOf? relation.table = some name := by
            rw [← owns]
            exact objectOf?_of_mem distinct member
          rw [addMorphRelation_of_owner owned found, List.map_map]
          exact List.map_congr_left fun entry _ => addMorphFields_objectBehind owned named earlier entry

/-! ## Nothing is left out -/

theorem mem_fieldsBehind {edges : List Edge} {field : FieldPlan}
    (member : field ∈ source.fieldsBehind table edges) :
    field ∈ source.columnFields table ∨
      ∃ edge ∈ edges, ∃ before, field ∈ source.edgeFields table before edge := by
  induction edges using List.reverseRecOn with
  | nil => exact Or.inl member
  | append_singleton earlier edge inductionHypothesis =>
      rw [fieldsBehind_append] at member
      rcases mem_pushFields member with kept | added
      · rcases inductionHypothesis kept with ofColumn | ⟨other, among, before, added⟩
        · exact Or.inl ofColumn
        · exact Or.inr ⟨other, List.mem_append_left _ among, before, added⟩
      · exact Or.inr ⟨edge, List.mem_append_right _ (List.mem_singleton_self edge), _, added⟩

theorem isComplete_fieldsBehind (distinct : (source.database.tables.map Table.name).Nodup)
    (distinctColumns : (table.columns.map Column.name).Nodup)
    (exposed : table ∈ source.configuration.exposedTables source.database) :
    source.IsComplete table (source.fieldsBehind table (source.edges table)) where
  columns := by
    obtain ⟨relations, same⟩ := prefix_foldl_edgeFields source table (source.edges table)
      (source.columnFields table)
    exact ⟨relations, same.symm⟩
  edges := by
    intro earlier edge later split
    rw [split, fieldsBehind_append, List.foldl_cons]
    have kept := prefix_foldl_edgeFields source table later
      (pushFields (source.fieldsBehind table earlier)
        (source.edgeFields table (source.fieldsBehind table earlier) edge))
    refine ⟨source.fieldsBehind table earlier, (prefix_pushFields _ _).trans kept, ?_, ?_⟩
    · intro field member
      rcases mem_fieldsBehind member with ofColumn | ⟨other, among, behind, added⟩
      · exact Or.inl ofColumn
      · exact Or.inr
          ⟨other, among, behind, offers_of_mem_edgeFields distinct distinctColumns exposed added⟩
    · intro offered offers
      have added := mem_edgeFields_of_offers distinct distinctColumns exposed offers
      obtain ⟨field, present, named, own⟩ := exists_of_offered (nodup_edgeFields _ edge) added
      exact ⟨field, kept.subset present, named, own⟩

/-- Every exposed table has an object type, in the order of the tables.  Its fields begin
with its columns, and it has a field for every exposed edge, which is the edge's own unless
its name was given before. -/
theorem plan_complete {patterns : PatternEngine}
    (read : source.configuration.readStripPattern patterns = .ok source.strip)
    (distinct : (source.database.tables.map Table.name).Nodup)
    (distinctColumns : ∀ table ∈ source.database.tables, (table.columns.map Column.name).Nodup) :
    SchemaPlan.build source.database source.configuration source.mapper source.inflector patterns =
        .ok source.plan ∧
      source.plan.objects.map ObjectPlan.table =
        (source.configuration.exposedTables source.database).map Table.name ∧
      ∀ table ∈ source.configuration.exposedTables source.database,
        ∃ object ∈ source.plan.objects, object.table = table.name ∧
          source.IsComplete table object.fields := by
  refine ⟨SchemaPlan.build_of_read read .., tables_objects, fun table exposed => ?_⟩
  obtain ⟨name, member⟩ := exists_named exposed
  have objects : source.plan.objects =
      source.namedTables.map (source.objectBehind source.configuration.morphRelations) :=
    objectsAfter_eq distinct distinctColumns source.configuration.morphRelations
  refine ⟨source.objectBehind source.configuration.morphRelations (table, name), ?_, rfl, ?_⟩
  · rw [objects]
    exact List.mem_map_of_mem member
  · have columns := distinctColumns table (List.mem_filter.mp exposed).1
    exact isComplete_fieldsBehind distinct columns exposed

/-! ### A column that is named like a count -/

private def stock : Structure :=
  .ofTables
    [⟨"shelves", [⟨"id", false, true, "INTEGER", none⟩, .plain "books_count" "INTEGER"], [], []⟩,
      ⟨"books", [⟨"id", false, true, "INTEGER", none⟩, .plain "shelf_id" "INTEGER",
        .plain "shelf_type" "TEXT"], [("shelf_id", "shelves")], []⟩]

private def shelves : Table :=
  ⟨"shelves", [⟨"id", false, true, "INTEGER", none⟩, .plain "books_count" "INTEGER"], [],
    [("books", ["shelf_id"])]⟩

private def shortNames : Configuration :=
  { Configuration.standard with
    forcedLongNames := false
    morphRelations := [⟨"books", "shelf_id", "shelf_type", "place", ["shelves"]⟩] }

private def stockSource (strip : CompiledPattern) : PlanSource :=
  ⟨stock, shortNames, nativeTypeMapper, fun _ => [], strip⟩

private def shelfNames (plan : SchemaPlan) : List (List String) :=
  (plan.objects.filter fun object => object.table == "shelves").map fun object =>
    object.fields.map FieldPlan.name

private theorem shelfNames_stock :
    (SchemaPlan.build stock shortNames nativeTypeMapper fun _ => []).toOption.map shelfNames =
      some [["id", "books_count", "books", "books__shelf_id", "books__shelf_id_count"]] := by
  decide +kernel

/-- The books of a shelf have their field, and their count gives way to a column; the
polymorphic relation that comes behind both takes its long name. -/
theorem plan_complete_shelves :
    ∃ strip, shortNames.readStripPattern = .ok strip ∧ (stock.tables.map Table.name).Nodup ∧
      (∀ table ∈ stock.tables, (table.columns.map Column.name).Nodup) ∧
      shelves ∈ shortNames.exposedTables stock ∧
      ∃ object ∈ (stockSource strip).plan.objects, object.table = "shelves" ∧
        (stockSource strip).IsComplete shelves object.fields ∧
          object.fields.map FieldPlan.name =
            ["id", "books_count", "books", "books__shelf_id", "books__shelf_id_count"] := by
  obtain ⟨strip, read⟩ : ∃ strip, shortNames.readStripPattern = .ok strip := ⟨_, by cbv⟩
  have distinct : (stock.tables.map Table.name).Nodup := by decide
  have distinctColumns : ∀ table ∈ stock.tables, (table.columns.map Column.name).Nodup := by
    decide
  have exposed : shelves ∈ shortNames.exposedTables stock := by decide +kernel
  obtain ⟨built, _, complete⟩ :=
    @plan_complete (stockSource strip) Pattern.engine read distinct distinctColumns
  obtain ⟨object, planned, ofShelves, isComplete⟩ := complete shelves exposed
  have named : object.fields.map FieldPlan.name ∈ shelfNames (stockSource strip).plan :=
    List.mem_map_of_mem (f := fun object : ObjectPlan => object.fields.map FieldPlan.name)
      (List.mem_filter.mpr ⟨planned, beq_iff_eq.mpr ofShelves⟩)
  have shown := shelfNames_stock
  rw [show SchemaPlan.build stock shortNames nativeTypeMapper (fun _ => []) =
    .ok (stockSource strip).plan from built] at shown
  rw [Option.some.inj shown] at named
  exact ⟨strip, read, distinct, distinctColumns, exposed, object, planned, ofShelves, isComplete,
    List.mem_singleton.mp named⟩

end PlanSource

end TableGraph
