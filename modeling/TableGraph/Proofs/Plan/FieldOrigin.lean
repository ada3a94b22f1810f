import Mathlib
import TableGraph.Proofs.Json.OrderedMap
import TableGraph.Proofs.Plan.ObjectNames

/-!
# Where the fields of a plan come from

A field of an object type is one of a column, of a reference in either direction or
of a polymorphic relation in either direction.  The main statement, `isPlanOf_objects`,
says so for all object types of a plan; what is to hold of every field is then shown
for each of the five origins.

No pass removes a field, and a field that is left out has the name of one that is kept.
So the names of an object type are all names that were offered to it.
-/

namespace TableGraph

/-! ## Names of counts -/

namespace FieldPlan

theorem append_countSuffix_inj {name other : String} :
    other ++ countSuffix = name ++ countSuffix ↔ other = name := by
  rw [← String.toList_inj, String.toList_append, String.toList_append, List.append_left_inj,
    String.toList_inj]

theorem append_countSuffix_ne (name : String) : name ++ countSuffix ≠ name := by
  intro same
  have lengths := congrArg String.length same
  rw [String.length_append] at lengths
  have nonempty : countSuffix.length = 6 := by decide
  omega

end FieldPlan

/-! ## Adding fields -/

theorem mem_pushField {fields : List FieldPlan} {added field : FieldPlan}
    (member : field ∈ pushField fields added) : field ∈ fields ∨ field = added := by
  unfold pushField at member
  split at member
  · exact Or.inl member
  · simpa using member

theorem mem_pushFields {fields added : List FieldPlan} {field : FieldPlan}
    (member : field ∈ pushFields fields added) : field ∈ fields ∨ field ∈ added := by
  induction added generalizing fields with
  | nil => exact Or.inl member
  | cons head tail inductionHypothesis =>
      rcases inductionHypothesis member with pushed | later
      · rcases mem_pushField pushed with kept | rfl
        · exact Or.inl kept
        · exact Or.inr List.mem_cons_self
      · exact Or.inr (List.mem_cons_of_mem head later)

theorem subset_pushField (fields : List FieldPlan) (added : FieldPlan) :
    fields ⊆ pushField fields added := by
  unfold pushField
  split
  · exact List.Subset.refl fields
  · exact List.subset_append_left fields [added]

theorem subset_pushFields (fields added : List FieldPlan) : fields ⊆ pushFields fields added := by
  induction added generalizing fields with
  | nil => exact List.Subset.refl fields
  | cons head tail inductionHypothesis =>
      exact List.Subset.trans (subset_pushField fields head)
        (inductionHypothesis (pushField fields head))

theorem name_mem_pushField (fields : List FieldPlan) (added : FieldPlan) :
    added.name ∈ (pushField fields added).map FieldPlan.name := by
  unfold pushField
  split
  · rename_i taken
    obtain ⟨field, member, same⟩ := List.any_eq_true.mp taken
    exact List.mem_map.mpr ⟨field, member, eq_of_beq same⟩
  · simp

/-- A field that is offered is added, unless there is one of its name. -/
theorem name_mem_pushFields {fields added : List FieldPlan} {field : FieldPlan}
    (offered : field ∈ added) : field.name ∈ (pushFields fields added).map FieldPlan.name := by
  induction added generalizing fields with
  | nil => cases offered
  | cons head tail inductionHypothesis =>
      rcases List.mem_cons.mp offered with rfl | later
      · have kept := subset_pushFields (pushField fields field) tail
        exact List.map_subset FieldPlan.name kept (name_mem_pushField fields field)
      · exact inductionHypothesis later

namespace PlanSource

variable (source : PlanSource)

/-! ## Exposed tables -/

theorem tables_namedTables :
    source.namedTables.map Prod.fst = source.configuration.exposedTables source.database :=
  tables_nameObjects [] _

variable {source}

theorem mem_exposedTables {entry : Table × String} (member : entry ∈ source.namedTables) :
    entry.1 ∈ source.configuration.exposedTables source.database := by
  rw [← source.tables_namedTables]
  exact List.mem_map_of_mem member

theorem exists_named {table : Table}
    (exposed : table ∈ source.configuration.exposedTables source.database) :
    ∃ name, (table, name) ∈ source.namedTables := by
  rw [← source.tables_namedTables] at exposed
  obtain ⟨entry, member, rfl⟩ := List.mem_map.mp exposed
  exact ⟨entry.2, member⟩

theorem isExposed_iff {table : String} :
    source.isExposed table = true ↔ ∃ entry ∈ source.namedTables, entry.1.name = table := by
  simp [isExposed, List.any_eq_true]

theorem isExposed_of_mem {table : Table}
    (exposed : table ∈ source.configuration.exposedTables source.database) :
    source.isExposed table.name = true := by
  obtain ⟨name, member⟩ := exists_named exposed
  exact isExposed_iff.mpr ⟨(table, name), member, rfl⟩

theorem exists_of_objectOf? {table object : String} (named : source.objectOf? table = some object) :
    ∃ entry ∈ source.namedTables, entry.1.name = table ∧ entry.2 = object := by
  obtain ⟨entry, member, same⟩ := List.mem_map.mp (mem_of_lookup_pairsOf named)
  obtain ⟨nameEq, objectEq⟩ := Prod.mk.inj same
  exact ⟨entry, member, nameEq, objectEq⟩

theorem isSome_objectOf? {table : String} :
    (source.objectOf? table).isSome = true ↔ source.isExposed table = true := by
  rw [objectOf?, isSome_lookup_pairsOf, isExposed_iff]
  simp

/-! ## The builders -/

theorem mem_listAndCount {name object : String} {settings : FieldSettings} {field : FieldPlan} :
    field ∈ listAndCount name object settings ↔
      field = .list name object .hasMany settings ∨ field = .count name .hasManyCount settings :=
  List.mem_pair

theorem mem_rootFields {table : Table} {name : String} {field : FieldPlan} :
    field ∈ rootFields table name ↔
      field = .list table.name name .table
          { FieldSettings.blank with tableName := some table.name } ∨
        field = .count table.name .tableCount
          { FieldSettings.blank with tableName := some table.name } :=
  List.mem_pair

theorem mem_columnFields {table : Table} {field : FieldPlan}
    (member : field ∈ source.columnFields table) :
    ∃ column ∈ source.configuration.exposedColumns table, ∃ scalar,
      field = .ofColumn column scalar := by
  obtain ⟨column, exposed, rfl⟩ := List.mem_map.mp member
  exact ⟨column, exposed, _, rfl⟩

theorem belongsToField?_eq_some {table : Table} {reference : String × String} {field : FieldPlan}
    (planned : source.belongsToField? table reference = some field) :
    ∃ column object, source.configuration.visibleColumn? table reference.1 = some column ∧
      source.objectOf? reference.2 = some object ∧
      field =
        { name := source.belongsToName reference.1
          type := .object object
          nullable := column.nullable
          arguments := .none
          resolver := some .belongsTo
          settings := { FieldSettings.blank with
            tableName := some reference.2, referencingColumn := some reference.1 }
          description := none } := by
  obtain ⟨column, visible, named⟩ := Option.bind_eq_some_iff.mp planned
  obtain ⟨object, found, rfl⟩ := Option.map_eq_some_iff.mp named
  exact ⟨column, object, visible, found, rfl⟩

theorem morphOwner?_eq_some {relation : MorphRelation} {owner : Table}
    (owned : source.morphOwner? relation = some owner) :
    source.isExposed relation.table = true ∧ source.database.table? relation.table = some owner ∧
      (source.configuration.visibleColumn? owner relation.idColumn).isSome = true ∧
      (source.configuration.visibleColumn? owner relation.typeColumn).isSome = true := by
  unfold morphOwner? at owned
  split at owned
  · rename_i exposed
    obtain ⟨found, visible⟩ := Option.filter_eq_some_iff.mp owned
    obtain ⟨id, type⟩ := Bool.and_eq_true_iff.mp visible
    exact ⟨exposed, found, id, type⟩
  · cases owned

theorem name_of_table? {database : Structure} {name : String} {table : Table}
    (found : database.table? name = some table) : table.name = name :=
  eq_of_beq (List.find?_some (p := fun table : Table => table.name == name) found)

theorem name_of_morphOwner? {relation : MorphRelation} {owner : Table}
    (owned : source.morphOwner? relation = some owner) : owner.name = relation.table :=
  name_of_table? (morphOwner?_eq_some owned).2.1

theorem morphToField?_eq_some {table : Table} {relation : MorphRelation} {field : FieldPlan}
    (planned : source.morphToField? table relation = some field) :
    relation.table = table.name ∧ (source.morphOwner? relation).isSome = true ∧
      field =
        { name := relation.relationName
          type := .morph
          nullable := ((table.column? relation.idColumn).map Column.nullable).getD true
          arguments := .none
          resolver := some .morphTo
          settings := { FieldSettings.blank with morphRelation := some relation }
          description := none } := by
  unfold morphToField? at planned
  split at planned
  · rename_i both
    obtain ⟨same, owned⟩ := Bool.and_eq_true_iff.mp both
    exact ⟨eq_of_beq same, owned, (Option.some.inj planned).symm⟩
  · cases planned

/-- The name of the inverse fields of a reference. -/
def hasManyName (source : PlanSource) (other : String) (columns : List String) (column : String) :
    String :=
  if source.configuration.forcedLongNames || 1 < columns.length then longName other column
  else other

/-- What the inverse fields of a reference have to know. -/
def hasManySettings (other column : String) : FieldSettings :=
  { FieldSettings.blank with tableName := some other, referencingColumn := some column }

theorem hasManyFields_eq (other : Table) (object : String) (columns : List String)
    (column : String) :
    source.hasManyFields other object columns column =
      if (source.configuration.visibleColumn? other column).isNone then []
      else
        listAndCount (source.hasManyName other.name columns column) object
          (hasManySettings other.name column) := rfl

theorem mem_hasManyFields {other : Table} {object column : String} {columns : List String}
    {field : FieldPlan} (member : field ∈ source.hasManyFields other object columns column) :
    (source.configuration.visibleColumn? other column).isSome = true ∧
      field ∈ listAndCount (source.hasManyName other.name columns column) object
        (hasManySettings other.name column) := by
  rw [hasManyFields_eq] at member
  split at member
  · cases member
  · rename_i visible
    have present : (source.configuration.visibleColumn? other column).isSome = true := by
      rw [Option.isSome_iff_ne_none]
      simpa using visible
    exact ⟨present, member⟩

theorem mem_hasManyFieldsOf {inverse : String × List String} {field : FieldPlan}
    (member : field ∈ source.hasManyFieldsOf inverse) :
    ∃ object other, source.objectOf? inverse.1 = some object ∧
      source.database.table? inverse.1 = some other ∧
        ∃ column ∈ inverse.2, field ∈ source.hasManyFields other object inverse.2 column := by
  unfold hasManyFieldsOf at member
  split at member
  · rename_i object other named found
    obtain ⟨column, columnMember, fieldMember⟩ := List.mem_flatMap.mp member
    exact ⟨object, other, named, found, column, columnMember, fieldMember⟩
  · cases member

/-- The name of the inverse fields of a polymorphic relation on an object type. -/
def inverseName (source : PlanSource) (relation : MorphRelation) (object : ObjectPlan) : String :=
  if source.configuration.forcedLongNames || (hasField object.fields relation.table ||
      hasField object.fields (relation.table ++ FieldPlan.countSuffix)) then
    longName relation.table relation.idColumn
  else relation.table

/-- What the inverse fields of a polymorphic relation have to know. -/
def inverseSettings (relation : MorphRelation) : FieldSettings :=
  { FieldSettings.blank with
    tableName := some relation.table
    referencingColumn := some relation.idColumn
    referencingTypeColumn := some relation.typeColumn }

/-- Whether an object type gets the inverse fields of a polymorphic relation. -/
def isTarget (relation : MorphRelation) (object : ObjectPlan) : Bool :=
  relation.targets.isEmpty || relation.targets.contains object.table

theorem addMorphFields_eq (relation : MorphRelation) (owner : String) (object : ObjectPlan) :
    source.addMorphFields relation owner object =
      if isTarget relation object then
        { object with
          fields := pushFields object.fields
            (listAndCount (source.inverseName relation object) owner (inverseSettings relation)) }
      else object := by
  have complement :
      (!relation.targets.isEmpty && !relation.targets.contains object.table) =
        !isTarget relation object := (Bool.not_or _ _).symm
  rw [addMorphFields, complement]
  cases isTarget relation object <;> rfl

theorem addMorphRelation_of_owner {relation : MorphRelation} {owner : Table}
    {objects : List ObjectPlan} {object : ObjectPlan}
    (owned : source.morphOwner? relation = some owner)
    (found : objects.find? (fun object => object.table == owner.name) = some object) :
    source.addMorphRelation objects relation =
      objects.map (source.addMorphFields relation object.name) := by
  rw [addMorphRelation, owned]
  simp only [found]

theorem addMorphRelation_cases (source : PlanSource) (objects : List ObjectPlan)
    (relation : MorphRelation) :
    source.addMorphRelation objects relation = objects ∨
      ∃ owner object, source.morphOwner? relation = some owner ∧
        objects.find? (fun object => object.table == owner.name) = some object ∧
        source.addMorphRelation objects relation =
          objects.map (source.addMorphFields relation object.name) := by
  cases owned : source.morphOwner? relation with
  | none =>
      refine Or.inl ?_
      rw [addMorphRelation, owned]
  | some owner =>
      cases found : objects.find? fun object => object.table == owner.name with
      | none =>
          refine Or.inl ?_
          rw [addMorphRelation, owned]
          simp only [found]
      | some object => exact Or.inr ⟨owner, object, rfl, found, addMorphRelation_of_owner owned found⟩

/-! ## Object types while relations are added -/

/-- The object types once the inverse fields of some polymorphic relations were
added. -/
def objectsAfter (source : PlanSource) (relations : List MorphRelation) : List ObjectPlan :=
  relations.foldl source.addMorphRelation (source.namedTables.map source.objectPlan)

theorem objectsAfter_snoc (relations : List MorphRelation) (relation : MorphRelation) :
    source.objectsAfter (relations ++ [relation]) =
      source.addMorphRelation (source.objectsAfter relations) relation := by
  rw [objectsAfter, List.foldl_append]
  rfl

theorem objects_plan :
    source.plan.objects = source.objectsAfter source.configuration.morphRelations := rfl

/-- What holds of the fields of an object type before relations are added, and is kept when
the inverse fields of a relation come behind them, holds of the fields of every object type. -/
theorem fields_objectsAfter (Holds : List FieldPlan → Prop)
    (planned : ∀ entry, Holds (source.objectPlan entry).fields)
    (kept : ∀ relation (object : ObjectPlan) owner, Holds object.fields →
      Holds (pushFields object.fields
        (listAndCount (source.inverseName relation object) owner (inverseSettings relation))))
    (relations : List MorphRelation) :
    ∀ object ∈ source.objectsAfter relations, Holds object.fields := by
  induction relations using List.reverseRecOn with
  | nil =>
      intro object member
      obtain ⟨entry, _, rfl⟩ := List.mem_map.mp member
      exact planned entry
  | append_singleton earlier relation inductionHypothesis =>
      intro object member
      rw [objectsAfter_snoc] at member
      rcases source.addMorphRelation_cases (source.objectsAfter earlier) relation with
        unchanged | ⟨_, owner, _, _, changed⟩
      · rw [unchanged] at member
        exact inductionHypothesis object member
      · rw [changed] at member
        obtain ⟨before, present, rfl⟩ := List.mem_map.mp member
        rw [addMorphFields_eq]
        split
        · exact kept relation before owner.name (inductionHypothesis before present)
        · exact inductionHypothesis before present

/-- A field of the object type of a table, by what it was planned from. -/
inductive FieldOrigin (source : PlanSource) (table : Table) : FieldPlan → Prop where
  | column {field : FieldPlan} (planned : field ∈ source.columnFields table) :
      FieldOrigin source table field
  | belongsTo {field : FieldPlan} {reference : String × String}
      (declared : reference ∈ table.belongsTo)
      (planned : source.belongsToField? table reference = some field) :
      FieldOrigin source table field
  | morphTo {field : FieldPlan} {relation : MorphRelation}
      (declared : relation ∈ source.configuration.morphRelations)
      (planned : source.morphToField? table relation = some field) :
      FieldOrigin source table field
  | hasMany {field : FieldPlan} {inverse : String × List String}
      (declared : inverse ∈ table.hasMany)
      (planned : field ∈ source.hasManyFieldsOf inverse) :
      FieldOrigin source table field
  /-- The object types that were there before the relation decide on the name. -/
  | inverse {field : FieldPlan} {relation : MorphRelation} {earlier later : List MorphRelation}
      {owner : Table × String} {object : ObjectPlan}
      (declared : source.configuration.morphRelations = earlier ++ relation :: later)
      (owned : source.morphOwner? relation = some owner.1)
      (named : (owner.1.name, owner.2) ∈ source.namedTables.map fun entry => (entry.1.name, entry.2))
      (present : object ∈ source.objectsAfter earlier)
      (target : isTarget relation object = true)
      (planned : field ∈
        listAndCount (source.inverseName relation object) owner.2 (inverseSettings relation)) :
      FieldOrigin source table field

/-- An object type of a table with nothing but fields that were planned for it. -/
structure IsPlanOf (source : PlanSource) (entry : Table × String) (object : ObjectPlan) : Prop where
  table : object.table = entry.1.name
  name : object.name = entry.2
  origin : ∀ field ∈ object.fields, FieldOrigin source entry.1 field

theorem isPlanOf_objectPlan (entry : Table × String) :
    IsPlanOf source entry (source.objectPlan entry) where
  table := rfl
  name := rfl
  origin := by
    intro field member
    rcases mem_pushFields member with ofColumns | related
    · rcases mem_pushFields ofColumns with none | ofColumn
      · cases none
      · exact FieldOrigin.column ofColumn
    · rcases List.mem_append.mp related with forward | backward
      · rcases List.mem_append.mp forward with followed | polymorphic
        · obtain ⟨reference, declared, planned⟩ := List.mem_filterMap.mp followed
          exact FieldOrigin.belongsTo declared planned
        · obtain ⟨relation, declared, planned⟩ := List.mem_filterMap.mp polymorphic
          exact FieldOrigin.morphTo declared planned
      · obtain ⟨inverse, declared, planned⟩ := List.mem_flatMap.mp backward
        exact FieldOrigin.hasMany declared planned

theorem naming_objectsAfter (relations : List MorphRelation) :
    (source.objectsAfter relations).map naming =
      source.namedTables.map fun entry => (entry.1.name, entry.2) := by
  induction relations using List.reverseRecOn with
  | nil =>
      rw [objectsAfter, List.foldl_nil, List.map_map]
      rfl
  | append_singleton earlier relation inductionHypothesis =>
      rw [objectsAfter_snoc, naming_addMorphRelation, inductionHypothesis]

theorem naming_mem_namedTables {relations : List MorphRelation} {object : ObjectPlan}
    (member : object ∈ source.objectsAfter relations) :
    (object.table, object.name) ∈ source.namedTables.map fun entry => (entry.1.name, entry.2) := by
  rw [← naming_objectsAfter relations]
  exact List.mem_map_of_mem (f := naming) member

theorem isPlanOf_addMorphRelation {earlier later : List MorphRelation} {relation : MorphRelation}
    (declared : source.configuration.morphRelations = earlier ++ relation :: later)
    (planned : ∀ object ∈ source.objectsAfter earlier,
      ∃ entry ∈ source.namedTables, IsPlanOf source entry object) :
    ∀ object ∈ source.addMorphRelation (source.objectsAfter earlier) relation,
      ∃ entry ∈ source.namedTables, IsPlanOf source entry object := by
  intro object member
  rcases source.addMorphRelation_cases (source.objectsAfter earlier) relation with
    unchanged | ⟨owner, ownerObject, owned, found, changed⟩
  · rw [unchanged] at member
    exact planned object member
  · rw [changed] at member
    obtain ⟨before, present, rfl⟩ := List.mem_map.mp member
    obtain ⟨entry, entryMember, isPlan⟩ := planned before present
    refine ⟨entry, entryMember, ?_⟩
    rw [addMorphFields_eq]
    split
    · rename_i target
      refine ⟨isPlan.table, isPlan.name, fun field fieldMember => ?_⟩
      rcases mem_pushFields fieldMember with kept | added
      · exact isPlan.origin field kept
      · have ownerNaming := naming_mem_namedTables (List.mem_of_find?_eq_some found)
        have sameTable : ownerObject.table = owner.name :=
          eq_of_beq (List.find?_some (p := fun object : ObjectPlan => object.table == owner.name) found)
        rw [sameTable] at ownerNaming
        let named : Table × String := (owner, ownerObject.name)
        have ownedNamed : source.morphOwner? relation = some named.1 := owned
        exact FieldOrigin.inverse declared ownedNamed ownerNaming present target added
    · exact isPlan

/-- Every field of an object type was planned for its table. -/
theorem isPlanOf_objects :
    ∀ object ∈ source.plan.objects, ∃ entry ∈ source.namedTables, IsPlanOf source entry object := by
  have onPrefix :
      ∀ earlier later, source.configuration.morphRelations = earlier ++ later →
        ∀ object ∈ source.objectsAfter earlier,
          ∃ entry ∈ source.namedTables, IsPlanOf source entry object := by
    intro earlier
    induction earlier using List.reverseRecOn with
    | nil =>
        intro later _ object member
        obtain ⟨entry, entryMember, rfl⟩ := List.mem_map.mp member
        exact ⟨entry, entryMember, isPlanOf_objectPlan entry⟩
    | append_singleton earlier relation inductionHypothesis =>
        intro later split
        rw [List.append_assoc, List.singleton_append] at split
        rw [objectsAfter_snoc]
        exact isPlanOf_addMorphRelation split (inductionHypothesis (relation :: later) split)
  exact onPrefix source.configuration.morphRelations [] (List.append_nil _).symm

/-! ## Fields that are kept -/

theorem exists_kept_addMorphRelation (source : PlanSource) (relation : MorphRelation)
    {objects : List ObjectPlan} {object : ObjectPlan} (member : object ∈ objects) :
    ∃ later ∈ source.addMorphRelation objects relation,
      naming later = naming object ∧ object.fields ⊆ later.fields := by
  rcases source.addMorphRelation_cases objects relation with
    unchanged | ⟨owner, ownerObject, _, _, changed⟩
  · rw [unchanged]
    exact ⟨object, member, rfl, List.Subset.refl _⟩
  · rw [changed]
    refine ⟨_, List.mem_map_of_mem member, source.naming_addMorphFields relation _ object, ?_⟩
    rw [addMorphFields_eq]
    split
    · exact subset_pushFields object.fields _
    · exact List.Subset.refl _

/-- An object type keeps its fields while further relations are added. -/
theorem exists_kept {earlier : List MorphRelation} (later : List MorphRelation)
    {object : ObjectPlan} (member : object ∈ source.objectsAfter earlier) :
    ∃ grown ∈ source.objectsAfter (earlier ++ later),
      naming grown = naming object ∧ object.fields ⊆ grown.fields := by
  induction later using List.reverseRecOn with
  | nil =>
      rw [List.append_nil]
      exact ⟨object, member, rfl, List.Subset.refl _⟩
  | append_singleton behind relation inductionHypothesis =>
      obtain ⟨middle, middleMember, sameNaming, kept⟩ := inductionHypothesis
      obtain ⟨grown, grownMember, sameNaming', kept'⟩ :=
        source.exists_kept_addMorphRelation relation middleMember
      rw [← List.append_assoc, objectsAfter_snoc]
      exact ⟨grown, grownMember, sameNaming'.trans sameNaming, List.Subset.trans kept kept'⟩

/-! ## Root fields -/

theorem query_plan :
    source.plan.query =
      pushFields [] (source.namedTables.flatMap fun entry => rootFields entry.1 entry.2) := by
  rw [pushFields, List.foldl_flatMap]
  rfl

/-- Every root field is one of the two of an exposed table. -/
theorem exists_of_mem_query {field : FieldPlan} (member : field ∈ source.plan.query) :
    ∃ entry ∈ source.namedTables, field ∈ rootFields entry.1 entry.2 := by
  rw [query_plan] at member
  rcases mem_pushFields member with none | offered
  · cases none
  · exact List.mem_flatMap.mp offered

end PlanSource

theorem SchemaPlan.build_of_read {configuration : Configuration} {patterns : PatternEngine}
    {strip : CompiledPattern} (read : configuration.readStripPattern patterns = .ok strip) (database : Structure)
    (mapper : ColumnTypeMapper) (inflector : Inflector) :
    SchemaPlan.build database configuration mapper inflector patterns =
      .ok (PlanSource.plan ⟨database, configuration, mapper, inflector, strip⟩) := by
  rw [SchemaPlan.build, read]
  rfl

/-- A plan is the one of a source whose strip pattern was read. -/
theorem SchemaPlan.eq_plan_of_build {database : Structure} {configuration : Configuration}
    {mapper : ColumnTypeMapper} {inflector : Inflector} {patterns : PatternEngine} {plan : SchemaPlan}
    (built : SchemaPlan.build database configuration mapper inflector patterns = .ok plan) :
    ∃ strip, configuration.readStripPattern patterns = .ok strip ∧
      plan = PlanSource.plan ⟨database, configuration, mapper, inflector, strip⟩ := by
  cases read : configuration.readStripPattern patterns with
  | error failure =>
      rw [SchemaPlan.build, read] at built
      cases built
  | ok strip =>
      rw [SchemaPlan.build_of_read read] at built
      exact ⟨strip, rfl, (Except.ok.inj built).symm⟩

end TableGraph
