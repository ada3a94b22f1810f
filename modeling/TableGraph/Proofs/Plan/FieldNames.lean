import Mathlib
import TableGraph.Proofs.Plan.FieldOrigin

/-!
# Names of the grammar

Tables, columns and singulars are checked before they become names of a plan, and a
stripped column name that is no name is not used.  The names that are given without a
check are the columns of references whose stripped form is no name, the configured names
of polymorphic relations, and the referencing columns in long names.

The main statement, `SchemaPlan.names_valid_iff`, is that a plan has only names of the
grammar exactly when these are.
-/

namespace TableGraph

/-! ## Names with an end -/

/-- The characters of a name behind the first one. -/
def isNameCharacter (character : Char) : Bool := character == '_' || character.isAlphanum

theorem isGraphName_append {name ending : String} (valid : isGraphName name = true)
    (continued : ending.toList.all isNameCharacter = true) :
    isGraphName (name ++ ending) = true := by
  unfold isGraphName at valid ⊢
  rw [String.toList_append]
  cases characters : name.toList with
  | nil =>
      rw [characters] at valid
      cases valid
  | cons first rest =>
      rw [characters] at valid
      obtain ⟨begins, continues⟩ := Bool.and_eq_true_iff.mp valid
      have both : (rest ++ ending.toList).all isNameCharacter = true := by
        rw [List.all_append, continued, Bool.and_true]
        exact continues
      rw [List.cons_append]
      exact Bool.and_eq_true_iff.mpr ⟨begins, both⟩

/-- A count has a name of the grammar when its list has one. -/
theorem isGraphName_count {name : String} (valid : isGraphName name = true) :
    isGraphName (name ++ FieldPlan.countSuffix) = true :=
  isGraphName_append valid (by decide)

/-- The names of the root fields, the object types and their fields. -/
def SchemaPlan.names (plan : SchemaPlan) : List String :=
  plan.query.map FieldPlan.name ++
    plan.objects.flatMap fun object => object.name :: object.fields.map FieldPlan.name

theorem SchemaPlan.name_mem_names {plan : SchemaPlan} {object : ObjectPlan} {name : String}
    (planned : object ∈ plan.objects) (member : name ∈ object.fields.map FieldPlan.name) :
    name ∈ plan.names :=
  List.mem_append_right _ (List.mem_flatMap.mpr ⟨object, planned, List.mem_cons_of_mem _ member⟩)

namespace PlanSource

variable {source : PlanSource}

theorem name_of_mem_listAndCount {name object : String} {settings : FieldSettings}
    {field : FieldPlan} (member : field ∈ listAndCount name object settings) :
    field.name = name ∨ field.name = name ++ FieldPlan.countSuffix := by
  rcases mem_listAndCount.mp member with rfl | rfl
  · exact Or.inl rfl
  · exact Or.inr rfl

theorem isGraphName_listAndCount {name object : String} {settings : FieldSettings}
    {field : FieldPlan} (valid : isGraphName name = true)
    (member : field ∈ listAndCount name object settings) : isGraphName field.name = true := by
  rcases name_of_mem_listAndCount member with same | same
  · rw [same]
    exact valid
  · rw [same]
    exact isGraphName_count valid

/-! ## Checked names -/

theorem isGraphName_table {entry : Table × String} (member : entry ∈ source.namedTables) :
    isGraphName entry.1.name = true := by
  have exposed := (List.mem_filter.mp (mem_exposedTables member)).2
  unfold Configuration.exposes at exposed
  exact (Bool.and_eq_true_iff.mp (Bool.and_eq_true_iff.mp exposed).1).2

theorem isGraphName_object {entry : Table × String} (member : entry ∈ source.namedTables) :
    isGraphName entry.2 = true := by
  rcases mem_nameObjects member with kept | ⟨_, _, valid⟩
  · rw [kept]
    exact isGraphName_table member
  · exact valid

theorem isGraphName_of_isExposed {table : String} (exposed : source.isExposed table = true) :
    isGraphName table = true := by
  obtain ⟨entry, member, rfl⟩ := isExposed_iff.mp exposed
  exact isGraphName_table member

theorem isGraphName_query {field : FieldPlan} (member : field ∈ source.plan.query) :
    isGraphName field.name = true := by
  obtain ⟨entry, entryMember, offered⟩ := exists_of_mem_query member
  have valid := isGraphName_table entryMember
  rcases mem_rootFields.mp offered with rfl | rfl
  · exact valid
  · exact isGraphName_count valid

/-! ## Unchecked names -/

/-- A name that a plan gives without a check. -/
inductive UncheckedName (source : PlanSource) : String → Prop where
  /-- A referencing column whose stripped form is no name. -/
  | reference {table : Table} {column target : String}
      (exposed : table ∈ source.configuration.exposedTables source.database)
      (declared : (column, target) ∈ table.belongsTo)
      (visible : (source.configuration.visibleColumn? table column).isSome = true)
      (exposedTarget : source.isExposed target = true)
      (stripped : isGraphName (source.strip.removeFirst column) = false) :
      UncheckedName source column
  /-- The configured name of a polymorphic relation. -/
  | relation {relation : MorphRelation}
      (declared : relation ∈ source.configuration.morphRelations)
      (owned : (source.morphOwner? relation).isSome = true) :
      UncheckedName source relation.relationName
  /-- The long name of an inverse reference. -/
  | inverse {table other : Table} {columns : List String} {column : String}
      (exposed : table ∈ source.configuration.exposedTables source.database)
      (declared : (other.name, columns) ∈ table.hasMany)
      (exposedOther : source.isExposed other.name = true)
      (found : source.database.table? other.name = some other)
      (among : column ∈ columns)
      (visible : (source.configuration.visibleColumn? other column).isSome = true)
      (long : source.configuration.forcedLongNames = true ∨ 1 < columns.length) :
      UncheckedName source (longName other.name column)
  /-- The long name of an inverse polymorphic relation, which depends on the fields that
  its object type has before. -/
  | inverseMorph {relation : MorphRelation} {earlier later : List MorphRelation}
      {object : ObjectPlan}
      (declared : source.configuration.morphRelations = earlier ++ relation :: later)
      (owned : (source.morphOwner? relation).isSome = true)
      (present : object ∈ source.objectsAfter earlier)
      (target : isTarget relation object = true)
      (long : source.configuration.forcedLongNames = true ∨
        hasField object.fields relation.table = true ∨
          hasField object.fields (relation.table ++ FieldPlan.countSuffix) = true) :
      UncheckedName source (longName relation.table relation.idColumn)

theorem belongsToName_of_valid {column : String}
    (stripped : isGraphName (source.strip.removeFirst column) = true) :
    source.belongsToName column = source.strip.removeFirst column := by
  simp only [belongsToName, stripped, if_true]

theorem belongsToName_of_invalid {column : String}
    (stripped : isGraphName (source.strip.removeFirst column) = false) :
    source.belongsToName column = column := by
  simp only [belongsToName, stripped, Bool.false_eq_true, if_false]

theorem isGraphName_belongsTo {table : Table} {reference : String × String} {field : FieldPlan}
    (checked : ∀ name, UncheckedName source name → isGraphName name = true)
    (exposed : table ∈ source.configuration.exposedTables source.database)
    (declared : reference ∈ table.belongsTo)
    (planned : source.belongsToField? table reference = some field) :
    isGraphName field.name = true := by
  obtain ⟨column, object, visible, named, rfl⟩ := belongsToField?_eq_some planned
  change isGraphName (source.belongsToName reference.1) = true
  cases stripped : isGraphName (source.strip.removeFirst reference.1) with
  | true =>
      rw [belongsToName_of_valid stripped]
      exact stripped
  | false =>
      rw [belongsToName_of_invalid stripped]
      have target : source.isExposed reference.2 = true :=
        isSome_objectOf?.mp (Option.isSome_of_eq_some named)
      exact checked reference.1
        (.reference exposed declared (Option.isSome_of_eq_some visible) target stripped)

theorem isGraphName_hasMany {table : Table} {inverse : String × List String} {field : FieldPlan}
    (checked : ∀ name, UncheckedName source name → isGraphName name = true)
    (exposed : table ∈ source.configuration.exposedTables source.database)
    (declared : inverse ∈ table.hasMany) (planned : field ∈ source.hasManyFieldsOf inverse) :
    isGraphName field.name = true := by
  obtain ⟨object, other, named, found, column, among, offered⟩ := mem_hasManyFieldsOf planned
  obtain ⟨visible, offered⟩ := mem_hasManyFields offered
  have sameName : other.name = inverse.1 := name_of_table? found
  have exposedOther : source.isExposed other.name = true := by
    rw [sameName]
    exact isSome_objectOf?.mp (Option.isSome_of_eq_some named)
  apply isGraphName_listAndCount ?_ offered
  unfold hasManyName
  split
  · rename_i long
    rw [← sameName] at found
    have declared' : (other.name, inverse.2) ∈ table.hasMany := by
      rw [sameName]
      exact declared
    exact checked _ (.inverse exposed declared' exposedOther found among visible (by simpa using long))
  · exact isGraphName_of_isExposed exposedOther

/-- Fields have names of the grammar when the unchecked names are of the grammar. -/
theorem isGraphName_field {entry : Table × String} {field : FieldPlan}
    (checked : ∀ name, UncheckedName source name → isGraphName name = true)
    (member : entry ∈ source.namedTables) (origin : FieldOrigin source entry.1 field) :
    isGraphName field.name = true := by
  have exposed := mem_exposedTables member
  cases origin with
  | column planned =>
      obtain ⟨column, exposedColumn, scalar, rfl⟩ := mem_columnFields planned
      have both := (List.mem_filter.mp exposedColumn).2
      exact (Bool.and_eq_true_iff.mp both).2
  | belongsTo declared planned => exact isGraphName_belongsTo checked exposed declared planned
  | morphTo declared planned =>
      obtain ⟨_, owned, rfl⟩ := morphToField?_eq_some planned
      exact checked _ (.relation declared owned)
  | hasMany declared planned => exact isGraphName_hasMany checked exposed declared planned
  | inverse declared owned _ present target planned =>
      apply isGraphName_listAndCount ?_ planned
      unfold inverseName
      split
      · rename_i long
        have isOwned := Option.isSome_of_eq_some owned
        exact checked _ (.inverseMorph declared isOwned present target (by simpa using long))
      · exact isGraphName_of_isExposed (morphOwner?_eq_some owned).1

/-! ## Unchecked names are given -/

theorem offered_mem_names {table : Table} {field : FieldPlan}
    (exposed : table ∈ source.configuration.exposedTables source.database)
    (offered : field ∈ source.relationFields table) : field.name ∈ source.plan.names := by
  obtain ⟨name, member⟩ := exists_named exposed
  have present : source.objectPlan (table, name) ∈ source.objectsAfter [] :=
    List.mem_map_of_mem member
  obtain ⟨grown, planned, _, kept⟩ := exists_kept source.configuration.morphRelations present
  have named : field.name ∈ (source.objectPlan (table, name)).fields.map FieldPlan.name :=
    name_mem_pushFields offered
  exact SchemaPlan.name_mem_names planned (List.map_subset FieldPlan.name kept named)

theorem reference_mem_names {table : Table} {column target : String}
    (exposed : table ∈ source.configuration.exposedTables source.database)
    (declared : (column, target) ∈ table.belongsTo)
    (visible : (source.configuration.visibleColumn? table column).isSome = true)
    (exposedTarget : source.isExposed target = true) :
    source.belongsToName column ∈ source.plan.names := by
  obtain ⟨found, isFound⟩ := Option.isSome_iff_exists.mp visible
  obtain ⟨object, named⟩ := Option.isSome_iff_exists.mp (isSome_objectOf?.mpr exposedTarget)
  have planned := List.mem_filterMap.mpr ⟨(column, target), declared,
    show source.belongsToField? table (column, target) = some _ by
      rw [belongsToField?, isFound, Option.bind_some, named, Option.map_some]⟩
  have offered := List.mem_append_left
    (table.hasMany.flatMap source.hasManyFieldsOf) (List.mem_append_left
      (source.configuration.morphRelations.filterMap (source.morphToField? table)) planned)
  exact offered_mem_names exposed offered

theorem relation_mem_names {relation : MorphRelation}
    (declared : relation ∈ source.configuration.morphRelations)
    (owned : (source.morphOwner? relation).isSome = true) :
    relation.relationName ∈ source.plan.names := by
  obtain ⟨owner, isOwner⟩ := Option.isSome_iff_exists.mp owned
  obtain ⟨entry, member, sameName⟩ := isExposed_iff.mp (morphOwner?_eq_some isOwner).1
  have both : (relation.table == entry.1.name && (source.morphOwner? relation).isSome) = true := by
    rw [sameName, owned, beq_self_eq_true]
    rfl
  have planned := List.mem_filterMap.mpr ⟨relation, declared,
    show source.morphToField? entry.1 relation = some _ by rw [morphToField?, if_pos both]⟩
  have offered := List.mem_append_left
    (entry.1.hasMany.flatMap source.hasManyFieldsOf) (List.mem_append_right
      (entry.1.belongsTo.filterMap (source.belongsToField? entry.1)) planned)
  exact offered_mem_names (mem_exposedTables member) offered

theorem hasMany_mem_names {table other : Table} {columns : List String} {column : String}
    (exposed : table ∈ source.configuration.exposedTables source.database)
    (declared : (other.name, columns) ∈ table.hasMany)
    (exposedOther : source.isExposed other.name = true)
    (found : source.database.table? other.name = some other) (among : column ∈ columns)
    (visible : (source.configuration.visibleColumn? other column).isSome = true) :
    source.hasManyName other.name columns column ∈ source.plan.names := by
  obtain ⟨object, named⟩ := Option.isSome_iff_exists.mp (isSome_objectOf?.mpr exposedOther)
  let field : FieldPlan :=
    .list (source.hasManyName other.name columns column) object .hasMany
      (hasManySettings other.name column)
  have ofColumn : field ∈ source.hasManyFields other object columns column := by
    obtain ⟨present, isPresent⟩ := Option.isSome_iff_exists.mp visible
    rw [hasManyFields_eq, isPresent]
    exact List.mem_cons_self
  have ofInverse : field ∈ source.hasManyFieldsOf (other.name, columns) := by
    unfold hasManyFieldsOf
    simp only [named, found]
    exact List.mem_flatMap.mpr ⟨column, among, ofColumn⟩
  have offered : field ∈ source.relationFields table :=
    List.mem_append_right _ (List.mem_flatMap.mpr ⟨_, declared, ofInverse⟩)
  exact offered_mem_names exposed offered

theorem inverse_mem_names {relation : MorphRelation} {earlier later : List MorphRelation}
    {object : ObjectPlan}
    (declared : source.configuration.morphRelations = earlier ++ relation :: later)
    (owned : (source.morphOwner? relation).isSome = true)
    (present : object ∈ source.objectsAfter earlier) (target : isTarget relation object = true) :
    source.inverseName relation object ∈ source.plan.names := by
  obtain ⟨owner, isOwner⟩ := Option.isSome_iff_exists.mp owned
  obtain ⟨entry, member, sameName⟩ := isExposed_iff.mp (morphOwner?_eq_some isOwner).1
  have ownerPlanned :
      ∃ ownerObject, (source.objectsAfter earlier).find? (fun object => object.table == owner.name) =
        some ownerObject := by
    have named : (entry.1.name, entry.2) ∈ (source.objectsAfter earlier).map naming := by
      rw [naming_objectsAfter]
      exact List.mem_map_of_mem (f := fun entry : Table × String => (entry.1.name, entry.2)) member
    obtain ⟨candidate, candidateMember, same⟩ := List.mem_map.mp named
    have sameTable : candidate.table = owner.name := by
      rw [name_of_morphOwner? isOwner, ← sameName]
      exact (Prod.mk.inj same).1
    rw [← Option.isSome_iff_exists, List.find?_isSome]
    exact ⟨candidate, candidateMember, beq_iff_eq.mpr sameTable⟩
  obtain ⟨ownerObject, found⟩ := ownerPlanned
  let changed := source.addMorphFields relation ownerObject.name object
  have changedMember : changed ∈ source.objectsAfter (earlier ++ [relation]) := by
    rw [objectsAfter_snoc, addMorphRelation_of_owner isOwner found]
    exact List.mem_map_of_mem present
  have offered : source.inverseName relation object ∈ changed.fields.map FieldPlan.name := by
    have ofFields :
        changed.fields = pushFields object.fields
          (listAndCount (source.inverseName relation object) ownerObject.name
            (inverseSettings relation)) := by
      change (source.addMorphFields relation ownerObject.name object).fields = _
      rw [addMorphFields_eq, if_pos target]
    let list : FieldPlan := .list (source.inverseName relation object) ownerObject.name .hasMany
      (inverseSettings relation)
    have listed : list ∈ listAndCount (source.inverseName relation object) ownerObject.name
        (inverseSettings relation) := List.mem_cons_self
    rw [ofFields]
    exact name_mem_pushFields listed
  obtain ⟨grown, planned, _, kept⟩ := exists_kept later changedMember
  have whole : earlier ++ [relation] ++ later = source.configuration.morphRelations := by
    rw [declared, List.append_assoc, List.singleton_append]
  rw [whole] at planned
  exact SchemaPlan.name_mem_names planned (List.map_subset FieldPlan.name kept offered)

/-- Every unchecked name is a name of the plan. -/
theorem UncheckedName.mem_names {name : String} (unchecked : UncheckedName source name) :
    name ∈ source.plan.names := by
  cases unchecked with
  | reference exposed declared visible exposedTarget stripped =>
      have given := reference_mem_names exposed declared visible exposedTarget
      rw [belongsToName_of_invalid stripped] at given
      exact given
  | relation declared owned => exact relation_mem_names declared owned
  | inverse exposed declared exposedOther found among visible long =>
      have given := hasMany_mem_names exposed declared exposedOther found among visible
      rw [hasManyName, if_pos (by simpa using long)] at given
      exact given
  | inverseMorph declared owned present target long =>
      have given := inverse_mem_names declared owned present target
      rw [inverseName, if_pos (by simpa using long)] at given
      exact given

end PlanSource

namespace SchemaPlan

variable {database : Structure} {configuration : Configuration} {mapper : ColumnTypeMapper}
  {inflector : Inflector} {patterns : PatternEngine} {plan : SchemaPlan}

/-- A plan has only names of the grammar exactly when the names that it gives without a
check are. -/
theorem names_valid_iff
    (built : SchemaPlan.build database configuration mapper inflector patterns = .ok plan) :
    ∃ strip, configuration.readStripPattern patterns = .ok strip ∧
      ((∀ name ∈ plan.names, isGraphName name = true) ↔
        ∀ name, PlanSource.UncheckedName ⟨database, configuration, mapper, inflector, strip⟩ name →
          isGraphName name = true) := by
  obtain ⟨strip, read, rfl⟩ := eq_plan_of_build built
  refine ⟨strip, read, ?_⟩
  constructor
  · intro valid name unchecked
    exact valid name unchecked.mem_names
  · intro checked name member
    rcases List.mem_append.mp member with root | ofObject
    · obtain ⟨field, fieldMember, rfl⟩ := List.mem_map.mp root
      exact PlanSource.isGraphName_query fieldMember
    · obtain ⟨object, objectMember, named⟩ := List.mem_flatMap.mp ofObject
      obtain ⟨entry, entryMember, isPlan⟩ := PlanSource.isPlanOf_objects object objectMember
      rcases List.mem_cons.mp named with rfl | ofField
      · rw [isPlan.name]
        exact PlanSource.isGraphName_object entryMember
      · obtain ⟨field, fieldMember, rfl⟩ := List.mem_map.mp ofField
        exact PlanSource.isGraphName_field checked entryMember (isPlan.origin field fieldMember)

/-! ### A referencing column with a hyphen -/

private def hyphenUsers : Table :=
  ⟨"users", [⟨"id", false, true, "INTEGER", none⟩], [], [("posts", ["user-id"])]⟩

private def hyphenPosts : Table :=
  ⟨"posts", [⟨"id", false, true, "INTEGER", none⟩, .plain "user-id" "INTEGER"],
    [("user-id", "users")], []⟩

private def hyphenated : Structure :=
  .ofTables [{ hyphenUsers with hasMany := [] }, hyphenPosts]

private theorem tables_hyphenated : hyphenated.tables = [hyphenUsers, hyphenPosts] := by
  decide

private def strippingHyphens : Configuration :=
  { Configuration.standard with stripPattern := "-[a-z]*", forcedLongNames := false }

/-- The names are of the grammar when the stripped column is a name and the inverse fields
have the short name. -/
theorem names_valid_iff_stripped :
    ∃ plan, SchemaPlan.build hyphenated strippingHyphens nativeTypeMapper Inflector.english =
        .ok plan ∧
      (∀ name ∈ plan.names, isGraphName name = true) := by
  obtain ⟨strip, read, strips⟩ :
      ∃ strip, strippingHyphens.readStripPattern = .ok strip ∧
        strip.removeFirst "user-id" = "user" := ⟨_, by cbv, by cbv⟩
  have built := build_of_read read hyphenated nativeTypeMapper Inflector.english
  refine ⟨_, built, ?_⟩
  obtain ⟨other, same, names⟩ := names_valid_iff built
  have sameStrip : strip = other := Except.ok.inj (read.symm.trans same)
  subst sameStrip
  refine names.mpr ?_
  intro name unchecked
  have among {table : Table}
      (exposed : table ∈ strippingHyphens.exposedTables hyphenated) :
      table = hyphenUsers ∨ table = hyphenPosts := by
    have member := (List.mem_filter.mp exposed).1
    rw [tables_hyphenated] at member
    simpa using member
  cases unchecked with
  | reference exposed declared visible exposedTarget stripped =>
      rcases among exposed with rfl | rfl
      · cases declared
      · simp only [hyphenPosts, List.mem_singleton, Prod.mk.injEq] at declared
        rw [declared.1, strips] at stripped
        exact absurd stripped (by decide)
  | relation declared owned => cases declared
  | inverse exposed declared exposedOther found among' visible long =>
      rcases among exposed with rfl | rfl
      · simp only [hyphenUsers, List.mem_singleton, Prod.mk.injEq] at declared
        rw [declared.2] at long
        rcases long with forced | several
        · cases forced
        · exact absurd several (by decide)
      · cases declared
  | inverseMorph declared owned present target long =>
      exact absurd declared (by simp [strippingHyphens, Configuration.standard])

/-- A column that is no name of the grammar names the field that follows it. -/
theorem not_names_valid_hyphen :
    ∃ plan, SchemaPlan.build hyphenated .standard nativeTypeMapper Inflector.english = .ok plan ∧
      "user-id" ∈ plan.names ∧ isGraphName "user-id" = false ∧
      ¬ ∀ name ∈ plan.names, isGraphName name = true := by
  obtain ⟨strip, read, keeps⟩ :
      ∃ strip, Configuration.standard.readStripPattern = .ok strip ∧
        strip.removeFirst "user-id" = "user-id" := ⟨_, by cbv, by cbv⟩
  let source : PlanSource :=
    ⟨hyphenated, .standard, nativeTypeMapper, Inflector.english, strip⟩
  refine ⟨source.plan, build_of_read read hyphenated nativeTypeMapper Inflector.english, ?_⟩
  have exposed : source.configuration.exposedTables source.database = [hyphenUsers, hyphenPosts] := by
    change Configuration.standard.exposedTables hyphenated = _
    rw [Configuration.exposedTables, tables_hyphenated]
    decide
  have given : "user-id" ∈ source.plan.names := by
    have users : hyphenUsers ∈ source.configuration.exposedTables source.database := by
      rw [exposed]
      exact List.mem_cons_self
    have posts : hyphenPosts ∈ source.configuration.exposedTables source.database := by
      rw [exposed]
      exact List.mem_cons_of_mem hyphenUsers List.mem_cons_self
    have target : source.isExposed "users" = true := PlanSource.isExposed_of_mem users
    have declared : ("user-id", "users") ∈ hyphenPosts.belongsTo := List.mem_cons_self
    have stripped : isGraphName (source.strip.removeFirst "user-id") = false := by
      rw [keeps]
      rfl
    have unchecked : source.UncheckedName "user-id" :=
      .reference posts declared rfl target stripped
    exact unchecked.mem_names
  have invalid : isGraphName "user-id" = false := by decide
  refine ⟨given, invalid, fun valid => ?_⟩
  rw [valid "user-id" given] at invalid
  cases invalid

end SchemaPlan

end TableGraph
