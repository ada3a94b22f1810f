import Mathlib
import TableGraph.Proofs.Plan.Completeness
import TableGraph.Proofs.Plan.Pairing

/-!
# Lists and their counts in a plan

Root fields, inverse references and inverse polymorphic relations are lists that are offered
with their counts.  A relation looks at both names before it uses its short one, so under
this name its two fields stay together; elsewhere a name that is given to a column, to a
reference or to the count of another list can take one half away.

The main statement, `SchemaPlan.pairsFields_of_build`, says when a half is missing, among
the root fields and in every object type, and which tables lack a root field.
-/

namespace TableGraph

namespace PlanSource

variable {source : PlanSource}

theorem comesInPairs_rootFields (table : Table) (name : String) :
    ComesInPairs (rootFields table name) :=
  .pair table.name name .table .tableCount _ .nil

theorem comesInPairs_listAndCount (name object : String) (settings : FieldSettings) :
    ComesInPairs (listAndCount name object settings) :=
  .pair name object .hasMany .hasManyCount settings .nil

theorem comesInPairs_columnFields (table : Table) : ComesInPairs (source.columnFields table) := by
  apply ComesInPairs.of_noHalf
  intro field member
  obtain ⟨column, _, scalar, rfl⟩ := mem_columnFields member
  rintro (⟨object, lists⟩ | counts)
  · cases lists
  · cases counts

theorem comesInPairs_hasManyFieldsOf (inverse : String × List String) :
    ComesInPairs (source.hasManyFieldsOf inverse) := by
  unfold hasManyFieldsOf
  split
  · apply ComesInPairs.flatMap
    intro column _
    rw [hasManyFields_eq]
    split
    · exact .nil
    · exact comesInPairs_listAndCount _ _ _
  · exact .nil

theorem comesInPairs_relationFields (table : Table) :
    ComesInPairs (source.relationFields table) := by
  have followed : ComesInPairs (table.belongsTo.filterMap (source.belongsToField? table)) := by
    apply ComesInPairs.of_noHalf
    intro field member
    obtain ⟨reference, _, planned⟩ := List.mem_filterMap.mp member
    obtain ⟨column, object, _, _, rfl⟩ := belongsToField?_eq_some planned
    rintro (⟨object, lists⟩ | counts)
    · cases lists
    · cases counts
  have polymorphic : ComesInPairs
      (source.configuration.morphRelations.filterMap (source.morphToField? table)) := by
    apply ComesInPairs.of_noHalf
    intro field member
    obtain ⟨relation, _, planned⟩ := List.mem_filterMap.mp member
    obtain ⟨_, _, rfl⟩ := morphToField?_eq_some planned
    rintro (⟨object, lists⟩ | counts)
    · cases lists
    · cases counts
  exact (followed.append polymorphic).append
    (ComesInPairs.flatMap fun inverse _ => comesInPairs_hasManyFieldsOf inverse)

theorem keepsPairs_query : KeepsPairs source.plan.query := by
  rw [query_plan]
  exact KeepsPairs.nil.pushFields
    (ComesInPairs.flatMap fun entry _ => comesInPairs_rootFields entry.1 entry.2)

theorem keepsPairs_objectPlan (entry : Table × String) :
    KeepsPairs (source.objectPlan entry).fields :=
  (KeepsPairs.nil.pushFields (comesInPairs_columnFields entry.1)).pushFields
    (comesInPairs_relationFields entry.1)

theorem keepsPairs_objectsAfter (relations : List MorphRelation) :
    ∀ object ∈ source.objectsAfter relations, KeepsPairs object.fields :=
  fields_objectsAfter KeepsPairs keepsPairs_objectPlan
    (fun _ _ _ pairs => pairs.pushFields (comesInPairs_listAndCount _ _ _)) relations

/-! ## Inverse fields under a short name -/

/-- No field is filtered on a type column before relations are added. -/
theorem referencingTypeColumn_objectPlan {entry : Table × String} {field : FieldPlan}
    (member : field ∈ (source.objectPlan entry).fields) :
    field.settings.referencingTypeColumn = none := by
  rcases mem_pushFields member with ofColumns | related
  · rcases mem_pushFields ofColumns with none | ofColumn
    · cases none
    · obtain ⟨column, _, scalar, rfl⟩ := mem_columnFields ofColumn
      rfl
  · rcases List.mem_append.mp related with forward | backward
    · rcases List.mem_append.mp forward with followed | polymorphic
      · obtain ⟨reference, _, planned⟩ := List.mem_filterMap.mp followed
        obtain ⟨column, object, _, _, rfl⟩ := belongsToField?_eq_some planned
        rfl
      · obtain ⟨relation, _, planned⟩ := List.mem_filterMap.mp polymorphic
        obtain ⟨_, _, rfl⟩ := morphToField?_eq_some planned
        rfl
    · obtain ⟨inverse, _, planned⟩ := List.mem_flatMap.mp backward
      obtain ⟨object, other, _, _, column, _, offered⟩ := mem_hasManyFieldsOf planned
      rcases mem_listAndCount.mp (mem_hasManyFields offered).2 with rfl | rfl
      · rfl
      · rfl

/-- The short-named inverse fields of a relation are both there or both missing. -/
def ShortPair (relation : MorphRelation) (fields : List FieldPlan) : Prop :=
  HasList fields relation.table (inverseSettings relation) ↔
    HasCount fields relation.table (inverseSettings relation)

theorem shortPair_objectPlan (relation : MorphRelation) (entry : Table × String) :
    ShortPair relation (source.objectPlan entry).fields := by
  have unfiltered : ∀ field ∈ (source.objectPlan entry).fields,
      field.settings ≠ inverseSettings relation := by
    intro field member same
    have noColumn := referencingTypeColumn_objectPlan member
    rw [same] at noColumn
    cases noColumn
  refine iff_of_false ?_ ?_
  · rintro ⟨field, member, isList⟩
    exact unfiltered field member isList.settled
  · rintro ⟨field, member, isCount⟩
    exact unfiltered field member isCount.settled

theorem longName_ne (table column : String) : longName table column ≠ table := by
  intro same
  have lengths := congrArg String.length same
  rw [longName, String.length_append, String.length_append] at lengths
  have nonempty : longNameSeparator.length = 2 := by decide
  omega

/-- Fields under the short name of a relation are added when both of its names are free. -/
theorem shortPair_pushFields {relation added : MorphRelation} {object : ObjectPlan}
    (pair : ShortPair relation object.fields) (owner : String) :
    ShortPair relation (pushFields object.fields
      (listAndCount (source.inverseName added object) owner (inverseSettings added))) := by
  unfold inverseName
  split
  · have otherName : ¬ (relation.table = longName added.table added.idColumn ∧
        inverseSettings relation = inverseSettings added) := by
      rintro ⟨long, same⟩
      have sameTable : relation.table = added.table :=
        Option.some.inj (congrArg FieldSettings.tableName same)
      exact longName_ne added.table added.idColumn (long.symm.trans sameTable)
    exact ((exists_mem_pushFields_iff (mt hasList_pair.mp otherName)).trans pair).trans
      (exists_mem_pushFields_iff (mt hasCount_pair.mp otherName)).symm
  · rename_i short
    have free : added.table ∉ object.fields.map FieldPlan.name ∧
        added.table ++ FieldPlan.countSuffix ∉ object.fields.map FieldPlan.name := by
      rw [← hasField_iff, ← hasField_iff]
      simp only [Bool.or_eq_true, not_or] at short
      exact short.2
    have both :
        pushFields object.fields (listAndCount added.table owner (inverseSettings added)) =
          object.fields ++ listAndCount added.table owner (inverseSettings added) :=
      pushFields_pair_of_free free.1 free.2
    rw [both]
    unfold ShortPair
    rw [hasList_append, hasCount_append]
    exact or_congr pair (hasList_pair.trans hasCount_pair.symm)

theorem shortPair_objectsAfter (relation : MorphRelation) (relations : List MorphRelation) :
    ∀ object ∈ source.objectsAfter relations, ShortPair relation object.fields :=
  fields_objectsAfter (ShortPair relation) (shortPair_objectPlan relation)
    (fun _ _ owner pair => shortPair_pushFields pair owner) relations

/-! ## Root fields of a table -/

/-- What the root fields of a table have to know. -/
def rootSettings (name : String) : FieldSettings :=
  { FieldSettings.blank with tableName := some name }

/-- The root fields that are offered for some tables. -/
def offeredRoots (entries : List (Table × String)) : List FieldPlan :=
  entries.flatMap fun entry => rootFields entry.1 entry.2

theorem settings_of_mem_rootFields {table : Table} {name : String} {field : FieldPlan}
    (offered : field ∈ rootFields table name) : field.settings = rootSettings table.name := by
  rcases mem_rootFields.mp offered with rfl | rfl
  · rfl
  · rfl

theorem rootSettings_inj {name other : String} :
    rootSettings name = rootSettings other ↔ name = other := by
  constructor
  · intro same
    exact Option.some.inj (congrArg FieldSettings.tableName same)
  · rintro rfl
    rfl

/-- The names of what is offered are those of the tables, and those of their counts. -/
theorem not_mem_names_offeredRoots {entries : List (Table × String)} {name : String} :
    name ∉ (offeredRoots entries).map FieldPlan.name ↔
      ∀ other ∈ entries.map Prod.fst,
        other.name ≠ name ∧ other.name ++ FieldPlan.countSuffix ≠ name := by
  rw [offeredRoots, List.map_flatMap, List.mem_flatMap, not_exists, List.forall_mem_map]
  refine forall_congr' fun entry => ?_
  have names : (rootFields entry.1 entry.2).map FieldPlan.name =
      [entry.1.name, entry.1.name ++ FieldPlan.countSuffix] := rfl
  rw [names, List.mem_pair, not_and, not_or, ne_comm, ne_comm (b := name)]

section Table

variable {before after : List Table} {table : Table}

/-- The root fields of a table are offered behind those of the tables in front of it. -/
theorem exists_query_eq
    (exposed : source.configuration.exposedTables source.database = before ++ table :: after) :
    ∃ front name behind, source.namedTables = front ++ (table, name) :: behind ∧
      front.map Prod.fst = before ∧
      source.plan.query =
        pushFields [] (offeredRoots front ++
          .list table.name name .table (rootSettings table.name) ::
            .count table.name .tableCount (rootSettings table.name) :: offeredRoots behind) := by
  rw [← source.tables_namedTables] at exposed
  obtain ⟨front, rest, split, isFront, isRest⟩ := List.map_eq_append_iff.mp exposed
  obtain ⟨⟨_, name⟩, behind, rfl, rfl, _⟩ := List.map_eq_cons_iff.mp isRest
  refine ⟨front, name, behind, split, isFront, ?_⟩
  rw [query_plan, split, List.flatMap_append, List.flatMap_cons]
  rfl

/-- The root fields with the settings of a table are those that it was offered. -/
theorem mem_rootFields_of_settings (distinct : (source.database.tables.map Table.name).Nodup)
    {front behind : List (Table × String)} {name : String}
    (split : source.namedTables = front ++ (table, name) :: behind) {field : FieldPlan}
    (planned : field ∈ source.plan.query) (settled : field.settings = rootSettings table.name) :
    field ∈ rootFields table name := by
  obtain ⟨found, foundMember, offered⟩ := exists_of_mem_query planned
  have member : (table, name) ∈ source.namedTables :=
    split ▸ List.mem_append_right _ List.mem_cons_self
  have sameName : found.1.name = table.name :=
    rootSettings_inj.mp ((settings_of_mem_rootFields offered).symm.trans settled)
  have same : found = (table, name) :=
    List.inj_on_of_nodup_map (nodup_namedTables distinct) foundMember member sameName
  rw [same] at offered
  exact offered

variable (distinct : (source.database.tables.map Table.name).Nodup)
  (exposed : source.configuration.exposedTables source.database = before ++ table :: after)

include distinct exposed

theorem name_ne_of_mem_before : ∀ other ∈ before, other.name ≠ table.name := by
  have kept := nodup_exposedTables distinct
  rw [exposed, List.map_append, List.map_cons] at kept
  intro other member same
  have among : other.name ∈ before.map Table.name := List.mem_map_of_mem member
  exact List.disjoint_of_nodup_append kept among (same ▸ List.mem_cons_self)

/-- No root field with the settings of a table is offered for a table in front of it. -/
theorem not_mem_offeredRoots {front : List (Table × String)}
    (isFront : front.map Prod.fst = before) {field : FieldPlan}
    (settled : field.settings = rootSettings table.name) : field ∉ offeredRoots front := by
  intro offered
  obtain ⟨entry, member, ofEntry⟩ := List.mem_flatMap.mp offered
  have sameName : entry.1.name = table.name :=
    rootSettings_inj.mp ((settings_of_mem_rootFields ofEntry).symm.trans settled)
  have inFront : entry.1 ∈ before := isFront ▸ List.mem_map_of_mem member
  exact name_ne_of_mem_before distinct exposed entry.1 inFront sameName

/-- A table has its list exactly when no earlier table has a count of its name. -/
theorem hasList_query_iff :
    HasList source.plan.query table.name (rootSettings table.name) ↔
      ∀ other ∈ before, other.name ++ FieldPlan.countSuffix ≠ table.name := by
  obtain ⟨front, name, behind, split, isFront, query⟩ := exists_query_eq exposed
  let list : FieldPlan := .list table.name name .table (rootSettings table.name)
  have onlyThis : HasList source.plan.query table.name (rootSettings table.name) ↔
      list ∈ source.plan.query := by
    constructor
    · rintro ⟨field, planned, isList⟩
      have offered := mem_rootFields_of_settings distinct split planned isList.settled
      rcases mem_rootFields.mp offered with rfl | rfl
      · exact planned
      · exact absurd isList FieldPlan.not_isListOf_count
    · intro planned
      exact ⟨list, planned, FieldPlan.isListOf_list_iff.mpr ⟨rfl, rfl⟩⟩
  have apart : list ∉ offeredRoots front := not_mem_offeredRoots distinct exposed isFront rfl
  have free : list.name ∉ (offeredRoots front).map FieldPlan.name ↔
      ∀ other ∈ before, other.name ++ FieldPlan.countSuffix ≠ table.name := by
    rw [not_mem_names_offeredRoots, isFront]
    refine forall₂_congr fun other member => ?_
    exact and_iff_right (name_ne_of_mem_before distinct exposed other member)
  rw [onlyThis, query, mem_pushFields_iff apart]
  exact free

/-- A table has its count exactly when no earlier table is named like it. -/
theorem hasCount_query_iff :
    HasCount source.plan.query table.name (rootSettings table.name) ↔
      ∀ other ∈ before, other.name ≠ table.name ++ FieldPlan.countSuffix := by
  obtain ⟨front, name, behind, split, isFront, query⟩ := exists_query_eq exposed
  let list : FieldPlan := .list table.name name .table (rootSettings table.name)
  let count : FieldPlan := .count table.name .tableCount (rootSettings table.name)
  have onlyThis : HasCount source.plan.query table.name (rootSettings table.name) ↔
      count ∈ source.plan.query := by
    constructor
    · rintro ⟨field, planned, isCount⟩
      have offered := mem_rootFields_of_settings distinct split planned isCount.settled
      rcases mem_rootFields.mp offered with rfl | rfl
      · exact absurd isCount FieldPlan.not_isCountOf_list
      · exact planned
    · intro planned
      exact ⟨count, planned, FieldPlan.isCountOf_count_iff.mpr ⟨rfl, rfl⟩⟩
  have apart : count ∉ offeredRoots front ++ [list] := by
    rw [List.mem_append, List.mem_singleton, not_or]
    refine ⟨not_mem_offeredRoots distinct exposed isFront rfl, fun same => ?_⟩
    exact FieldPlan.append_countSuffix_ne table.name (congrArg FieldPlan.name same)
  have free : count.name ∉ (offeredRoots front ++ [list]).map FieldPlan.name ↔
      ∀ other ∈ before, other.name ≠ table.name ++ FieldPlan.countSuffix := by
    have notList : count.name ∉ [list].map FieldPlan.name := fun same =>
      FieldPlan.append_countSuffix_ne table.name (List.mem_singleton.mp same)
    rw [List.map_append, List.mem_append, not_or, and_iff_left notList,
      not_mem_names_offeredRoots, isFront]
    refine forall₂_congr fun other member => ?_
    have otherCount : other.name ++ FieldPlan.countSuffix ≠ count.name :=
      mt FieldPlan.append_countSuffix_inj.mp (name_ne_of_mem_before distinct exposed other member)
    exact and_iff_left otherCount
  rw [onlyThis, query, List.append_cons, mem_pushFields_iff apart]
  exact free

end Table

end PlanSource

/-! ## Plans -/

namespace SchemaPlan

/-- Lists and counts of a plan come in pairs, but for names that were given before. -/
structure PairsFields (plan : SchemaPlan) (tables : List Table) : Prop where
  root : KeepsPairs plan.query
  objects : ∀ object ∈ plan.objects, KeepsPairs object.fields
  /-- Both inverse fields of a polymorphic relation carry its short name, or none does. -/
  short : ∀ object ∈ plan.objects, ∀ relation, PlanSource.ShortPair relation object.fields
  /-- A table has both root fields, but for the names of earlier tables and their counts. -/
  tables : ∀ before table after, tables = before ++ table :: after →
    (HasList plan.query table.name (PlanSource.rootSettings table.name) ↔
      ∀ other ∈ before, other.name ++ FieldPlan.countSuffix ≠ table.name) ∧
    (HasCount plan.query table.name (PlanSource.rootSettings table.name) ↔
      ∀ other ∈ before, other.name ≠ table.name ++ FieldPlan.countSuffix)

variable {database : Structure} {configuration : Configuration} {mapper : ColumnTypeMapper}
  {inflector : Inflector} {patterns : PatternEngine} {plan : SchemaPlan}

/-- A half of a pair is missing exactly when its name was given before: among the root
fields, where only tables compete, and in every object type. -/
theorem pairsFields_of_build (distinct : (database.tables.map Table.name).Nodup)
    (built : SchemaPlan.build database configuration mapper inflector patterns = .ok plan) :
    plan.PairsFields (configuration.exposedTables database) := by
  obtain ⟨strip, _, rfl⟩ := eq_plan_of_build built
  let source : PlanSource := ⟨database, configuration, mapper, inflector, strip⟩
  have ofRoot : KeepsPairs source.plan.query := PlanSource.keepsPairs_query
  have ofObjects : ∀ object ∈ source.plan.objects, KeepsPairs object.fields :=
    PlanSource.keepsPairs_objectsAfter configuration.morphRelations
  have ofRelations : ∀ object ∈ source.plan.objects, ∀ relation,
      PlanSource.ShortPair relation object.fields := fun object member relation =>
    PlanSource.shortPair_objectsAfter relation configuration.morphRelations object member
  refine ⟨ofRoot, ofObjects, ofRelations, fun before table after exposed => ?_⟩
  have split : source.configuration.exposedTables source.database = before ++ table :: after :=
    exposed
  exact ⟨PlanSource.hasList_query_iff distinct split, PlanSource.hasCount_query_iff distinct split⟩

/-- Tables that compete for no root field, with a column that is named like the count of the
sales of a shop. -/
private def totalled : Structure :=
  ⟨[⟨"sales", [⟨"id", false, true, "INTEGER", none⟩, .plain "shop_id" "INTEGER"],
      [("shop_id", "shops")], []⟩,
    ⟨"shops", [⟨"id", false, true, "INTEGER", none⟩, .plain "sales_count" "INTEGER"], [],
      [("sales", ["shop_id"])]⟩]⟩

private def shortNames : Configuration := { Configuration.standard with forcedLongNames := false }

private theorem halves_totalled :
    (SchemaPlan.build totalled shortNames nativeTypeMapper fun _ => []).toOption.map (fun plan =>
      plan.objects.map fun object =>
        (object.table,
          decide (HasList object.fields "sales" (PlanSource.hasManySettings "sales" "shop_id")),
          decide (HasCount object.fields "sales" (PlanSource.hasManySettings "sales" "shop_id")))) =
      some [("sales", false, false), ("shops", true, false)] := by
  decide +kernel

/-- The column takes the place of the count in the object type of the shops; no table lacks
a root field. -/
theorem pairsFields_of_build_totalled :
    ∃ plan, SchemaPlan.build totalled shortNames nativeTypeMapper (fun _ => []) = .ok plan ∧
      plan.PairsFields (shortNames.exposedTables totalled) ∧
      HasList plan.query "shops" (PlanSource.rootSettings "shops") ∧
      HasCount plan.query "shops" (PlanSource.rootSettings "shops") ∧
      (plan.objects.map fun object =>
        (object.table,
          decide (HasList object.fields "sales" (PlanSource.hasManySettings "sales" "shop_id")),
          decide (HasCount object.fields "sales" (PlanSource.hasManySettings "sales" "shop_id")))) =
        [("sales", false, false), ("shops", true, false)] := by
  have distinct : (totalled.tables.map Table.name).Nodup := by decide
  have exposed : shortNames.exposedTables totalled = totalled.tables := by decide +kernel
  have halves := halves_totalled
  cases built : SchemaPlan.build totalled shortNames nativeTypeMapper fun _ => [] with
  | error failure =>
      rw [built] at halves
      cases halves
  | ok plan =>
      rw [built] at halves
      have pairs := pairsFields_of_build distinct built
      obtain ⟨list, count⟩ := pairs.tables [totalled.tables[0]] totalled.tables[1] [] exposed
      exact ⟨plan, rfl, pairs, list.mpr (by decide), count.mpr (by decide),
        Option.some.inj halves⟩

private theorem roots_visits :
    (SchemaPlan.build ⟨[keyed "visits", keyed "visits_count"]⟩ .standard nativeTypeMapper
        fun _ => []).toOption.map (fun plan =>
      (decide (HasCount plan.query "visits_count" (PlanSource.rootSettings "visits_count")),
        decide (HasList plan.query "visits_count" (PlanSource.rootSettings "visits_count")))) =
      some (true, false) := by
  decide +kernel

/-- A table that is named like the count of another one has a count of its own, and no
list. -/
theorem not_hasList_visits_count :
    ([keyed "visits", keyed "visits_count"].map Table.name).Nodup ∧
      ∃ plan, SchemaPlan.build ⟨[keyed "visits", keyed "visits_count"]⟩ .standard
          nativeTypeMapper (fun _ => []) = .ok plan ∧
        HasCount plan.query "visits_count" (PlanSource.rootSettings "visits_count") ∧
        ¬ HasList plan.query "visits_count" (PlanSource.rootSettings "visits_count") := by
  have roots := roots_visits
  refine ⟨by decide, ?_⟩
  cases built : SchemaPlan.build ⟨[keyed "visits", keyed "visits_count"]⟩ .standard
      nativeTypeMapper fun _ => [] with
  | error failure =>
      rw [built] at roots
      cases roots
  | ok plan =>
      rw [built] at roots
      obtain ⟨hasCount, noList⟩ := Prod.mk.inj (Option.some.inj roots)
      exact ⟨plan, rfl, of_decide_eq_true hasCount, of_decide_eq_false noList⟩

end SchemaPlan

end TableGraph
