import Mathlib
import TableGraph.Proofs.Json.SortedMap
import TableGraph.Proofs.Plan.ObjectNames
import TableGraph.Schema.Basic

/-!
# Names of the types of a schema

Every schema has types of its own: the root type, the union of the object types and the
types of the arguments, beside the scalars.  The object types of a plan are named without
regard to these names, and of two types of one name only the one registered last is kept.

The main statement, `SchemaPlan.names_unreserved_iff`, says when an object type has such a
name, and that a schema keeps all types of a plan exactly when the object types have
distinct names apart from the ones that are registered with them.
-/

namespace TableGraph

/-- The names that every schema gives to types of its own or to scalars. -/
def TypeName.reserved : List String :=
  TypeName.query :: TypeName.morph :: argumentTypes.map Prod.fst ++ Scalar.all.map Scalar.name

/-! ## Singulars that are given -/

/-- A singular that is a name of the grammar is given to some table, unless it was used
before: to the table it is a singular of or to an earlier one. -/
theorem singular_mem_nameObjects {inflector : Inflector} {used : List String} {tables : List Table}
    {table : Table} {singular : String} (member : table ∈ tables)
    (offered : (inflector table.name).head? = some singular)
    (valid : isGraphName singular = true) :
    singular ∈ used ∨ singular ∈ (nameObjects inflector used tables).map Prod.snd := by
  induction tables generalizing used with
  | nil => cases member
  | cons head tail inductionHypothesis =>
      rw [nameObjects, List.map_cons]
      rcases List.mem_cons.mp member with rfl | later
      · by_cases taken : singular ∈ used
        · exact Or.inl taken
        · have given : objectName inflector used table.name = singular := by
            simp [objectName, offered, valid, taken]
          rw [given]
          exact Or.inr List.mem_cons_self
      · let given := objectName inflector used head.name
        have among :
            singular ∈ given :: used ∨
              singular ∈ (nameObjects inflector (given :: used) tail).map Prod.snd :=
          inductionHypothesis later
        rcases among with before | behind
        · rcases List.mem_cons.mp before with same | taken
          · rw [same]
            exact Or.inr List.mem_cons_self
          · exact Or.inl taken
        · exact Or.inr (List.mem_cons_of_mem given behind)

namespace SchemaPlan

variable {database : Structure} {configuration : Configuration} {mapper : ColumnTypeMapper}
  {inflector : Inflector} {patterns : PatternEngine} {plan : SchemaPlan}

theorem exists_named_of_build
    (built : SchemaPlan.build database configuration mapper inflector patterns = .ok plan)
    {object : ObjectPlan} (planned : object ∈ plan.objects) :
    ∃ entry ∈ nameObjects inflector [] (configuration.exposedTables database),
      entry.1.name = object.table ∧ entry.2 = object.name := by
  have member := List.mem_map_of_mem (f := PlanSource.naming) planned
  rw [naming_of_build built] at member
  obtain ⟨entry, named, same⟩ := List.mem_map.mp member
  exact ⟨entry, named, Prod.mk.inj same⟩

theorem names_of_build
    (built : SchemaPlan.build database configuration mapper inflector patterns = .ok plan) :
    plan.objects.map ObjectPlan.name =
      (nameObjects inflector [] (configuration.exposedTables database)).map Prod.snd := by
  have seconds := congrArg (List.map Prod.snd) (naming_of_build built)
  rw [List.map_map, List.map_map] at seconds
  exact seconds

/-! ## Types that are kept -/

/-- The names of the types that are registered behind the object types. -/
def laterNames (plan : SchemaPlan) : List String :=
  (if plan.hasMorphFields then [TypeName.morph] else []) ++ argumentTypes.map Prod.fst

/-- The names under which a schema registers types of its own beside a plan. -/
def ownNames (plan : SchemaPlan) : List String := TypeName.query :: plan.laterNames

theorem nodup_ownNames (plan : SchemaPlan) : plan.ownNames.Nodup := by
  unfold ownNames laterNames
  cases plan.hasMorphFields <;> decide

theorem names_registrations (plan : SchemaPlan) :
    (plan.registrations.map Prod.fst).Perm (plan.objects.map ObjectPlan.name ++ plan.ownNames) := by
  have registered :
      plan.registrations.map Prod.fst =
        TypeName.query :: (plan.objects.map ObjectPlan.name ++ plan.laterNames) := by
    unfold registrations laterNames
    cases plan.hasMorphFields <;> simp [Function.comp_def]
  rw [registered]
  exact List.perm_middle.symm

/-- Nothing takes the place of a type when all are registered under names of their own. -/
theorem mem_types_of_nodup (distinct : (plan.registrations.map Prod.fst).Nodup)
    {registration : String × TypeDefinition} (registered : registration ∈ plan.registrations) :
    registration ∈ plan.types := by
  rw [types, mem_sortedPairs]
  exact lookup_reverse_of_nodup distinct registered

/-- An object type has a reserved name exactly when some exposed table has one as its first
singular, or has one itself and keeps it.  No two types are registered under one name exactly
when the object types have distinct names that are none of those registered with them, and
then the schema has all of them. -/
theorem names_unreserved_iff
    (built : SchemaPlan.build database configuration mapper inflector patterns = .ok plan) :
    ((∀ object ∈ plan.objects, object.name ∉ TypeName.reserved) ↔
      (∀ table ∈ configuration.exposedTables database,
        ∀ singular ∈ (inflector table.name).head?, singular ∉ TypeName.reserved) ∧
      ∀ object ∈ plan.objects, object.name = object.table → object.table ∉ TypeName.reserved) ∧
    ((plan.registrations.map Prod.fst).Nodup ↔
      (plan.objects.map ObjectPlan.name).Nodup ∧
        ∀ object ∈ plan.objects, object.name ∉ plan.ownNames) ∧
    ((plan.registrations.map Prod.fst).Nodup →
      ∀ registration ∈ plan.registrations, registration ∈ plan.types) := by
  refine ⟨⟨fun unreserved => ⟨?_, ?_⟩, ?_⟩, ?_, fun distinct _ => mem_types_of_nodup distinct⟩
  · intro table exposed singular offered reserved
    have valid : isGraphName singular = true :=
      (by decide : ∀ name ∈ TypeName.reserved, isGraphName name = true) singular reserved
    have given :
        singular ∈ [] ∨
          singular ∈ (nameObjects inflector [] (configuration.exposedTables database)).map Prod.snd :=
      singular_mem_nameObjects exposed offered valid
    rcases given with none | given
    · cases none
    · rw [← names_of_build built] at given
      obtain ⟨object, planned, same⟩ := List.mem_map.mp given
      exact unreserved object planned (same ▸ reserved)
  · intro object planned kept
    rw [← kept]
    exact unreserved object planned
  · rintro ⟨ofSingulars, ofKept⟩ object planned
    obtain ⟨entry, named, sameTable, sameName⟩ := exists_named_of_build built planned
    rcases mem_nameObjects named with kept | ⟨_, offered, _⟩
    · have keeps : object.name = object.table := sameName.symm.trans (kept.trans sameTable)
      rw [keeps]
      exact ofKept object planned keeps
    · rw [← sameName]
      have exposed := List.mem_map_of_mem (f := Prod.fst) named
      rw [tables_nameObjects] at exposed
      exact ofSingulars entry.1 exposed entry.2 offered
  · rw [plan.names_registrations.nodup_iff, List.nodup_append]
    constructor
    · rintro ⟨distinct, _, apart⟩
      refine ⟨distinct, fun object planned own => ?_⟩
      exact apart object.name (List.mem_map_of_mem planned) object.name own rfl
    · rintro ⟨distinct, apart⟩
      refine ⟨distinct, plan.nodup_ownNames, fun name given own owned same => ?_⟩
      obtain ⟨object, planned, rfl⟩ := List.mem_map.mp given
      exact apart object planned (same ▸ owned)

/-! ### A table whose singular is the name of the root type -/

private theorem english_queries : Inflector.english "Queries" = ["Query"] :=
  english_of_rulesBehind 11 (by decide) (by constructor <;> cbv) (by cbv)

/-- No object type has a reserved name when neither the tables nor their singulars have. -/
theorem names_unreserved_iff_status :
    ∃ plan, SchemaPlan.build ⟨[keyed "status"]⟩ .standard nativeTypeMapper Inflector.english =
        .ok plan ∧
      (∀ object ∈ plan.objects, object.name ∉ TypeName.reserved) ∧
      ∀ registration ∈ plan.registrations, registration ∈ plan.types := by
  have exposed : Configuration.standard.exposedTables ⟨[keyed "status"]⟩ = [keyed "status"] := by
    cbv
  obtain ⟨plan, built, named⟩ := exists_build exposed
  simp only [nameObjects, objectName, keyed, english_status] at named
  have onlyStatus : ∀ object ∈ plan.objects, object.table = "status" ∧ object.name = "status" := by
    intro object planned
    have member := List.mem_map_of_mem (f := PlanSource.naming) planned
    rw [named] at member
    exact Prod.mk.inj (List.mem_singleton.mp member)
  obtain ⟨unreserved, distinct, kept⟩ := names_unreserved_iff built
  refine ⟨plan, built, unreserved.mpr ⟨?_, ?_⟩, kept (distinct.mpr ⟨?_, ?_⟩)⟩
  · intro table member singular offered
    rw [exposed, List.mem_singleton] at member
    subst member
    rw [keyed, english_status] at offered
    cases offered
    decide
  · intro object planned _
    rw [(onlyStatus object planned).1]
    decide
  · have names := congrArg (List.map Prod.snd) named
    rw [List.map_map] at names
    change plan.objects.map ObjectPlan.name = _ at names
    rw [names]
    decide
  · intro object planned
    rw [(onlyStatus object planned).2, ownNames, laterNames]
    cases plan.hasMorphFields <;> decide

/-- The object type of the table takes the place of the root type. -/
theorem not_names_unreserved_queries :
    ([keyed "Queries"].map Table.name).Nodup ∧
      ∃ plan, SchemaPlan.build ⟨[keyed "Queries"]⟩ .standard nativeTypeMapper Inflector.english =
          .ok plan ∧
        plan.objects.map ObjectPlan.name = ["Query"] ∧ "Query" ∈ TypeName.reserved ∧
        ¬ (∀ object ∈ plan.objects, object.name ∉ TypeName.reserved) ∧
        ∃ object ∈ plan.objects, object.table = "Queries" ∧
          plan.types.lookup TypeName.query =
            some (.object (object.fields.map FieldPlan.toTypeField)) := by
  have exposed : Configuration.standard.exposedTables ⟨[keyed "Queries"]⟩ = [keyed "Queries"] := by
    cbv
  obtain ⟨plan, built, named⟩ := exists_build exposed
  simp only [nameObjects, objectName, keyed, english_queries] at named
  have names := congrArg (List.map Prod.snd) named
  rw [List.map_map] at names
  change plan.objects.map ObjectPlan.name = _ at names
  obtain ⟨object, only⟩ : ∃ object, plan.objects = [object] := by
    apply List.length_eq_one_iff.mp
    have lengths := congrArg List.length names
    rwa [List.length_map] at lengths
  have planned : object ∈ plan.objects := by
    rw [only]
    exact List.mem_singleton.mpr rfl
  have naming : (object.table, object.name) = ("Queries", "Query") := by
    rw [only] at named
    exact (List.cons.inj named).1
  obtain ⟨sameTable, sameName⟩ := Prod.mk.inj naming
  have reserved : "Query" ∈ TypeName.reserved := List.mem_cons_self
  refine ⟨by decide, plan, built, names, reserved, fun unreserved => ?_, object, planned,
    sameTable, ?_⟩
  · exact unreserved object planned (sameName ▸ reserved)
  · rw [types, lookup_sortedPairs, registrations, only, List.map_singleton, sameName]
    cases plan.hasMorphFields <;> rfl

end SchemaPlan

end TableGraph
