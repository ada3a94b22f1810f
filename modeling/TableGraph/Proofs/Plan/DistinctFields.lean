import Mathlib
import TableGraph.Proofs.Plan.FieldOrigin
import TableGraph.Schema.Basic

/-!
# Fields of distinct names

Columns, references and inverse polymorphic relations give their fields names that know
nothing of each other.  The fields of an object type are distinct because each pass adds
them one by one, and a field whose name is taken is left out.

The main statement, `SchemaPlan.nodup_field_names`, holds of every structure, also of one
that repeats tables and columns or lists inverse references that nothing declares.
-/

namespace TableGraph

/-! ## Adding fields -/

theorem hasField_iff {fields : List FieldPlan} {name : String} :
    hasField fields name = true ↔ name ∈ fields.map FieldPlan.name := by
  simp [hasField, List.any_eq_true]

theorem pushField_of_mem {fields : List FieldPlan} {added : FieldPlan}
    (taken : added.name ∈ fields.map FieldPlan.name) : pushField fields added = fields := by
  rw [pushField, hasField_iff.mpr taken, if_pos rfl]

theorem pushField_of_not_mem {fields : List FieldPlan} {added : FieldPlan}
    (free : added.name ∉ fields.map FieldPlan.name) : pushField fields added = fields ++ [added] := by
  rw [pushField, if_neg]
  rwa [hasField_iff]

theorem nodup_pushField {fields : List FieldPlan} (distinct : (fields.map FieldPlan.name).Nodup)
    (added : FieldPlan) : ((pushField fields added).map FieldPlan.name).Nodup := by
  by_cases taken : added.name ∈ fields.map FieldPlan.name
  · rw [pushField_of_mem taken]
    exact distinct
  · rw [pushField_of_not_mem taken, List.map_append]
    apply distinct.append (List.nodup_singleton added.name)
    exact List.disjoint_singleton.mpr taken

theorem nodup_pushFields {fields : List FieldPlan} (distinct : (fields.map FieldPlan.name).Nodup)
    (added : List FieldPlan) : ((pushFields fields added).map FieldPlan.name).Nodup := by
  induction added generalizing fields with
  | nil => exact distinct
  | cons head tail inductionHypothesis => exact inductionHypothesis (nodup_pushField distinct head)

/-! ## The passes -/

namespace PlanSource

variable (source : PlanSource)

theorem nodup_objectPlan (entry : Table × String) :
    ((source.objectPlan entry).fields.map FieldPlan.name).Nodup := by
  apply nodup_pushFields
  apply nodup_pushFields
  exact List.nodup_nil

variable {source}

theorem nodup_objectsAfter (relations : List MorphRelation) :
    ∀ object ∈ source.objectsAfter relations, (object.fields.map FieldPlan.name).Nodup :=
  fields_objectsAfter (fun fields => (fields.map FieldPlan.name).Nodup) source.nodup_objectPlan
    (fun _ _ _ distinct => nodup_pushFields distinct _) relations

theorem nodup_query : (source.plan.query.map FieldPlan.name).Nodup := by
  rw [query_plan]
  apply nodup_pushFields
  exact List.nodup_nil

end PlanSource

/-! ## Plans -/

namespace SchemaPlan

variable {database : Structure} {configuration : Configuration} {mapper : ColumnTypeMapper}
  {inflector : Inflector} {patterns : PatternEngine} {plan : SchemaPlan}

theorem names_toTypeField (fields : List FieldPlan) :
    (fields.map FieldPlan.toTypeField).map (fun field => field.plan.name) =
      fields.map FieldPlan.name := by
  rw [List.map_map]
  rfl

/-- The types that are registered with fields are the root type and the object types. -/
theorem fields_of_registered {name : String} {fields : List TypeField}
    (registered : (name, TypeDefinition.object fields) ∈ plan.registrations) :
    fields = plan.query.map FieldPlan.toTypeField ∨
      ∃ object ∈ plan.objects, fields = object.fields.map FieldPlan.toTypeField := by
  have noArgument : (name, TypeDefinition.object fields) ∉ argumentTypes := by
    simp [argumentTypes]
  rw [registrations, List.mem_append, List.mem_append, List.mem_append] at registered
  rcases registered with ((root | ofObject) | ofUnion) | argument
  · have same := (Prod.mk.inj (List.mem_singleton.mp root)).2
    exact Or.inl (TypeDefinition.object.inj same)
  · obtain ⟨object, planned, same⟩ := List.mem_map.mp ofObject
    exact Or.inr ⟨object, planned, (TypeDefinition.object.inj (Prod.mk.inj same).2).symm⟩
  · split at ofUnion
    · have same := (Prod.mk.inj (List.mem_singleton.mp ofUnion)).2
      cases same
    · cases ofUnion
  · exact absurd argument noArgument

/-- Root fields have distinct names, and so have the fields of every object type.  No type
of a schema is registered with two fields of one name. -/
theorem nodup_field_names
    (built : SchemaPlan.build database configuration mapper inflector patterns = .ok plan) :
    (plan.query.map FieldPlan.name).Nodup ∧
      (∀ object ∈ plan.objects, (object.fields.map FieldPlan.name).Nodup) ∧
      ∀ name fields, (name, TypeDefinition.object fields) ∈ plan.registrations →
        (fields.map fun field => field.plan.name).Nodup := by
  obtain ⟨strip, _, rfl⟩ := eq_plan_of_build built
  let source : PlanSource := ⟨database, configuration, mapper, inflector, strip⟩
  have ofRoot : (source.plan.query.map FieldPlan.name).Nodup := PlanSource.nodup_query
  have ofObjects : ∀ object ∈ source.plan.objects, (object.fields.map FieldPlan.name).Nodup :=
    PlanSource.nodup_objectsAfter configuration.morphRelations
  refine ⟨ofRoot, ofObjects, fun name fields registered => ?_⟩
  rcases fields_of_registered registered with rfl | ⟨object, planned, rfl⟩
  · rw [names_toTypeField]
    exact ofRoot
  · rw [names_toTypeField]
    exact ofObjects object planned

/-- A table that is listed twice, with a column that is, next to a table and a column that
are named like counts; two of its columns lose their ends to one name. -/
private def repetitive : Structure :=
  ⟨[⟨"sales", [⟨"id", false, true, "INTEGER", none⟩, .plain "id" "TEXT", .plain "shop_id" "TEXT",
        .plain "shop_key" "TEXT"], [("shop_id", "shops"), ("shop_key", "shops")], []⟩,
    ⟨"sales_count", [⟨"id", false, true, "INTEGER", none⟩], [], []⟩,
    ⟨"sales", [⟨"id", false, true, "INTEGER", none⟩], [], []⟩,
    ⟨"shops", [⟨"id", false, true, "INTEGER", none⟩, .plain "sales__id_count" "INTEGER"], [],
      [("sales", ["id", "id"])]⟩]⟩

private def fieldNames (plan : SchemaPlan) : List (List String) :=
  plan.query.map FieldPlan.name :: plan.objects.map fun object => object.fields.map FieldPlan.name

private theorem fieldNames_repetitive :
    (SchemaPlan.build repetitive .standard nativeTypeMapper fun _ => []).toOption.map fieldNames =
      some [["sales", "sales_count", "sales_count_count", "shops", "shops_count"],
        ["id", "shop_id", "shop_key", "shop"], ["id"], ["id"],
        ["id", "sales__id_count", "sales__id"]] := by
  decide +kernel

/-- What comes second is left out: a table, columns, references and a count. -/
theorem nodup_field_names_repetitive :
    ∃ plan, SchemaPlan.build repetitive .standard nativeTypeMapper (fun _ => []) = .ok plan ∧
      fieldNames plan =
        [["sales", "sales_count", "sales_count_count", "shops", "shops_count"],
          ["id", "shop_id", "shop_key", "shop"], ["id"], ["id"],
          ["id", "sales__id_count", "sales__id"]] ∧
      (plan.query.map FieldPlan.name).Nodup ∧
      ∀ object ∈ plan.objects, (object.fields.map FieldPlan.name).Nodup := by
  have shown := fieldNames_repetitive
  cases built : SchemaPlan.build repetitive .standard nativeTypeMapper fun _ => [] with
  | error failure =>
      rw [built] at shown
      cases shown
  | ok plan =>
      rw [built] at shown
      obtain ⟨ofRoot, ofObjects, _⟩ := nodup_field_names built
      exact ⟨plan, rfl, Option.some.inj shown, ofRoot, ofObjects⟩

end SchemaPlan

end TableGraph
