import Mathlib
import TableGraph.Proofs.Plan.FieldOrigin
import TableGraph.Proofs.Schema.TypeNames
import TableGraph.Schema.Generator
import TableGraph.Database.Basic

/-!
# Generated schemas

A plan refers to nothing but scalars, its own object types and the union of these, and
leaves no object type without fields.  So a type system of a plan is refused only for the
names that the plan gives.

The main statement, `Generator.generate_succeeds_iff`, says which names these are: names of
scalars for object types, names that begin with two underscores for fields, and names of
argument types for object types that fields or the union refer to.
-/

namespace TableGraph

/-- The object type that a field leads to. -/
def FieldType.objectName? : FieldType → Option String
  | .object name => some name
  | .list name => some name
  | _ => none

/-- The argument types that are no type of a field. -/
def TypeName.inputs : List String :=
  argumentTypes.filterMap fun entry =>
    match entry.2 with
    | .input _ _ => some entry.1
    | _ => none

/-- The object type of some fields. -/
def TypeDefinition.ofFields (fields : List FieldPlan) : TypeDefinition :=
  .object (fields.map FieldPlan.toTypeField)

namespace SchemaPlan

/-! ## The types of a schema -/

/-- The object types with their fields as they are registered, the root type first. -/
def rowTypes (plan : SchemaPlan) : List (String × List FieldPlan) :=
  (TypeName.query, plan.query) :: plan.objects.map fun object => (object.name, object.fields)

/-- An object type that nothing takes the place of: it is the last one of its name, and no
type behind the object types has this name. -/
structure Keeps (plan : SchemaPlan) (name : String) (fields : List FieldPlan) : Prop where
  last : plan.rowTypes.reverse.lookup name = some fields
  free : name ∉ plan.laterNames

/-- The union of the object types, when there is one. -/
def unionTypes (plan : SchemaPlan) : List (String × TypeDefinition) :=
  if plan.hasMorphFields then [(TypeName.morph, .union (plan.objects.map ObjectPlan.name))] else []

theorem registrations_eq (plan : SchemaPlan) :
    plan.registrations =
      (plan.rowTypes.map fun entry => (entry.1, TypeDefinition.ofFields entry.2)) ++
        (plan.unionTypes ++ argumentTypes) := by
  unfold registrations rowTypes unionTypes TypeDefinition.ofFields
  simp [Function.comp_def]

theorem lookup_types (plan : SchemaPlan) (name : String) :
    plan.types.lookup name =
      (argumentTypes.reverse.lookup name).or ((plan.unionTypes.reverse.lookup name).or
        ((plan.rowTypes.reverse.lookup name).map TypeDefinition.ofFields)) := by
  rw [types, lookup_sortedPairs, registrations_eq, List.reverse_append, List.reverse_append,
    List.lookup_append, List.lookup_append, ← List.map_reverse, lookup_map_values,
    Option.or_assoc]

variable {plan : SchemaPlan}

theorem not_mem_laterNames {name : String} :
    name ∉ plan.laterNames ↔
      argumentTypes.reverse.lookup name = none ∧ plan.unionTypes.reverse.lookup name = none := by
  have union :
      plan.unionTypes.map Prod.fst =
        if plan.hasMorphFields then [TypeName.morph] else [] := by
    unfold unionTypes
    cases plan.hasMorphFields <;> rfl
  rw [lookup_reverse_eq_none_iff, lookup_reverse_eq_none_iff, union, laterNames, List.mem_append,
    not_or, and_comm]

theorem Keeps.lookup_types {name : String} {fields : List FieldPlan}
    (keeps : plan.Keeps name fields) :
    plan.types.lookup name = some (.ofFields fields) := by
  obtain ⟨noArgument, noUnion⟩ := not_mem_laterNames.mp keeps.free
  rw [SchemaPlan.lookup_types, noArgument, noUnion, keeps.last]
  rfl

theorem lookup_argumentTypes (plan : SchemaPlan) {entry : String × TypeDefinition}
    (argument : entry ∈ argumentTypes) : plan.types.lookup entry.1 = some entry.2 := by
  have distinct : (argumentTypes.map Prod.fst).Nodup := by decide
  rw [SchemaPlan.lookup_types, lookup_reverse_of_nodup distinct argument, Option.some_or]

theorem lookup_morph (polymorphic : plan.hasMorphFields = true) :
    plan.types.lookup TypeName.morph = some (.union (plan.objects.map ObjectPlan.name)) := by
  have noArgument : argumentTypes.reverse.lookup TypeName.morph = none :=
    lookup_reverse_eq_none_iff.mpr (by decide)
  rw [SchemaPlan.lookup_types, noArgument, unionTypes, if_pos polymorphic]
  rfl

/-- What a type of a schema is. -/
theorem lookup_types_cases {name : String} {definition : TypeDefinition}
    (found : plan.types.lookup name = some definition) :
    (name, definition) ∈ argumentTypes ∨
      (plan.hasMorphFields = true ∧ name = TypeName.morph ∧
        definition = .union (plan.objects.map ObjectPlan.name)) ∨
      ∃ fields, plan.Keeps name fields ∧ definition = .ofFields fields := by
  rw [lookup_types] at found
  cases argument : argumentTypes.reverse.lookup name with
  | some known =>
      rw [argument] at found
      rw [← Option.some.inj found]
      exact Or.inl (mem_of_lookup_reverse argument)
  | none =>
      rw [argument, Option.none_or] at found
      cases union : plan.unionTypes.reverse.lookup name with
      | some known =>
          rw [union, Option.some_or] at found
          have member := mem_of_lookup_reverse union
          rw [Option.some.inj found, unionTypes] at member
          split at member
          · rename_i polymorphic
            obtain ⟨isMorph, isUnion⟩ := Prod.mk.inj (List.mem_singleton.mp member)
            exact Or.inr (Or.inl ⟨polymorphic, isMorph, isUnion⟩)
          · cases member
      | none =>
          rw [union, Option.none_or] at found
          obtain ⟨fields, last, same⟩ := Option.map_eq_some_iff.mp found
          exact Or.inr (Or.inr ⟨fields, ⟨last, not_mem_laterNames.mpr ⟨argument, union⟩⟩, same.symm⟩)

/-! ## Names that a type system may have -/

/-- Every type that is mentioned by a plan is registered, and every object type has a
field. -/
structure IsClosed (plan : SchemaPlan) : Prop where
  hasFields : ∀ entry ∈ plan.rowTypes, entry.2 ≠ []
  isKnown : ∀ entry ∈ plan.rowTypes, ∀ field ∈ entry.2, ∀ name ∈ field.type.objectName?,
    name ∈ plan.rowTypes.map Prod.fst
  hasUnion : ∀ entry ∈ plan.rowTypes, ∀ field ∈ entry.2, field.type = .morph →
    plan.hasMorphFields = true

/-- The names of a plan do not stand in the way of its schema. -/
structure IsLowerable (plan : SchemaPlan) : Prop where
  /-- No object type has the name of a scalar. -/
  scalars : ∀ object ∈ plan.objects, Scalar.ofName? object.name = none
  /-- No field of an object type that is kept has a name reserved for introspection. -/
  fieldNames : ∀ name fields, plan.Keeps name fields →
    ∀ field ∈ fields, Schema.isReservedName field.name = false
  /-- No field of an object type that is kept leads to an object type that is replaced by the
  type of an argument. -/
  fieldTypes : ∀ name fields, plan.Keeps name fields →
    ∀ field ∈ fields, ∀ object ∈ field.type.objectName?, object ∉ TypeName.inputs
  /-- No member of the union is replaced by another type. -/
  members : plan.hasMorphFields = true → ∀ object ∈ plan.objects, object.name ∉ plan.laterNames

theorem mem_inputs {name : String} :
    name ∈ TypeName.inputs ↔
      ∃ description fields, (name, TypeDefinition.input description fields) ∈ argumentTypes := by
  unfold TypeName.inputs
  rw [List.mem_filterMap]
  constructor
  · rintro ⟨⟨other, definition⟩, argument, isInput⟩
    cases definition with
    | input description fields =>
        rw [← Option.some.inj isInput]
        exact ⟨description, fields, argument⟩
    | object fields => cases isInput
    | union members => cases isInput
    | enumeration values => cases isInput
  · rintro ⟨description, fields, argument⟩
    exact ⟨_, argument, rfl⟩

/-- The last definition under a registered name is found. -/
theorem exists_lookup_types {name : String} (registered : name ∈ plan.rowTypes.map Prod.fst) :
    ∃ definition, plan.types.lookup name = some definition := by
  cases known : plan.types.lookup name with
  | some definition => exact ⟨definition, rfl⟩
  | none =>
      rw [lookup_types, Option.or_eq_none_iff, Option.or_eq_none_iff, Option.map_eq_none_iff]
        at known
      exact absurd registered (lookup_reverse_eq_none_iff.mp known.2.2)

theorem exists_keeps {name : String} (registered : name ∈ plan.rowTypes.map Prod.fst)
    (free : name ∉ plan.laterNames) : ∃ fields, plan.Keeps name fields := by
  cases last : plan.rowTypes.reverse.lookup name with
  | some fields => exact ⟨fields, last, free⟩
  | none => exact absurd registered (lookup_reverse_eq_none_iff.mp last)

theorem name_mem_rowTypes {object : ObjectPlan} (planned : object ∈ plan.objects) :
    object.name ∈ plan.rowTypes.map Prod.fst := by
  rw [rowTypes, List.map_cons, List.map_map]
  exact List.mem_cons_of_mem _ (List.mem_map_of_mem (f := ObjectPlan.name) planned)

theorem Keeps.mem {name : String} {fields : List FieldPlan} (keeps : plan.Keeps name fields) :
    (name, fields) ∈ plan.rowTypes :=
  mem_of_lookup_reverse keeps.last

/-- The name a field leads to as its type. -/
theorem baseName_typeReference (field : FieldPlan) :
    field.typeReference.baseName =
      match field.type with
      | .scalar scalar => scalar.name
      | .object name => name
      | .list name => name
      | .count => Scalar.int.name
      | .morph => TypeName.morph := by
  unfold FieldPlan.typeReference
  cases field.type <;> cases field.nullable <;> rfl

/-! ## Validity -/

theorem ofName?_argument {entry : String × TypeDefinition} (argument : entry ∈ argumentTypes) :
    Scalar.ofName? entry.1 = none :=
  (by decide : ∀ name ∈ argumentTypes.map Prod.fst, Scalar.ofName? name = none) entry.1
    (List.mem_map_of_mem argument)

theorem ofName?_rowTypes (lowerable : plan.IsLowerable) {name : String}
    (registered : name ∈ plan.rowTypes.map Prod.fst) : Scalar.ofName? name = none := by
  rw [rowTypes, List.map_cons, List.map_map] at registered
  rcases List.mem_cons.mp registered with isQuery | ofObject
  · rw [isQuery]
    rfl
  · obtain ⟨object, planned, rfl⟩ := List.mem_map.mp ofObject
    exact lowerable.scalars object planned

/-- A type of a schema is no scalar. -/
theorem ofName?_types (lowerable : plan.IsLowerable) {name : String} {definition : TypeDefinition}
    (found : plan.types.lookup name = some definition) : Scalar.ofName? name = none := by
  rcases lookup_types_cases found with argument | ⟨_, rfl, _⟩ | ⟨fields, keeps, _⟩
  · exact ofName?_argument argument
  · decide
  · exact ofName?_rowTypes lowerable (List.mem_map_of_mem keeps.mem)

theorem isOutputType_scalar (lowerable : plan.IsLowerable) (scalar : Scalar) :
    Schema.isOutputType plan.types scalar.name = true := by
  have isScalar : (Scalar.ofName? scalar.name).isSome = true := by cases scalar <;> decide
  unfold Schema.isOutputType
  cases found : plan.types.lookup scalar.name with
  | none => exact isScalar
  | some definition =>
      rw [ofName?_types lowerable found] at isScalar
      cases isScalar

theorem isOutputType_iff {name : String} (registered : name ∈ plan.rowTypes.map Prod.fst) :
    Schema.isOutputType plan.types name = true ↔ name ∉ TypeName.inputs := by
  obtain ⟨definition, found⟩ := exists_lookup_types registered
  have isInput :
      name ∈ TypeName.inputs ↔ ∃ description fields, definition = .input description fields := by
    rw [mem_inputs]
    constructor
    · rintro ⟨description, fields, argument⟩
      have same := plan.lookup_argumentTypes argument
      rw [found] at same
      exact ⟨description, fields, Option.some.inj same⟩
    · rintro ⟨description, fields, rfl⟩
      rcases lookup_types_cases found with argument | ⟨_, _, isUnion⟩ | ⟨fields, _, isObject⟩
      · exact ⟨_, _, argument⟩
      · cases isUnion
      · cases isObject
  unfold Schema.isOutputType
  rw [isInput, found]
  cases definition <;> simp

theorem not_object_argument {name : String} {fields : List TypeField} :
    (name, TypeDefinition.object fields) ∉ argumentTypes := by
  simp [argumentTypes]

theorem isObjectType_iff {name : String} (registered : name ∈ plan.rowTypes.map Prod.fst) :
    Schema.isObjectType plan.types name = true ↔ name ∉ plan.laterNames := by
  unfold Schema.isObjectType
  constructor
  · intro isObject
    split at isObject
    · rename_i fields found
      rcases lookup_types_cases found with argument | ⟨_, _, isUnion⟩ | ⟨_, keeps, _⟩
      · exact absurd argument not_object_argument
      · cases isUnion
      · exact keeps.free
    · cases isObject
  · intro free
    obtain ⟨fields, keeps⟩ := exists_keeps registered free
    rw [keeps.lookup_types]
    rfl

/-- The types of a closed plan are valid when its names do not stand in the way. -/
theorem IsLowerable.isValid (lowerable : plan.IsLowerable) (closed : plan.IsClosed) :
    ∀ entry ∈ plan.types, Schema.isValidType plan.types entry = true := by
  rintro ⟨name, definition⟩ member
  have found : plan.types.lookup name = some definition := by
    rw [types, lookup_sortedPairs]
    exact mem_sortedPairs.mp member
  unfold Schema.isValidType
  rw [ofName?_types lowerable found, Option.isNone_none, Bool.true_and]
  rcases lookup_types_cases found with argument | ⟨polymorphic, _, rfl⟩ | ⟨fields, keeps, rfl⟩
  · cases definition with
    | object fields => exact absurd argument not_object_argument
    | union members => simp [argumentTypes] at argument
    | enumeration values => rfl
    | input description fields => rfl
  · refine List.all_eq_true.mpr fun typeName isMember => ?_
    obtain ⟨object, planned, rfl⟩ := List.mem_map.mp isMember
    exact (isObjectType_iff (name_mem_rowTypes planned)).mpr
      (lowerable.members polymorphic object planned)
  · have nonempty : fields ≠ [] := closed.hasFields (name, fields) keeps.mem
    refine Bool.and_eq_true_iff.mpr ⟨by simpa using nonempty, List.all_eq_true.mpr ?_⟩
    intro typeField isField
    obtain ⟨field, fieldMember, rfl⟩ := List.mem_map.mp isField
    refine Bool.and_eq_true_iff.mpr ⟨?_, ?_⟩
    · rw [FieldPlan.toTypeField, lowerable.fieldNames name fields keeps field fieldMember]
      rfl
    · change Schema.isOutputType plan.types field.typeReference.baseName = true
      have known := closed.isKnown (name, fields) keeps.mem field fieldMember
      have output := lowerable.fieldTypes name fields keeps field fieldMember
      rw [baseName_typeReference]
      cases type : field.type with
      | scalar scalar => exact isOutputType_scalar lowerable scalar
      | count => exact isOutputType_scalar lowerable .int
      | object object =>
          rw [type] at known output
          exact (isOutputType_iff (known object rfl)).mpr (output object rfl)
      | list object =>
          rw [type] at known output
          exact (isOutputType_iff (known object rfl)).mpr (output object rfl)
      | morph =>
          have polymorphic := closed.hasUnion (name, fields) keeps.mem field fieldMember type
          unfold Schema.isOutputType
          simp only [lookup_morph polymorphic]

/-- The names that never stand in the way: object types that share none with the schema, and
fields that do not begin like introspection. -/
theorem isLowerable_of_names
    (unreserved : ∀ object ∈ plan.objects, object.name ∉ TypeName.reserved)
    (fieldNames : ∀ entry ∈ plan.rowTypes, ∀ field ∈ entry.2,
      Schema.isReservedName field.name = false) (closed : plan.IsClosed) : plan.IsLowerable where
  scalars := by
    intro object planned
    refine Option.eq_none_iff_forall_not_mem.mpr fun scalar found => ?_
    have isScalar := List.find?_some (p := fun scalar : Scalar => scalar.name == object.name) found
    have among : object.name ∈ Scalar.all.map Scalar.name :=
      List.mem_map.mpr ⟨scalar, List.mem_of_find?_eq_some found, eq_of_beq isScalar⟩
    exact unreserved object planned (List.mem_append_right _ among)
  fieldNames := fun name fields keeps field member =>
    fieldNames (name, fields) keeps.mem field member
  fieldTypes := by
    intro name fields keeps field member object leads isInput
    have known := closed.isKnown (name, fields) keeps.mem field member object leads
    rw [rowTypes, List.map_cons, List.map_map] at known
    rcases List.mem_cons.mp known with isQuery | ofObject
    · rw [isQuery] at isInput
      exact absurd isInput (by decide : TypeName.query ∉ TypeName.inputs)
    · obtain ⟨other, planned, rfl⟩ := List.mem_map.mp ofObject
      obtain ⟨_, _, argument⟩ := mem_inputs.mp isInput
      have among := List.mem_map_of_mem (f := Prod.fst) argument
      refine unreserved other planned (List.mem_append_left _ ?_)
      exact List.mem_cons_of_mem _ (List.mem_cons_of_mem _ among)
  members := by
    intro polymorphic object planned later
    refine unreserved object planned (List.mem_append_left _ (List.mem_cons_of_mem _ ?_))
    rw [laterNames, if_pos polymorphic] at later
    exact later

/-- What is valid about the types of a closed plan. -/
theorem isLowerable_of_isValid (closed : plan.IsClosed)
    (valid : ∀ entry ∈ plan.types, Schema.isValidType plan.types entry = true) :
    plan.IsLowerable := by
  have validAt {name : String} {definition : TypeDefinition}
      (found : plan.types.lookup name = some definition) :
      Schema.isValidType plan.types (name, definition) = true := by
    refine valid (name, definition) (mem_sortedPairs.mpr ?_)
    rw [← lookup_sortedPairs]
    exact found
  have validFields {name : String} {fields : List FieldPlan} (keeps : plan.Keeps name fields)
      {field : FieldPlan} (member : field ∈ fields) :
      Schema.isReservedName field.name = false ∧
        Schema.isOutputType plan.types field.typeReference.baseName = true := by
    have validType := validAt keeps.lookup_types
    obtain ⟨_, allFields⟩ := Bool.and_eq_true_iff.mp (Bool.and_eq_true_iff.mp validType).2
    have validField := List.all_eq_true.mp allFields field.toTypeField (List.mem_map_of_mem member)
    obtain ⟨unreserved, output⟩ := Bool.and_eq_true_iff.mp validField
    exact ⟨by simpa [FieldPlan.toTypeField] using unreserved, output⟩
  constructor
  · intro object planned
    obtain ⟨definition, found⟩ := exists_lookup_types (name_mem_rowTypes planned)
    simpa using (Bool.and_eq_true_iff.mp (validAt found)).1
  · intro name fields keeps field member
    exact (validFields keeps member).1
  · intro name fields keeps field member object leads
    have known := closed.isKnown (name, fields) keeps.mem field member object leads
    have output := (validFields keeps member).2
    rw [baseName_typeReference] at output
    cases type : field.type with
    | scalar scalar =>
        rw [type] at leads
        cases leads
    | count =>
        rw [type] at leads
        cases leads
    | morph =>
        rw [type] at leads
        cases leads
    | object typeName =>
        rw [type] at leads output
        cases leads
        exact (isOutputType_iff known).mp output
    | list typeName =>
        rw [type] at leads output
        cases leads
        exact (isOutputType_iff known).mp output
  · intro polymorphic object planned
    have validUnion := validAt (lookup_morph polymorphic)
    have validMembers := (Bool.and_eq_true_iff.mp validUnion).2
    have isObject :=
      List.all_eq_true.mp validMembers object.name (List.mem_map_of_mem planned)
    exact (isObjectType_iff (name_mem_rowTypes planned)).mp isObject

end SchemaPlan

/-! ## Plans are closed -/

namespace PlanSource

variable {source : PlanSource}

theorem pushFields_ne_nil (fields : List FieldPlan) {added : List FieldPlan} (offers : added ≠ []) :
    pushFields fields added ≠ [] := by
  obtain ⟨field, offered⟩ := List.exists_mem_of_ne_nil added offers
  intro none
  have given : field.name ∈ (pushFields fields added).map FieldPlan.name :=
    name_mem_pushFields offered
  rw [none] at given
  cases given

theorem columnFields_ne_nil {entry : Table × String} (member : entry ∈ source.namedTables) :
    source.columnFields entry.1 ≠ [] := by
  have exposed := (List.mem_filter.mp (mem_exposedTables member)).2
  have hasColumns := (Bool.and_eq_true_iff.mp exposed).2
  unfold columnFields
  simpa using hasColumns

theorem fields_ne_nil (relations : List MorphRelation) :
    ∀ object ∈ source.objectsAfter relations, object.fields ≠ [] := by
  induction relations using List.reverseRecOn with
  | nil =>
      intro object member
      obtain ⟨entry, entryMember, rfl⟩ := List.mem_map.mp member
      have columns := pushFields_ne_nil [] (columnFields_ne_nil entryMember)
      have kept : pushFields [] (source.columnFields entry.1) ⊆ (source.objectPlan entry).fields :=
        subset_pushFields _ _
      intro none
      exact columns (List.subset_nil.mp (none ▸ kept))
  | append_singleton earlier relation inductionHypothesis =>
      intro object member
      rw [objectsAfter_snoc] at member
      rcases source.addMorphRelation_cases (source.objectsAfter earlier) relation with
        unchanged | ⟨owner, ownerObject, _, _, changed⟩
      · rw [unchanged] at member
        exact inductionHypothesis object member
      · rw [changed] at member
        obtain ⟨before, present, rfl⟩ := List.mem_map.mp member
        rw [addMorphFields_eq]
        split
        · exact pushFields_ne_nil _ (List.cons_ne_nil _ _)
        · exact inductionHypothesis before present

theorem query_ne_nil (exposed : source.configuration.exposedTables source.database ≠ []) :
    source.plan.query ≠ [] := by
  obtain ⟨table, member⟩ := List.exists_mem_of_ne_nil _ exposed
  obtain ⟨name, named⟩ := exists_named member
  rw [query_plan]
  refine pushFields_ne_nil [] fun none => ?_
  have offered : FieldPlan.list table.name name .table
      { FieldSettings.blank with tableName := some table.name } ∈
        source.namedTables.flatMap fun entry => rootFields entry.1 entry.2 :=
    List.mem_flatMap.mpr ⟨(table, name), named, List.mem_cons_self⟩
  rw [none] at offered
  cases offered

theorem mem_rowTypes_of_naming {table name : String}
    (named : (table, name) ∈ source.namedTables.map fun entry => (entry.1.name, entry.2)) :
    name ∈ source.plan.rowTypes.map Prod.fst := by
  rw [← naming_plan] at named
  obtain ⟨object, planned, same⟩ := List.mem_map.mp named
  rw [← (Prod.mk.inj same).2]
  exact SchemaPlan.name_mem_rowTypes planned

theorem mem_rowTypes_of_objectOf? {table name : String}
    (found : source.objectOf? table = some name) : name ∈ source.plan.rowTypes.map Prod.fst := by
  obtain ⟨entry, member, rfl, rfl⟩ := exists_of_objectOf? found
  exact mem_rowTypes_of_naming
    (List.mem_map_of_mem (f := fun entry : Table × String => (entry.1.name, entry.2)) member)

theorem objectName?_listAndCount {name object typeName : String} {settings : FieldSettings}
    {field : FieldPlan} (member : field ∈ listAndCount name object settings)
    (leads : field.type.objectName? = some typeName) : typeName = object := by
  rcases mem_listAndCount.mp member with rfl | rfl
  · exact (Option.some.inj leads).symm
  · cases leads

/-- A field of an object type leads to object types of the plan. -/
theorem mem_rowTypes_of_origin {table : Table} {field : FieldPlan}
    (origin : FieldOrigin source table field) {typeName : String}
    (leads : field.type.objectName? = some typeName) :
    typeName ∈ source.plan.rowTypes.map Prod.fst := by
  cases origin with
  | column planned =>
      obtain ⟨column, _, scalar, rfl⟩ := mem_columnFields planned
      cases leads
  | belongsTo declared planned =>
      obtain ⟨column, object, _, found, rfl⟩ := belongsToField?_eq_some planned
      rw [← Option.some.inj leads]
      exact mem_rowTypes_of_objectOf? found
  | morphTo declared planned =>
      obtain ⟨_, _, rfl⟩ := morphToField?_eq_some planned
      cases leads
  | hasMany declared planned =>
      obtain ⟨object, other, found, _, column, _, offered⟩ := mem_hasManyFieldsOf planned
      rw [objectName?_listAndCount (mem_hasManyFields offered).2 leads]
      exact mem_rowTypes_of_objectOf? found
  | inverse declared owned named present target planned =>
      rw [objectName?_listAndCount planned leads]
      exact mem_rowTypes_of_naming named

theorem isClosed_plan (exposed : source.configuration.exposedTables source.database ≠ []) :
    source.plan.IsClosed where
  hasFields := by
    intro entry member
    rcases List.mem_cons.mp member with rfl | ofObject
    · exact query_ne_nil exposed
    · obtain ⟨object, planned, rfl⟩ := List.mem_map.mp ofObject
      exact fields_ne_nil source.configuration.morphRelations object planned
  isKnown := by
    intro entry member field fieldMember name leads
    rcases List.mem_cons.mp member with rfl | ofObject
    · obtain ⟨named, namedMember, isRoot⟩ := exists_of_mem_query fieldMember
      rcases mem_rootFields.mp isRoot with rfl | rfl
      · rw [← Option.some.inj leads]
        exact mem_rowTypes_of_naming (List.mem_map_of_mem
          (f := fun entry : Table × String => (entry.1.name, entry.2)) namedMember)
      · cases leads
    · obtain ⟨object, planned, rfl⟩ := List.mem_map.mp ofObject
      obtain ⟨_, _, isPlan⟩ := isPlanOf_objects object planned
      exact mem_rowTypes_of_origin (isPlan.origin field fieldMember) leads
  hasUnion := by
    intro entry member field fieldMember isMorph
    rcases List.mem_cons.mp member with rfl | ofObject
    · obtain ⟨named, _, isRoot⟩ := exists_of_mem_query fieldMember
      rcases mem_rootFields.mp isRoot with rfl | rfl <;> cases isMorph
    · obtain ⟨object, planned, rfl⟩ := List.mem_map.mp ofObject
      refine List.any_eq_true.mpr ⟨object, planned, List.any_eq_true.mpr ⟨field, fieldMember, ?_⟩⟩
      simpa using isMorph

end PlanSource

/-! ## Generation -/

theorem Schema.ofPlan_of_isLowerable {plan : SchemaPlan} (closed : plan.IsClosed)
    (hasObjects : plan.objects ≠ []) (lowerable : plan.IsLowerable) (firstParty : Bool) :
    Schema.ofPlan plan firstParty = .ok ⟨plan, .new firstParty, plan.types⟩ := by
  have valid := List.all_eq_true.mpr (lowerable.isValid closed)
  rw [Schema.ofPlan, if_neg (by simpa using hasObjects)]
  exact if_pos valid

theorem Schema.ofPlan_of_not_isLowerable {plan : SchemaPlan} (closed : plan.IsClosed)
    (hasObjects : plan.objects ≠ []) (refused : ¬ plan.IsLowerable) (firstParty : Bool) :
    Schema.ofPlan plan firstParty = .error .invalidTypes := by
  rw [Schema.ofPlan, if_neg (by simpa using hasObjects)]
  refine if_neg fun valid => refused ?_
  exact SchemaPlan.isLowerable_of_isValid closed (List.all_eq_true.mp valid)

namespace Generator

/-- What a plan of the generator is made of. -/
def source (generator : Generator) (database : Structure) (strip : CompiledPattern) : PlanSource :=
  ⟨database, generator.configuration, generator.mapper, generator.inflector, strip⟩

variable (generator : Generator) (database : Structure) {strip : CompiledPattern}

theorem plan_of_read (read : generator.configuration.readStripPattern generator.patterns = .ok strip) :
    generator.plan database = .ok (generator.source database strip).plan :=
  SchemaPlan.build_of_read read database generator.mapper generator.inflector

theorem schemaOf_of_read (read : generator.configuration.readStripPattern generator.patterns = .ok strip) :
    generator.schemaOf database =
      Schema.ofPlan (generator.source database strip).plan generator.firstParty := by
  rw [schemaOf, generator.plan_of_read database read]
  rfl

theorem generate_of_reads {State Selection : Type} (datastore : Datastore State Selection)
    (state : State) (reads : (datastore.readStructure state).1 = .ok database) :
    (generator.generate datastore state).1 = generator.schemaOf database := by
  unfold generate
  cases answer : datastore.readStructure state with
  | mk result next =>
      rw [answer] at reads
      change result = .ok database at reads
      subst reads
      simp only [bind, StateT.bind, answer]
      rfl

/-- Every structure with an exposed table has a schema, unless the names of its plan stand in
the way. -/
theorem generate_succeeds_iff (read : generator.configuration.readStripPattern generator.patterns = .ok strip)
    (exposed : generator.configuration.exposedTables database ≠ []) {State Selection : Type}
    (datastore : Datastore State Selection) (state : State)
    (reads : (datastore.readStructure state).1 = .ok database) :
    ∃ plan, generator.plan database = .ok plan ∧
      ((∃ schema, (generator.generate datastore state).1 = .ok schema) ↔ plan.IsLowerable) := by
  let source := generator.source database strip
  have closed : source.plan.IsClosed := PlanSource.isClosed_plan exposed
  have hasObjects : source.plan.objects ≠ [] := by
    have tables := congrArg List.length (source.naming_plan)
    rw [List.length_map, List.length_map, ← List.length_map (f := Prod.fst),
      source.tables_namedTables] at tables
    exact List.ne_nil_of_length_pos (tables ▸ List.length_pos_iff.mpr exposed)
  have generated :
      (generator.generate datastore state).1 = Schema.ofPlan source.plan generator.firstParty :=
    (generator.generate_of_reads database datastore state reads).trans
      (generator.schemaOf_of_read database read)
  refine ⟨source.plan, generator.plan_of_read database read, ?_, fun lowerable => ?_⟩
  · rintro ⟨schema, succeeds⟩
    by_contra refused
    rw [generated, Schema.ofPlan_of_not_isLowerable closed hasObjects refused] at succeeds
    cases succeeds
  · rw [generated]
    exact ⟨_, Schema.ofPlan_of_isLowerable closed hasObjects lowerable generator.firstParty⟩

/-! ### A column with a name for introspection -/

private def newsTable (columns : List Column) : Table := ⟨"news", columns, [], []⟩

private def idColumn : Column := ⟨"id", false, true, "", none⟩

private def noteColumn : Column := ⟨"__note", true, false, "", none⟩

private def newsState : Database :=
  { Database.empty with
    tables := [⟨⟨"news", [⟨"id", "", false, .null⟩], ["id"], [], [], true⟩, []⟩] }

private def newsSource (columns : List Column) (strip : CompiledPattern) : PlanSource :=
  (standard .standard false).source ⟨[newsTable columns]⟩ strip

private def newsFields (columns : List Column) : List FieldPlan :=
  pushFields [] ((Configuration.standard.exposedColumns (newsTable columns)).map fun column =>
    .ofColumn column (if column.primary then .id else nativeTypeMapper column))

section

variable {columns : List Column}
  (exposed : Configuration.standard.exposedTables ⟨[newsTable columns]⟩ = [newsTable columns])
  (strip : CompiledPattern)

include exposed

private theorem namedTables_news :
    (newsSource columns strip).namedTables = [(newsTable columns, "news")] := by
  have english : Inflector.english "news" = ["news"] := by cbv
  change nameObjects Inflector.english []
    (Configuration.standard.exposedTables ⟨[newsTable columns]⟩) = _
  rw [exposed]
  simp only [nameObjects, objectName, newsTable, english]
  rfl

private theorem rowTypes_news :
    (newsSource columns strip).plan.rowTypes =
      [(TypeName.query, pushFields [] (PlanSource.rootFields (newsTable columns) "news")),
        ("news", newsFields columns)] := by
  have objects : (newsSource columns strip).plan.objects =
      (newsSource columns strip).namedTables.map (newsSource columns strip).objectPlan := rfl
  rw [SchemaPlan.rowTypes, objects, PlanSource.query_plan, namedTables_news exposed]
  rfl

end

/-- A table without such a column has a schema. -/
theorem generate_succeeds_iff_news :
    ∃ schema, ((standard .standard false).generate Database.datastore newsState).1 =
      .ok schema := by
  have exposed : Configuration.standard.exposedTables ⟨[newsTable [idColumn]]⟩ =
      [newsTable [idColumn]] := by cbv
  have reads : (Database.datastore.readStructure newsState).1 = .ok ⟨[newsTable [idColumn]]⟩ := by
    cbv
  have visible : Configuration.standard.exposedTables ⟨[newsTable [idColumn]]⟩ ≠ [] := by
    rw [exposed]
    exact List.cons_ne_nil _ _
  obtain ⟨strip, read⟩ : ∃ strip, Configuration.standard.readStripPattern = .ok strip :=
    ⟨_, by cbv⟩
  obtain ⟨plan, planned, generated⟩ :=
    generate_succeeds_iff (standard .standard false) _ read visible
      Database.datastore newsState reads
  have isSource : plan = (newsSource [idColumn] strip).plan :=
    Except.ok.inj (planned.symm.trans (plan_of_read _ _ read))
  have rowTypes := rowTypes_news exposed strip
  have names : plan.objects.map ObjectPlan.name = ["news"] := by
    rw [isSource]
    have firsts := congrArg (List.map Prod.fst) rowTypes
    rw [SchemaPlan.rowTypes, List.map_cons, List.map_map] at firsts
    exact (List.cons.inj firsts).2
  refine generated.mpr (SchemaPlan.isLowerable_of_names ?_ ?_ ?_)
  · intro object planned
    have among := List.mem_map_of_mem (f := ObjectPlan.name) planned
    rw [names, List.mem_singleton] at among
    rw [among]
    decide
  · rw [isSource, rowTypes]
    decide +kernel
  · rw [isSource]
    exact PlanSource.isClosed_plan visible

/-- A column whose name begins with two underscores leaves the whole structure without a
schema. -/
theorem not_generates_note :
    ([newsTable [idColumn, noteColumn]].map Table.name).Nodup ∧
      (∃ strip, Configuration.standard.readStripPattern = .ok strip) ∧
      Configuration.standard.exposedTables ⟨[newsTable [idColumn, noteColumn]]⟩ ≠ [] ∧
      (standard .standard false).schemaOf ⟨[newsTable [idColumn, noteColumn]]⟩ =
        .error .invalidTypes := by
  have exposed : Configuration.standard.exposedTables ⟨[newsTable [idColumn, noteColumn]]⟩ =
      [newsTable [idColumn, noteColumn]] := by cbv
  have visible : Configuration.standard.exposedTables ⟨[newsTable [idColumn, noteColumn]]⟩ ≠ [] := by
    rw [exposed]
    exact List.cons_ne_nil _ _
  obtain ⟨strip, read⟩ : ∃ strip, Configuration.standard.readStripPattern = .ok strip :=
    ⟨_, by cbv⟩
  have rowTypes := rowTypes_news exposed strip
  have keeps : (newsSource [idColumn, noteColumn] strip).plan.Keeps "news"
      (newsFields [idColumn, noteColumn]) := by
    refine ⟨?_, ?_⟩
    · rw [rowTypes]
      rfl
    · unfold SchemaPlan.laterNames
      split <;> decide
  have isNote : ∃ field ∈ newsFields [idColumn, noteColumn],
      Schema.isReservedName field.name = true := by
    decide +kernel
  have refused : ¬ (newsSource [idColumn, noteColumn] strip).plan.IsLowerable := by
    intro lowerable
    obtain ⟨field, member, reserved⟩ := isNote
    rw [lowerable.fieldNames "news" _ keeps field member] at reserved
    cases reserved
  have hasObjects : (newsSource [idColumn, noteColumn] strip).plan.objects ≠ [] := by
    intro none
    have lengths := congrArg List.length rowTypes
    rw [SchemaPlan.rowTypes, none] at lengths
    simp at lengths
  have closed : (newsSource [idColumn, noteColumn] strip).plan.IsClosed :=
    PlanSource.isClosed_plan visible
  refine ⟨by decide, ⟨strip, read⟩, visible, ?_⟩
  rw [schemaOf_of_read (standard .standard false) _ read]
  exact Schema.ofPlan_of_not_isLowerable closed hasObjects refused false

end Generator

end TableGraph
