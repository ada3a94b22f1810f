import TableGraph.Proofs.Resolving.HiddenColumns

/-!
# Requests over databases that differ in hidden columns

A request is executed from its root type downwards, each row as a value of the object type of
its table.  When none of the fields that it asks for names a hidden column, it has the same
response and the same log on two databases that differ in hidden columns only
(`Request.Execution.agree_readSelections`).
-/

namespace TableGraph

open Request (FieldValue RequestFailure Executing)

namespace Request.Execution

/-! ## Fields that are asked for -/

/-- The fields that an operation can ask of an object type: the ones that it selects of the
root type, and those that it selects below such a field of an object type that the type of the
field stands for. -/
inductive Asks {State Selection : Type} (execution : Execution State Selection) :
    String → CollectedField → Prop where
  | root {field : CollectedField}
      (collected : field ∈ collect execution.document execution.bindings TypeName.query
        (depthLimit + 1) execution.operation.selections) :
      Asks execution TypeName.query field
  | inside {typeName object : String} {field inner : CollectedField} {declared : TypeField}
      (asks : Asks execution typeName field)
      (isDeclared : execution.schema.field? typeName field.name = some declared)
      (possible : object ∈ execution.schema.possibleTypes declared.type.baseName)
      (collected : inner ∈ collect execution.document execution.bindings object
        (depthLimit + 1) field.selections) :
      Asks execution object inner

/-- The arguments of all fields that are asked for name no hidden column of the table that
the field selects from. -/
def NamesShown {State Selection : Type} (execution : Execution State Selection)
    (configuration : Configuration) (described : Structure) : Prop :=
  ∀ typeName field declared given, execution.Asks typeName field →
    execution.schema.field? typeName field.name = some declared →
    execution.argumentFields field.arguments = some given →
    declared.plan.GivenShown configuration described given

/-! ## Values -/

section Completing

variable {State Selection : Type} {execution : Execution State Selection} {twins : Twins State}
  {plan : SchemaPlan} {hidden : String → String → Bool} {read otherRead : ObjectReader State}

/-- Two readers of objects agree on the rows of the object types that a type stands for. -/
def ReadsAlike (execution : Execution State Selection) (twins : Twins State) (plan : SchemaPlan)
    (hidden : String → String → Bool) (name : String) (read otherRead : ObjectReader State) :
    Prop :=
  ∀ object ∈ execution.schema.possibleTypes name, ∀ row other : Row,
    plan.HasObject row.table object → row.veiled hidden = other.veiled hidden →
      Agree twins (· = ·) (read object row) (otherRead object other)

theorem agree_completeNamed {name : String} {value other : FieldValue}
    (isTypes : execution.schema.types = plan.types)
    (reads : execution.ReadsAlike twins plan hidden name read otherRead)
    (alike : FieldValue.Alike plan hidden name value other) :
    Agree twins (· = ·) (execution.completeNamed read name value)
      (execution.completeNamed otherRead name other) := by
  unfold completeNamed
  cases alike with
  | json shown =>
      cases execution.schema.type? name with
      | none => exact Agree.of_answers rfl
      | some definition =>
          cases definition with
          | object fields => exact Agree.of_failure _
          | union members => exact Agree.of_failure _
          | input description fields => exact Agree.of_failure _
          | enumeration values =>
              cases shown with
              | text shown =>
                  simp only
                  split
                  · exact Agree.of_answers rfl
                  · exact Agree.of_failure _
              | _ => exact Agree.of_failure _
  | @row row other leads sameRow =>
      cases known : execution.schema.type? name with
      | none => exact Agree.of_failure _
      | some definition =>
          cases definition with
          | object fields =>
              refine reads name ?_ row other leads sameRow
              rw [Schema.possibleTypes, known]
              exact List.mem_singleton.mpr rfl
          | _ => exact Agree.of_failure _
  | rows leads areAlike =>
      cases execution.schema.type? name with
      | none => exact Agree.of_failure _
      | some definition => cases definition <;> exact Agree.of_failure _
  | @tagged row other object isMorph polymorphic leads sameRow =>
      have known : execution.schema.type? name =
          some (.union (plan.objects.map ObjectPlan.name)) := by
        rw [Schema.type?, isTypes, isMorph, SchemaPlan.lookup_morph polymorphic]
      rw [known]
      simp only
      split
      · next isMember =>
          refine reads object ?_ row other leads sameRow
          rw [Schema.possibleTypes, known]
          exact List.contains_iff_mem.mp isMember
      · exact Agree.of_failure _

theorem agree_complete (type : TypeReference) {found others : Option FieldValue}
    (isTypes : execution.schema.types = plan.types)
    (reads : execution.ReadsAlike twins plan hidden type.baseName read otherRead)
    (alike : Option.Rel (FieldValue.Alike plan hidden type.baseName) found others) :
    Agree twins (· = ·) (execution.complete read type found)
      (execution.complete otherRead type others) := by
  induction type generalizing found others with
  | named name =>
      cases alike with
      | none => exact Agree.of_answers rfl
      | some alike => exact agree_completeNamed isTypes reads alike
  | nonNull inner inductionHypothesis =>
      cases alike with
      | none => exact Agree.of_failure _
      | some alike => exact inductionHypothesis reads (.some alike)
  | list element inductionHypothesis =>
      cases alike with
      | none => exact Agree.of_answers rfl
      | some alike =>
          cases alike with
          | json shown => exact Agree.of_failure _
          | row leads sameRow => exact Agree.of_failure _
          | tagged isMorph polymorphic leads sameRow => exact Agree.of_failure _
          | @rows rows others table leads areAlike =>
              have each := areAlike.forall₂.imp fun row other both =>
                inductionHypothesis reads (.some (.row (both.1 ▸ leads) both.2))
              refine (Agree.mapM each).bind fun shown others same => Agree.of_answers ?_
              rw [List.forall₂_eq_eq_eq] at same
              rw [same]

end Completing

end Request.Execution

/-! ## Parents -/

/-- What the fields of an object type are asked of on two databases: no row for the root type,
else rows of the table of the object type that differ in hidden values only. -/
inductive SchemaPlan.ParentsAlike (plan : SchemaPlan) (hidden : String → String → Bool)
    (typeName : String) : Option Row → Option Row → Prop where
  | root (isQuery : typeName = TypeName.query) : ParentsAlike plan hidden typeName none none
  | object {row other : Row} (leads : plan.HasObject row.table typeName)
      (sameRow : row.veiled hidden = other.veiled hidden) :
      ParentsAlike plan hidden typeName (some row) (some other)

namespace SchemaPlan

variable {plan : SchemaPlan} {hidden : String → String → Bool} {schema : Schema}
  {typeName name : String} {declared : TypeField} {parent otherParent : Option Row}

theorem exists_of_field? (isTypes : schema.types = plan.types)
    (found : schema.field? typeName name = some declared) :
    declared.type = declared.plan.typeReference ∧
      (typeName = TypeName.query ∧ declared.plan ∈ plan.query ∨
        ∃ object ∈ plan.objects, object.name = typeName ∧ declared.plan ∈ object.fields) := by
  rw [Schema.field?, Schema.type?, isTypes] at found
  split at found
  · next fields known =>
      rcases lookup_types_cases known with argument | ⟨_, _, isUnion⟩ | ⟨own, keeps, isObject⟩
      · exact absurd argument not_object_argument
      · cases isUnion
      · cases isObject
        obtain ⟨field, member, rfl⟩ := List.mem_map.mp (List.mem_of_find?_eq_some found)
        refine ⟨rfl, ?_⟩
        rcases List.mem_cons.mp keeps.mem with isQuery | ofObject
        · obtain ⟨sameName, sameFields⟩ := Prod.mk.inj isQuery
          exact Or.inl ⟨sameName, sameFields ▸ member⟩
        · obtain ⟨object, planned, same⟩ := List.mem_map.mp ofObject
          obtain ⟨sameName, sameFields⟩ := Prod.mk.inj same
          exact Or.inr ⟨object, planned, sameName, sameFields ▸ member⟩
  · cases found

theorem ParentsAlike.same (parents : plan.ParentsAlike hidden typeName parent otherParent) :
    parent.map (Row.veiled hidden) = otherParent.map (Row.veiled hidden) := by
  cases parents with
  | root => rfl
  | object _ sameRow => exact congrArg some sameRow

/-- When types are registered under names of their own, the fields of an object type are asked
of rows of its table only. -/
theorem ParentsAlike.asks (distinct : (plan.registrations.map Prod.fst).Nodup)
    (isTypes : schema.types = plan.types)
    (found : schema.field? typeName name = some declared)
    (parents : plan.ParentsAlike hidden typeName parent otherParent) :
    plan.Asks declared.plan parent := by
  rw [plan.names_registrations.nodup_iff, List.nodup_append] at distinct
  obtain ⟨distinctNames, _, apart⟩ := distinct
  have notQuery {object : ObjectPlan} (planned : object ∈ plan.objects) :
      object.name ≠ TypeName.query :=
    apart object.name (List.mem_map_of_mem planned) TypeName.query List.mem_cons_self
  obtain ⟨_, ofQuery | ⟨object, planned, named, member⟩⟩ := exists_of_field? isTypes found
  · obtain ⟨isQuery, member⟩ := ofQuery
    cases parents with
    | root => exact .root none member
    | object leads sameRow =>
        obtain ⟨object, planned, _, named⟩ := leads
        exact absurd (named.trans isQuery) (notQuery planned)
  · cases parents with
    | root isQuery => exact absurd (named.trans isQuery) (notQuery planned)
    | object leads sameRow =>
        obtain ⟨other, otherPlanned, ofTable, otherNamed⟩ := leads
        obtain rfl := List.inj_on_of_nodup_map distinctNames planned otherPlanned
          (named.trans otherNamed.symm)
        exact .member planned member ofTable.symm

end SchemaPlan

/-! ## Selections -/

namespace Request.Execution

section Reading

variable {source : PlanSource} {first second : Database} {depth : Nat}
  {execution : Execution Database TableSelection}
  (holds : first.Holds source.database)
  (separates : source.configuration.SeparatesNames source.database)
  (indexed : first.IndexesShown source.database source.hides)
  (alike : first.veiled source.hides = second.veiled source.hides)
  (distinct : (source.plan.registrations.map Prod.fst).Nodup)
  (isTypes : execution.schema.types = source.plan.types)
  (isResolver : execution.resolver = source.resolver depth)
  (shown : execution.NamesShown source.configuration source.database)

include holds separates indexed alike distinct isTypes isResolver shown

theorem agree_readField {typeName : String} {parent otherParent : Option Row}
    {field : CollectedField} (asked : execution.Asks typeName field)
    (parents : source.plan.ParentsAlike source.hides typeName parent otherParent)
    {read : String → Option Row → List Request.Selection → Executing Database Json}
    (inside : ∀ object row other, source.plan.ParentsAlike source.hides object row other →
      (∀ inner ∈ collect execution.document execution.bindings object (depthLimit + 1)
        field.selections, execution.Asks object inner) →
      Agree (Database.twins source.hides first second) (· = ·)
        (read object row field.selections) (read object other field.selections)) :
    Agree (Database.twins source.hides first second) (· = ·)
      (execution.readField read typeName parent field)
      (execution.readField read typeName otherParent field) := by
  unfold readField
  split
  · exact Agree.of_answers rfl
  · cases isDeclared : execution.schema.field? typeName field.name with
    | none => exact Agree.of_failure _
    | some declared =>
        cases isGiven : execution.argumentFields field.arguments with
        | none => exact Agree.of_failure _
        | some given =>
            have asks := parents.asks distinct isTypes isDeclared
            have resolved : Agree (Database.twins source.hides first second)
                (declared.plan.FindsAlike source.plan source.hides)
                (execution.resolveAt field declared.plan parent given)
                (execution.resolveAt field declared.plan otherParent given) :=
              (source.agree_resolveField holds separates indexed alike execution isResolver asks parents.same
                (shown typeName field declared given asked isDeclared isGiven)).mapError
                  fun error => RequestFailure.field error field.position
            refine resolved.bind fun found others finds => ?_
            rw [FieldPlan.FindsAlike, ← (SchemaPlan.exists_of_field? isTypes isDeclared).1] at finds
            refine (agree_complete declared.type isTypes ?_ finds).bind fun shown others same =>
              Agree.of_answers ?_
            · intro object possible row other leads sameRow
              refine inside object (some row) (some other) (.object leads sameRow) ?_
              exact fun inner collected => .inside asked isDeclared possible collected
            · rw [same]

/-- Selections have the same value on both databases. -/
theorem agree_readSelections {levels : Nat} {typeName : String} {parent otherParent : Option Row}
    {selections : List Request.Selection}
    (parents : source.plan.ParentsAlike source.hides typeName parent otherParent)
    (asked : ∀ field ∈ collect execution.document execution.bindings typeName (depthLimit + 1)
      selections, execution.Asks typeName field) :
    Agree (Database.twins source.hides first second) (· = ·)
      (execution.readSelections levels typeName parent selections)
      (execution.readSelections levels typeName otherParent selections) := by
  induction levels generalizing typeName parent otherParent selections with
  | zero => exact Agree.of_failure _
  | succ levels inductionHypothesis =>
      have each : ∀ field ∈ collect execution.document execution.bindings typeName (depthLimit + 1)
            selections,
          Agree (Database.twins source.hides first second) (· = ·)
            (execution.readField (execution.readSelections levels) typeName parent field)
            (execution.readField (execution.readSelections levels) typeName otherParent field) := by
        intro field collected
        refine agree_readField holds separates indexed alike distinct isTypes isResolver shown
          (asked field collected) parents fun object row other inner askedInside => ?_
        exact inductionHypothesis inner askedInside
      refine (Agree.mapM (List.forall₂_same.mpr each)).bind fun fields others same => Agree.of_answers ?_
      rw [List.forall₂_eq_eq_eq] at same
      rw [same]

end Reading

end Request.Execution

/-! ## Requests -/

namespace Request.Message

/-- The execution of an operation that a request asks for. -/
def execution (message : Message) (schema : Schema) (document : Document) (operation : Operation) :
    Execution Database TableSelection :=
  ⟨schema, Database.resolver schema.compiler (Schema.typeNames schema.plan), document, operation,
    message.bindings⟩

/-- No field that a request asks for names a hidden column of the table that the field selects
from. -/
def NamesShown (message : Message) (schema : Schema) (configuration : Configuration)
    (described : Structure) : Prop :=
  ∀ document operation, Document.parse? message.query = some document →
    message.operation? document = some operation →
    (message.execution schema document operation).NamesShown configuration described

end Request.Message

theorem Schema.eq_of_ofPlan {plan : SchemaPlan} {firstParty : Bool} {schema : Schema}
    (made : Schema.ofPlan plan firstParty = .ok schema) :
    schema = ⟨plan, .new firstParty, plan.types⟩ := by
  rw [Schema.ofPlan] at made
  split at made
  · cases made
  · simp only at made
    split at made
    · exact (Except.ok.inj made).symm
    · cases made

/-- A request of an untrusted client that names shown columns has the same response. -/
theorem PlanSource.agree_execute {source : PlanSource} {first second : Database}
    (holds : first.Holds source.database)
    (separates : source.configuration.SeparatesNames source.database)
    (indexed : first.IndexesShown source.database source.hides)
    (alike : first.veiled source.hides = second.veiled source.hides)
    (distinct : (source.plan.registrations.map Prod.fst).Nodup) {schema : Schema}
    (made : Schema.ofPlan source.plan false = .ok schema) {message : Request.Message}
    (shown : message.NamesShown schema source.configuration source.database) :
    Agree (Database.twins source.hides first second) (· = ·)
      (Request.execute schema Database.datastore message)
      (Request.execute schema Database.datastore message) := by
  obtain rfl := Schema.eq_of_ofPlan made
  unfold Request.execute
  cases parsed : Request.Document.parse? message.query with
  | none => exact Agree.of_failure _
  | some document =>
      simp only
      split
      · exact Agree.of_failure _
      · cases isOperation : message.operation? document with
        | none => exact Agree.of_failure _
        | some operation =>
            exact Request.Execution.agree_readSelections holds separates indexed alike distinct rfl rfl
              (shown document operation parsed isOperation) (.root rfl)
              fun field collected => .root collected

end TableGraph
