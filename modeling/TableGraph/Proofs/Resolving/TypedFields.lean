import Mathlib
import TableGraph.Proofs.Plan.FieldKinds
import TableGraph.Proofs.Resolving.Yielding
import TableGraph.Request.Execution

/-!
# Fields resolve to what they declare

The main statement, `SchemaPlan.fields_resolve_as_declared`, ties the fields of a plan to
their resolvers.  No field of a plan is missing a setting, a parent or a resolver, and the
rows it resolves to are of the table whose object type it declares; a row of a polymorphic
reference is of the table whose object type it is tagged with.
-/

namespace TableGraph

open Resolving

/-! ## Values -/

/-- Whether a value is what a field declares: a number or a scalar, or rows of the table
whose object type is the type of the field or the tag of the row. -/
def Request.FieldValue.IsDeclaredBy (plan : SchemaPlan) (isOf : Row → String → Prop)
    (field : FieldPlan) : Request.FieldValue → Prop
  | .json _ => (∃ scalar, field.type = .scalar scalar) ∨ field.type = .count
  | .row found => ∃ object, plan.object? object.table = some object ∧
      field.type = .object object.name ∧ field.settings.tableName = some object.table ∧
        isOf found object.table
  | .rows found => ∃ object, plan.object? object.table = some object ∧
      field.type = .list object.name ∧ field.settings.tableName = some object.table ∧
        ∀ one ∈ found, isOf one object.table
  | .tagged typeName found => field.type = .morph ∧ ∃ object,
      plan.object? object.table = some object ∧ object.name = typeName ∧ isOf found object.table

theorem Scalar.blameless_number {value : Double} {failure : RequestError}
    (failed : number value = .error failure) : failure.isInternal = false := by
  unfold number at failed
  split at failed
  · cases failed
  · rw [← Except.error.inj failed]
    rfl

theorem Scalar.blameless_showText {scalar : Scalar} {value : String} {failure : RequestError}
    (failed : scalar.showText value = .error failure) : failure.isInternal = false := by
  cases scalar with
  | id => cases failed
  | string => cases failed
  | boolean => cases failed
  | int =>
      unfold showText at failed
      cases read : Int64.ofText? value <;> simp only [read, reduceCtorEq] at failed
  | float =>
      unfold showText at failed
      cases read : Double.ofText? value with
      | none => simp only [read, reduceCtorEq] at failed
      | some parsed =>
          simp only [read] at failed
          exact blameless_number failed

/-- A stored value that cannot be shown is not the schema's fault. -/
theorem Scalar.blameless_showValue {scalar : Scalar} {value : Value} {failure : RequestError}
    (failed : scalar.showValue value = .error failure) : failure.isInternal = false := by
  cases value with
  | null => cases failed
  | bytes stored => cases failed
  | text stored => exact blameless_showText failed
  | integer stored => cases scalar <;> cases failed
  | bool stored => cases scalar <;> cases failed
  | float stored =>
      cases scalar with
      | id => cases failed
      | string => cases failed
      | float => exact blameless_number failed
      | boolean => exact blameless_number failed
      | int =>
          simp only [showValue] at failed
          split at failed
          · cases failed
          · exact blameless_number failed

namespace Request.Execution

variable {State Selection : Type} {execution : Execution State Selection} {plan : SchemaPlan}
  {field : FieldPlan} {isOver : Selection → String → Prop} {isOf : Row → String → Prop}

/-- What a resolver found is what a field declares. -/
def Declares (plan : SchemaPlan) (isOf : Row → String → Prop) (field : FieldPlan)
    (resolved : Resolved) : Prop :=
  ∀ value ∈ ofResolved resolved, FieldValue.IsDeclaredBy plan isOf field value

theorem yields_resolveField {kind : ResolverKind} {parent : Option Row}
    (resolver : field.resolver = some kind) (present : kind.needsParent = true → parent.isSome = true)
    (resolves : ∀ arguments given, (kind.needsParent = true → given = parent) →
      Yields (execution.resolver.resolve kind given arguments field.settings)
        (Declares plan isOf field)) (fields : List (String × Json)) :
    Yields (execution.resolveField field parent fields)
      fun value? => ∀ value ∈ value?, FieldValue.IsDeclaredBy plan isOf field value := by
  unfold resolveField
  rw [resolver]
  apply (yields_compiled (Arguments.failsToCompile_read fields)).bind
  intro arguments _
  by_cases needs : kind.needsParent = true
  · obtain ⟨row, rfl⟩ := Option.isSome_iff_exists.mp (present needs)
    let requiring : Resolving State (Option Row) := some <$> liftM (requireRow (some row))
    have given : Yields requiring fun given => given = some row := fun _ => rfl
    simp only [if_pos needs]
    apply given.bind
    intro parent same
    apply (resolves arguments parent fun _ => same).bind
    intro resolved declares
    exact yields_pure declares
  · let nothing : Resolving State (Option Row) := pure none
    have given : Yields nothing fun given => given = none := yields_pure rfl
    simp only [if_neg needs]
    apply given.bind
    intro parent _
    apply (resolves arguments parent fun needed => absurd needed needs).bind
    intro resolved declares
    exact yields_pure declares

theorem yields_columnValue {column : String} {scalar : Scalar} (row : Row)
    (resolver : field.resolver = none) (type : field.type = .scalar scalar)
    (settings : field.settings = { FieldSettings.blank with columnName := some column })
    (fields : List (String × Json)) :
    Yields (execution.resolveField field (some row) fields)
      fun value? => ∀ value ∈ value?, FieldValue.IsDeclaredBy plan isOf field value := by
  have read : Yields (liftM (columnValue row column scalar) : Resolving State (Option FieldValue))
      fun value? => ∀ value ∈ value?, FieldValue.IsDeclaredBy plan isOf field value := by
    cases held : row.value? column with
    | none =>
        simp only [columnValue, held]
        apply yields_pure
        intro value absent
        cases absent
    | some value =>
        by_cases null : value.isNull = true
        · simp only [columnValue, held, null, if_true]
          apply yields_pure
          intro value absent
          cases absent
        · simp only [columnValue, held, if_neg null]
          cases shown : scalar.showValue value with
          | error failure => exact yields_throw (Scalar.blameless_showValue shown)
          | ok json =>
              apply yields_pure
              intro value isShown
              cases isShown
              exact Or.inl ⟨scalar, type⟩
  unfold resolveField
  rw [resolver, type, settings]
  exact read

/-! ## Kinds -/

variable (serves : execution.resolver.datastore.Serves isOver isOf)

include serves

theorem yields_listing {opening : Resolving State Selection} {object : ObjectPlan}
    (planned : plan.object? object.table = some object) (type : field.type = .list object.name)
    (set : field.settings.tableName = some object.table)
    (opens : Yields opening fun selection => isOver selection object.table)
    (arguments : Arguments) :
    Yields (do return Resolved.rows (← execution.resolver.fetch (← opening) arguments))
      (Declares plan isOf field) := by
  apply opens.bind
  intro selection selected
  apply (Resolver.yields_fetch serves selected arguments).bind
  intro rows ofTable
  apply yields_pure
  rintro _ ⟨⟩
  exact ⟨object, planned, type, set, ofTable⟩

theorem yields_counting {opening : Resolving State Selection} {table : String}
    (type : field.type = .count) (opens : Yields opening fun selection => isOver selection table)
    (arguments : Arguments) :
    Yields (do return Resolved.count (← execution.resolver.count (← opening) arguments))
      (Declares plan isOf field) := by
  apply opens.bind
  intro selection selected
  apply (Resolver.yields_count serves selected arguments).bind
  intro number _
  apply yields_pure
  rintro _ ⟨⟩
  exact Or.inr type

theorem yields_root (root : field.IsRoot plan) (parent : Option Row)
    (fields : List (String × Json)) :
    Yields (execution.resolveField field parent fields)
      fun value? => ∀ value ∈ value?, FieldValue.IsDeclaredBy plan isOf field value := by
  cases root with
  | @table object planned resolver type _ settings =>
      have set : field.settings.tableName = some object.table := by rw [settings]
      apply yields_resolveField resolver (fun needed => by cases needed)
      intro arguments given _
      exact yields_listing serves planned type set (Resolver.yields_openTable serves set) arguments
  | @tableCount object planned resolver type _ settings =>
      have set : field.settings.tableName = some object.table := by rw [settings]
      apply yields_resolveField resolver (fun needed => by cases needed)
      intro arguments given _
      exact yields_counting serves type (Resolver.yields_openTable serves set) arguments

theorem yields_member (member : field.IsMember plan)
    (named : ∀ table name, execution.resolver.typeNames.lookup table = some name →
      ∃ object, plan.object? object.table = some object ∧ object.table = table ∧ object.name = name)
    (row : Row) (fields : List (String × Json)) :
    Yields (execution.resolveField field (some row) fields)
      fun value? => ∀ value ∈ value?, FieldValue.IsDeclaredBy plan isOf field value := by
  cases member with
  | column resolver type _ settings => exact yields_columnValue row resolver type settings fields
  | @belongsTo object column planned resolver type _ settings =>
      have tableSet : field.settings.tableName = some object.table := by rw [settings]
      have columnSet : field.settings.referencingColumn = some column := by rw [settings]
      apply yields_resolveField resolver fun _ => rfl
      intro arguments given same
      rw [same rfl]
      apply (Resolver.yields_belongsTo serves row tableSet columnSet).bind
      intro found ofTable
      apply yields_pure
      intro value isValue
      obtain ⟨one, isFound, rfl⟩ := Option.map_eq_some_iff.mp isValue
      exact ⟨object, planned, type, tableSet, ofTable one isFound⟩
  | @hasMany object column _ planned resolver type _ settings =>
      have tableSet : field.settings.tableName = some object.table := by rw [settings]
      have columnSet : field.settings.referencingColumn = some column := by rw [settings]
      apply yields_resolveField resolver fun _ => rfl
      intro arguments given same
      rw [same rfl]
      have opens := Resolver.yields_openRelated serves row tableSet columnSet
      exact yields_listing serves planned type tableSet opens arguments
  | @hasManyCount object column _ planned resolver type _ settings =>
      have tableSet : field.settings.tableName = some object.table := by rw [settings]
      have columnSet : field.settings.referencingColumn = some column := by rw [settings]
      apply yields_resolveField resolver fun _ => rfl
      intro arguments given same
      rw [same rfl]
      have opens := Resolver.yields_openRelated serves row tableSet columnSet
      exact yields_counting serves type opens arguments
  | @morphTo relation resolver type _ settings =>
      have relationSet : field.settings.morphRelation = some relation := by rw [settings]
      apply yields_resolveField resolver fun _ => rfl
      intro arguments given same
      rw [same rfl]
      apply (Resolver.yields_morphTo serves row relationSet).bind
      intro found ofTable
      apply yields_pure
      intro value isValue
      obtain ⟨⟨typeName, one⟩, isFound, rfl⟩ := Option.map_eq_some_iff.mp isValue
      obtain ⟨table, known, isOne⟩ := ofTable (typeName, one) isFound
      obtain ⟨object, planned, rfl, sameName⟩ := named table typeName known
      exact ⟨type, object, planned, sameName, isOne⟩

end Request.Execution

namespace SchemaPlan

/-- A table with an object type name has the object type of that name. -/
theorem exists_of_lookup_typeNames {plan : SchemaPlan}
    (distinct : (plan.objects.map ObjectPlan.table).Nodup) {table name : String}
    (known : (Schema.typeNames plan).lookup table = some name) :
    ∃ object, plan.object? object.table = some object ∧ object.table = table ∧
      object.name = name := by
  obtain ⟨object, planned, same⟩ := List.mem_map.mp (mem_of_lookup_pairsOf known)
  obtain ⟨sameTable, sameName⟩ := Prod.mk.inj same
  exact ⟨object, object?_of_mem distinct planned, sameTable, sameName⟩

/-- A field of a plan as it is asked: a root field of any parent, a field of an object
type of a row of its table. -/
inductive Asks (plan : SchemaPlan) : FieldPlan → Option Row → Prop where
  | root {field : FieldPlan} (parent : Option Row) (member : field ∈ plan.query) :
      Asks plan field parent
  | member {object : ObjectPlan} {field : FieldPlan} {row : Row}
      (planned : object ∈ plan.objects) (member : field ∈ object.fields)
      (ofTable : row.table = object.table) : Asks plan field (some row)

end SchemaPlan

theorem PlanSource.yields_asked {source : PlanSource}
    (distinct : (source.database.tables.map Table.name).Nodup) {State Selection : Type}
    {execution : Request.Execution State Selection}
    (typeNames : execution.resolver.typeNames = Schema.typeNames source.plan)
    {isOver : Selection → String → Prop} {isOf : Row → String → Prop}
    (serves : execution.resolver.datastore.Serves isOver isOf) {field : FieldPlan}
    {parent : Option Row} (asks : source.plan.Asks field parent) (fields : List (String × Json)) :
    Yields (execution.resolveField field parent fields)
      fun value? => ∀ value ∈ value?, value.IsDeclaredBy source.plan isOf field := by
  cases asks with
  | root parent member =>
      have root := isRoot_query distinct member
      exact Request.Execution.yields_root serves root parent fields
  | member planned member =>
      have isMember := isMember_objects distinct planned member
      apply Request.Execution.yields_member serves isMember ?_ _ fields
      intro table name known
      rw [typeNames] at known
      exact SchemaPlan.exists_of_lookup_typeNames (nodup_tables_objects distinct) known

namespace SchemaPlan

variable {database : Structure} {configuration : Configuration} {mapper : ColumnTypeMapper}
  {inflector : Inflector} {patterns : PatternEngine} {plan : SchemaPlan}

/-- The root fields are lists and counts of the tables of object types, the fields of
object types are columns, references and polymorphic references, and each resolves to what
it declares.  With any datastore no field fails for the schema's own fault, and with one
that names its rows for their tables all rows are of the declared table. -/
theorem fields_resolve_as_declared (distinct : (database.tables.map Table.name).Nodup)
    (built : SchemaPlan.build database configuration mapper inflector patterns = .ok plan) :
    (∀ field ∈ plan.query, field.IsRoot plan) ∧
      (∀ object ∈ plan.objects, ∀ field ∈ object.fields, field.IsMember plan) ∧
      ∀ {State Selection : Type} (execution : Request.Execution State Selection),
        execution.resolver.typeNames = Schema.typeNames plan →
        ∀ field parent, plan.Asks field parent → ∀ fields session,
          (∀ reason, (execution.resolveField field parent fields session).1 ≠
            .error (.internal reason)) ∧
          (execution.resolver.datastore.NamesTables →
            ∀ value, (execution.resolveField field parent fields session).1 = .ok (some value) →
              value.IsDeclaredBy plan (fun row table => row.table = table) field) := by
  obtain ⟨strip, _, rfl⟩ := eq_plan_of_build built
  refine ⟨fun field => PlanSource.isRoot_query distinct,
    fun object planned field => PlanSource.isMember_objects distinct planned, ?_⟩
  intro State Selection execution typeNames field parent asks fields session
  constructor
  · intro reason failed
    have outcome := PlanSource.yields_asked distinct typeNames
      execution.resolver.datastore.serves_anything asks fields session
    rw [failed] at outcome
    cases outcome
  · rintro ⟨isOver, serves⟩ value resolved
    have outcome := PlanSource.yields_asked distinct typeNames serves asks fields session
    rw [resolved] at outcome
    exact outcome value rfl

/-! ### The products of a category -/

private def shop : Structure :=
  .ofTables
    [⟨"categories", [⟨"id", false, true, "INTEGER", none⟩], [], []⟩,
      ⟨"products", [⟨"id", false, true, "INTEGER", none⟩, .plain "category_id" "INTEGER"],
        [("category_id", "categories")], []⟩]

private def productsOfCategory : FieldPlan :=
  .list "products__category_id" "products" .hasMany
    { FieldSettings.blank with
      tableName := some "products", referencingColumn := some "category_id" }

/-- Whatever the database holds, the rows of the products of a category are of the
products. -/
theorem fields_resolve_as_declared_products :
    ∃ plan, SchemaPlan.build shop .standard nativeTypeMapper (fun _ => []) = .ok plan ∧
      (shop.tables.map Table.name).Nodup ∧ Database.datastore.NamesTables ∧
      ∀ execution : Request.Execution Database TableSelection,
        execution.resolver = ⟨Database.datastore, .new false, Schema.typeNames plan⟩ →
        ∀ values session rows,
          (execution.resolveField productsOfCategory (some ⟨"categories", values⟩) [] session).1 =
              .ok (some (.rows rows)) →
            ∀ row ∈ rows, row.table = "products" := by
  obtain ⟨strip, read⟩ : ∃ strip, Configuration.standard.readStripPattern = .ok strip :=
    ⟨_, by cbv⟩
  let source : PlanSource := ⟨shop, .standard, nativeTypeMapper, fun _ => [], strip⟩
  have built : SchemaPlan.build shop .standard nativeTypeMapper (fun _ => []) = .ok source.plan :=
    build_of_read read ..
  have planned : ∃ object ∈ source.plan.objects, object.table = "categories" ∧
      productsOfCategory ∈ object.fields :=
    ⟨_, List.mem_cons_self, rfl, List.mem_cons_of_mem _ List.mem_cons_self⟩
  have distinct : (shop.tables.map Table.name).Nodup := by decide
  refine ⟨source.plan, built, distinct, Database.namesTables, ?_⟩
  intro execution resolver values session rows resolved
  obtain ⟨object, objectMember, ofCategories, fieldMember⟩ := planned
  have asks : source.plan.Asks productsOfCategory (some ⟨"categories", values⟩) :=
    .member objectMember fieldMember ofCategories.symm
  have declared := (fields_resolve_as_declared distinct built).2.2 execution (by rw [resolver]) _ _
    asks [] session
  obtain ⟨products, _, _, set, ofTable⟩ := declared.2 (by rw [resolver]; exact Database.namesTables) _
    resolved
  have table : "products" = products.table := Option.some.inj set
  rw [table]
  exact ofTable

end SchemaPlan

end TableGraph
