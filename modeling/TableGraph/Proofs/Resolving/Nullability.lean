import Mathlib
import TableGraph.Proofs.Plan.ExposedSettings
import TableGraph.Proofs.Resolving.References
import TableGraph.Proofs.Scalar.Domains
import TableGraph.Request.Execution

/-!
# Fields that are not null

A field of an object type may be declared not to be null.  Whether it is follows from the
structure, the value from the rows: a column shows its value, a list and a count are always
there, and a reference leads to a row when the value it follows is the key of one.

The main statement is `SchemaPlan.required_fields_resolve`.  A polymorphic reference is
declared by its id alone, but its type has to name a table as well.
-/

namespace TableGraph

/-! ## Databases of a structure -/

namespace Database

/-- A row as it is fetched from a table of a name. -/
def HasRow (database : Database) (table : String) (row : Row) : Prop :=
  ∃ stored held, database.table? table = some stored ∧ held ∈ stored.rows ∧
    row = stored.fetched table held

/-- A value equals the key of some row of a table, as the engine compares them.  The key is
one column whose name is quoted as one. -/
def HasKey (database : Database) (table : String) (value : Value) : Prop :=
  ∃ stored key held, database.table? table = some stored ∧ database.primaryKey table = .ok key ∧
    IsUndotted key ∧ held ∈ stored.rows ∧ stored.equals key (Cell.ofValue value) held = true

/-- The rows of a database are as a structure says: a column that is not nullable holds a
value, and a value that is held by a referencing column is a key of the table it leads to. -/
structure Respects (database : Database) (described : Structure) : Prop where
  columns : ∀ table ∈ described.tables, ∀ column ∈ table.columns, column.nullable = false →
    ∀ row, database.HasRow table.name row →
      ∃ value, row.value? column.name = some value ∧ value.isNull = false
  references : ∀ table ∈ described.tables, ∀ reference ∈ table.belongsTo,
    ∀ row, database.HasRow table.name row →
      ∀ value, row.value? reference.1 = some value → value.isNull = false →
        database.HasKey reference.2 value

/-- The type of a polymorphic reference names a table with the id as a key. -/
def Leads (database : Database) (relation : MorphRelation) (row : Row) : Prop :=
  ∃ table, (row.value? relation.typeColumn).bind Value.tableName? = some table ∧
    ∀ value ∈ row.value? relation.idColumn, database.HasKey table value

/-! ## References -/

variable {compiler : Compiler} {typeNames : List (String × String)} {session : Session Database}
  {row : Row} {table column : String}

/-- A column that holds a key leads to a row, unless the look-up fails. -/
theorem isSome_fetchOne {value : Value} (holds : row.value? column = some value)
    (present : value.isNull = false) (isKey : session.store.HasKey table value)
    {found : Option Row}
    (fetched : ((resolver compiler typeNames).fetchOne row table column session).1 = .ok found) :
    found.isSome = true := by
  obtain ⟨stored, key, held, isTable, primary, undotted, member, equal⟩ := isKey
  rw [fetchOne_of_value holds present primary] at fetched
  by_cases quoted : IsUndotted table
  · have known : (stored.definition.position? key).isSome = true := by
      cases position : stored.definition.position? key with
      | none => simp [StoredTable.equals, position] at equal
      | some position => rfl
    obtain ⟨visited, perm, found⟩ := fetch_wherever isTable quoted undotted known value true
    have among : held ∈ visited.filter (stored.equals key (Cell.ofValue value)) :=
      List.mem_filter.mpr ⟨perm.mem_iff.mpr member, equal⟩
    rw [found] at fetched
    obtain ⟨first, rest, matching⟩ := List.exists_cons_of_ne_nil (List.ne_nil_of_mem among)
    rw [matching] at fetched
    rw [← Except.ok.inj fetched]
    rfl
  · rw [fetch_wherever_dotted quoted] at fetched
    cases fetched

end Database

/-! ## Values that are shown -/

/-- A value other than null. -/
def Request.FieldValue.IsPresent (value? : Option Request.FieldValue) : Prop :=
  ∃ value, value? = some value ∧ ∀ json, value = .json json → json ≠ .null

namespace Request.Execution

variable {execution : Execution Database TableSelection} {field : FieldPlan} {row : Row}
  {session : Session Database} {arguments : List (String × Json)} {value? : Option FieldValue}

/-- A field with a resolver is asked of its row. -/
theorem resolveField_of_kind {kind : ResolverKind} (isKind : field.resolver = some kind)
    (needs : kind.needsParent = true) {given : Arguments}
    (read : Arguments.read arguments = .ok given) :
    (execution.resolveField field (some row) arguments session).1 =
      (execution.resolver.resolve kind (some row) given field.settings session).1.map
        ofResolved := by
  let requiring : Resolving Database (Option Row) := some <$> liftM (requireRow (some row))
  have asked : requiring session = (.ok (some row), session) := rfl
  unfold resolveField
  rw [isKind, read]
  simp only [needs, if_true]
  rw [Resolving.bind_of_ok (Resolving.lift_eq _), Resolving.bind_of_ok asked,
    Resolving.bind_pure_fst]

theorem exists_resolved {kind : ResolverKind} (isKind : field.resolver = some kind)
    (needs : kind.needsParent = true)
    (resolves : (execution.resolveField field (some row) arguments session).1 = .ok value?) :
    ∃ given resolved,
      (execution.resolver.resolve kind (some row) given field.settings session).1 = .ok resolved ∧
        ofResolved resolved = value? := by
  cases read : Arguments.read arguments with
  | error failure =>
      unfold resolveField at resolves
      rw [isKind, read] at resolves
      simp only [needs, if_true] at resolves
      rw [Resolving.bind_of_error (Resolving.lift_eq _)] at resolves
      cases resolves
  | ok given =>
      rw [resolveField_of_kind isKind needs read] at resolves
      exact ⟨given, map_eq_ok resolves⟩

theorem isPresent_column {scalar : Scalar} {column : String} {value : Value}
    (noResolver : field.resolver = none) (isScalar : field.type = .scalar scalar)
    (isColumn : field.settings.columnName = some column) (holds : row.value? column = some value)
    (present : value.isNull = false)
    (resolves : (execution.resolveField field (some row) arguments session).1 = .ok value?) :
    FieldValue.IsPresent value? := by
  have reads :
      (execution.resolveField field (some row) arguments session).1 =
        columnValue row column scalar := by
    unfold resolveField
    rw [noResolver, isScalar, isColumn]
    refine (congrArg Prod.fst (Resolving.bind_of_ok (Resolving.lift_eq _) _)).trans ?_
    exact congrArg Prod.fst (Resolving.lift_eq _)
  rw [reads, columnValue, holds] at resolves
  simp only [present, Bool.false_eq_true, if_false] at resolves
  obtain ⟨shown, shows, rfl⟩ := map_eq_ok resolves
  refine ⟨_, rfl, fun json isShown => ?_⟩
  cases isShown
  exact Scalar.showValue_ne_null present shows

/-- The rows of a relation, or their number, are always there. -/
theorem isPresent_related
    (isRelated : field.resolver = some .hasMany ∨ field.resolver = some .hasManyCount)
    (resolves : (execution.resolveField field (some row) arguments session).1 = .ok value?) :
    FieldValue.IsPresent value? := by
  rcases isRelated with isKind | isKind
  · obtain ⟨given, resolved, answered, rfl⟩ := exists_resolved isKind rfl resolves
    let listing := execution.resolver.openRelated row field.settings >>= fun selection =>
      execution.resolver.fetch selection given
    have lists :
        execution.resolver.resolve .hasMany (some row) given field.settings =
          listing >>= fun rows => pure (Resolved.rows rows) := (bind_assoc _ _ _).symm
    rw [lists, Resolving.bind_pure_fst] at answered
    obtain ⟨rows, _, rfl⟩ := map_eq_ok answered
    exact ⟨_, rfl, fun json isJson => by cases isJson⟩
  · obtain ⟨given, resolved, answered, rfl⟩ := exists_resolved isKind rfl resolves
    let counting := execution.resolver.openRelated row field.settings >>= fun selection =>
      execution.resolver.count selection given
    have counts :
        execution.resolver.resolve .hasManyCount (some row) given field.settings =
          counting >>= fun number => pure (Resolved.count number) := (bind_assoc _ _ _).symm
    rw [counts, Resolving.bind_pure_fst] at answered
    obtain ⟨number, _, rfl⟩ := map_eq_ok answered
    refine ⟨_, rfl, fun json isJson => ?_⟩
    cases isJson
    exact Json.noConfusion

variable {compiler : Compiler} {typeNames : List (String × String)} {table column : String}
  {value : Value}

theorem isPresent_belongsTo (connected : execution.resolver = Database.resolver compiler typeNames)
    (isKind : field.resolver = some .belongsTo) (isTable : field.settings.tableName = some table)
    (isColumn : field.settings.referencingColumn = some column)
    (holds : row.value? column = some value) (present : value.isNull = false)
    (isKey : session.store.HasKey table value)
    (resolves : (execution.resolveField field (some row) arguments session).1 = .ok value?) :
    FieldValue.IsPresent value? := by
  obtain ⟨given, resolved, answered, rfl⟩ := exists_resolved isKind rfl resolves
  rw [connected, Resolver.resolve_belongsTo isTable isColumn] at answered
  obtain ⟨found, fetched, rfl⟩ := map_eq_ok answered
  obtain ⟨one, rfl⟩ :=
    Option.isSome_iff_exists.mp (Database.isSome_fetchOne holds present isKey fetched)
  exact ⟨_, rfl, fun json isJson => by cases isJson⟩

/-- A polymorphic reference whose type names a table with its id as a key leads to a row. -/
theorem isPresent_morphTo {relation : MorphRelation}
    (connected : execution.resolver = Database.resolver compiler typeNames)
    (isKind : field.resolver = some .morphTo)
    (isRelation : field.settings.morphRelation = some relation)
    (holds : row.value? relation.idColumn = some value) (present : value.isNull = false)
    (leads : session.store.Leads relation row)
    (resolves : (execution.resolveField field (some row) arguments session).1 = .ok value?) :
    FieldValue.IsPresent value? := by
  obtain ⟨given, resolved, answered, rfl⟩ := exists_resolved isKind rfl resolves
  obtain ⟨table, names, isKey⟩ := leads
  cases known : typeNames.lookup table with
  | none =>
      -- A table without an object type is a failure, not a null.
      have refused :
          session.store.reached compiler typeNames .morphTo (some row) given field.settings =
            .error (.unknownMorphType table relation.table relation.typeColumn) := by
        simp [Database.reached, Database.opened, FieldSettings.requireMorphRelation, isRelation,
          Database.openedMorph, names, known, Except.bind]
      have executes := Database.resolve_eq_reached compiler typeNames .morphTo (some row) given
        field.settings session
      rw [refused] at executes
      have failed : (Database.resolver compiler typeNames).resolve .morphTo (some row) given
        field.settings session = (.error _, session) := executes
      rw [connected, failed] at answered
      cases answered
  | some typeName =>
      rw [connected, Resolver.resolve_morphTo isRelation names known] at answered
      obtain ⟨found, fetched, rfl⟩ := map_eq_ok answered
      obtain ⟨one, rfl⟩ := Option.isSome_iff_exists.mp
        (Database.isSome_fetchOne holds present (isKey value holds) fetched)
      exact ⟨_, rfl, fun json isJson => by cases isJson⟩

end Request.Execution

/-! ## Required fields -/

namespace PlanSource

variable {source : PlanSource} {compiler : Compiler} {typeNames : List (String × String)}
  {execution : Request.Execution Database TableSelection}

/-- What a field comes from decides how it resolves. -/
theorem isPresent_of_origin (connected : execution.resolver = Database.resolver compiler typeNames)
    {session : Session Database} (respects : session.store.Respects source.database)
    {table : Table} (described : table ∈ source.database.tables) {field : FieldPlan}
    (origin : FieldOrigin source table field) (required : field.nullable = false) {row : Row}
    (isRow : session.store.HasRow table.name row)
    (leads : ∀ relation ∈ field.settings.morphRelation, session.store.Leads relation row)
    {arguments : List (String × Json)} {value? : Option Request.FieldValue}
    (resolves : (execution.resolveField field (some row) arguments session).1 = .ok value?) :
    Request.FieldValue.IsPresent value? := by
  cases origin with
  | column planned =>
      obtain ⟨column, exposed, scalar, rfl⟩ := mem_columnFields planned
      obtain ⟨value, holds, present⟩ :=
        respects.columns table described column (List.mem_filter.mp exposed).1 required row isRow
      exact Request.Execution.isPresent_column rfl rfl rfl holds present resolves
  | @belongsTo reference declared planned =>
      obtain ⟨column, object, visible, _, rfl⟩ := belongsToField?_eq_some planned
      obtain ⟨member, named, _⟩ := Configuration.visibleColumn?_eq_some visible
      obtain ⟨value, holds, present⟩ :=
        respects.columns table described column member required row isRow
      rw [named] at holds
      have isKey :=
        respects.references table described reference declared row isRow value holds present
      exact Request.Execution.isPresent_belongsTo connected rfl rfl rfl holds present isKey resolves
  | @morphTo relation declared planned =>
      obtain ⟨_, _, rfl⟩ := morphToField?_eq_some planned
      obtain ⟨column, found, notNullable⟩ :
          ∃ column, table.column? relation.idColumn = some column ∧ column.nullable = false := by
        cases found : table.column? relation.idColumn with
        | none => simp [found] at required
        | some column => exact ⟨column, rfl, by simpa [found] using required⟩
      have named : column.name = relation.idColumn :=
        eq_of_beq
          (List.find?_some (p := fun column : Column => column.name == relation.idColumn) found)
      obtain ⟨value, holds, present⟩ := respects.columns table described column
        (List.mem_of_find?_eq_some found) notNullable row isRow
      rw [named] at holds
      exact Request.Execution.isPresent_morphTo connected rfl rfl holds present (leads relation rfl)
        resolves
  | hasMany declared planned =>
      obtain ⟨object, other, _, _, column, _, offered⟩ := mem_hasManyFieldsOf planned
      rcases mem_listAndCount.mp (mem_hasManyFields offered).2 with rfl | rfl
      · exact Request.Execution.isPresent_related (Or.inl rfl) resolves
      · exact Request.Execution.isPresent_related (Or.inr rfl) resolves
  | inverse declared owned named present target planned =>
      rcases mem_listAndCount.mp planned with rfl | rfl
      · exact Request.Execution.isPresent_related (Or.inl rfl) resolves
      · exact Request.Execution.isPresent_related (Or.inr rfl) resolves

end PlanSource

namespace SchemaPlan

variable {described : Structure} {configuration : Configuration} {mapper : ColumnTypeMapper}
  {inflector : Inflector} {patterns : PatternEngine} {plan : SchemaPlan}

/-- A field that is declared not to be null resolves to a value for every row of its table,
whenever it resolves.  A polymorphic reference does so for the rows whose type names a table
with the id as a key. -/
theorem required_fields_resolve
    (built : SchemaPlan.build described configuration mapper inflector patterns = .ok plan)
    {object : ObjectPlan} (planned : object ∈ plan.objects) {field : FieldPlan}
    (member : field ∈ object.fields) (required : field.nullable = false)
    {execution : Request.Execution Database TableSelection} {compiler : Compiler}
    {typeNames : List (String × String)}
    (connected : execution.resolver = Database.resolver compiler typeNames)
    {session : Session Database} (respects : session.store.Respects described) {row : Row}
    (isRow : session.store.HasRow object.table row)
    (leads : ∀ relation ∈ field.settings.morphRelation, session.store.Leads relation row)
    {arguments : List (String × Json)} {value? : Option Request.FieldValue}
    (resolves : (execution.resolveField field (some row) arguments session).1 = .ok value?) :
    Request.FieldValue.IsPresent value? := by
  obtain ⟨strip, _, rfl⟩ := eq_plan_of_build built
  obtain ⟨entry, named, isPlan⟩ := PlanSource.isPlanOf_objects object planned
  rw [isPlan.table] at isRow
  exact PlanSource.isPresent_of_origin connected respects (PlanSource.mem_tables_of_named named).1
    (isPlan.origin field member) required isRow leads resolves

/-! ### Comments on posts -/

private def commentable : MorphRelation :=
  ⟨"comments", "commentable_id", "commentable_type", "commentable", []⟩

private def polymorphic : Configuration :=
  { Configuration.standard with morphRelations := [commentable] }

private def discussion : Structure :=
  .ofTables
    [⟨"comments", [⟨"id", false, true, "INTEGER", none⟩, .plain "commentable_id" "INTEGER",
        ⟨"commentable_type", true, false, "TEXT", none⟩], [], []⟩,
      ⟨"posts", [⟨"id", false, true, "INTEGER", none⟩], [], []⟩]

private def commentableField : FieldPlan where
  name := "commentable"
  type := .morph
  nullable := false
  arguments := .none
  resolver := some .morphTo
  settings := { FieldSettings.blank with morphRelation := some commentable }
  description := none

/-- A comment on a post, whose type is given. -/
private def commentsTable (type : Cell) : StoredTable :=
  ⟨⟨"comments", [⟨"id", "INTEGER", true, .null⟩, ⟨"commentable_id", "INTEGER", true, .null⟩,
    ⟨"commentable_type", "TEXT", false, .null⟩], ["id"], [], [], true⟩,
    [⟨1, [.integer 1, .integer 7, type]⟩]⟩

private def postsTable : StoredTable :=
  ⟨⟨"posts", [⟨"id", "INTEGER", true, .null⟩], ["id"], [], [], true⟩, [⟨7, [.integer 7]⟩]⟩

private def discussionOf (type : Cell) : Database :=
  { Database.empty with tables := [commentsTable type, postsTable] }

private def commentOf (type : Cell) : Row :=
  ⟨"comments", [("id", .integer 1), ("commentable_id", .integer 7),
    ("commentable_type", type.toValue)]⟩

private theorem comments_discussionOf (type : Cell) :
    (discussionOf type).table? "comments" = some (commentsTable type) := by cbv

private theorem posts_discussionOf (type : Cell) :
    (discussionOf type).table? "posts" = some postsTable := by cbv

private theorem exists_planned :
    ∃ plan, SchemaPlan.build discussion polymorphic (fun _ => .string) (fun _ => []) = .ok plan ∧
      ∃ object ∈ plan.objects, object.table = "comments" ∧ commentableField ∈ object.fields := by
  obtain ⟨strip, read⟩ : ∃ strip, polymorphic.readStripPattern = .ok strip := ⟨_, by cbv⟩
  let source : PlanSource := ⟨discussion, polymorphic, fun _ => .string, fun _ => [], strip⟩
  refine ⟨source.plan, build_of_read read _ _ _, _, List.mem_cons_self, rfl, ?_⟩
  exact List.mem_cons_of_mem _ (List.mem_cons_of_mem _ (List.mem_cons_of_mem _ List.mem_cons_self))

private theorem hasRow_discussionOf (type : Cell) :
    (discussionOf type).HasRow "comments" (commentOf type) :=
  ⟨commentsTable type, _, comments_discussionOf type, List.mem_cons_self, rfl⟩

private theorem respects_discussionOf (type : Cell) : (discussionOf type).Respects discussion where
  columns := by
    have tables :
        discussion.tables =
          [⟨"comments", [⟨"id", false, true, "INTEGER", none⟩, .plain "commentable_id" "INTEGER",
            ⟨"commentable_type", true, false, "TEXT", none⟩], [], []⟩,
            ⟨"posts", [⟨"id", false, true, "INTEGER", none⟩], [], []⟩] := rfl
    rintro table described column member required row ⟨stored, held, isStored, isHeld, rfl⟩
    rw [tables] at described
    rcases List.mem_pair.mp described with rfl | rfl
    · obtain rfl : commentsTable type = stored :=
        Option.some.inj ((comments_discussionOf type).symm.trans isStored)
      obtain rfl := List.mem_singleton.mp isHeld
      rcases List.mem_cons.mp member with rfl | member
      · exact ⟨.integer 1, rfl, rfl⟩
      · rcases List.mem_pair.mp member with rfl | rfl
        · exact ⟨.integer 7, rfl, rfl⟩
        · cases required
    · obtain rfl : postsTable = stored :=
        Option.some.inj ((posts_discussionOf type).symm.trans isStored)
      obtain rfl := List.mem_singleton.mp isHeld
      obtain rfl := List.mem_singleton.mp member
      exact ⟨.integer 7, rfl, rfl⟩
  references := by
    intro table described reference declared
    have none : discussion.tables.flatMap Table.belongsTo = [] := rfl
    have among : reference ∈ discussion.tables.flatMap Table.belongsTo :=
      List.mem_flatMap.mpr ⟨table, described, declared⟩
    rw [none] at among
    cases among

/-- A request to the database of posts and comments. -/
private def discussing : Request.Execution Database TableSelection where
  schema := ⟨⟨[], []⟩, .new false, []⟩
  resolver := Database.resolver (.new false) [("posts", "posts")]
  document := ⟨[], []⟩
  operation := ⟨none, .query, [], [], []⟩
  bindings := []

/-- A comment that names the posts leads to its post. -/
theorem required_fields_resolve_post :
    ∃ value?, (discussing.resolveField commentableField (some (commentOf (.ofText "posts"))) []
        ⟨discussionOf (.ofText "posts"), ⟨none, none⟩⟩).1 = .ok value? ∧
      Request.FieldValue.IsPresent value? := by
  have connected : discussing.resolver = Database.resolver (.new false) [("posts", "posts")] := rfl
  obtain ⟨plan, built, object, planned, ofComments, member⟩ := exists_planned
  have isRow := hasRow_discussionOf (.ofText "posts")
  rw [← ofComments] at isRow
  have names : ((commentOf (.ofText "posts")).value? "commentable_type").bind Value.tableName? =
      some "posts" := by decide
  have primary : (discussionOf (.ofText "posts")).primaryKey "posts" = .ok "id" := by cbv
  have leads : (discussionOf (.ofText "posts")).Leads commentable (commentOf (.ofText "posts")) := by
    refine ⟨"posts", names, fun value holds => ?_⟩
    obtain rfl : Value.integer 7 = value := Option.some.inj holds
    exact ⟨postsTable, "id", _, posts_discussionOf _, primary, by decide, List.mem_cons_self, by cbv⟩
  obtain ⟨value?, resolves⟩ :
      ∃ value?, (discussing.resolveField commentableField (some (commentOf (.ofText "posts"))) []
        ⟨discussionOf (.ofText "posts"), ⟨none, none⟩⟩).1 = .ok value? := by
    have noArguments : Arguments.read [] = .ok .blank := rfl
    have holds : (commentOf (.ofText "posts")).value? commentable.idColumn = some (.integer 7) := rfl
    have known : (postsTable.definition.position? "id").isSome = true := by cbv
    obtain ⟨visited, _, fetched⟩ := Database.fetch_wherever (posts_discussionOf (.ofText "posts"))
      (by decide) (by decide) known (.integer 7) true
    rw [Request.Execution.resolveField_of_kind rfl rfl noArguments, connected,
      Resolver.resolve_morphTo rfl names rfl, Database.fetchOne_of_value holds rfl primary, fetched]
    exact ⟨_, rfl⟩
  refine ⟨value?, resolves, required_fields_resolve built planned member rfl connected
    (respects_discussionOf _) isRow (fun relation isRelation => ?_) resolves⟩
  obtain rfl : commentable = relation := Option.some.inj isRelation
  exact leads

/-- A comment without a type leads nowhere, although its id is a key that may not be null. -/
theorem not_required_fields_resolve :
    ∃ plan, SchemaPlan.build discussion polymorphic (fun _ => .string) (fun _ => []) = .ok plan ∧
      ∃ object ∈ plan.objects, ∃ field ∈ object.fields, field.nullable = false ∧
        (discussionOf .null).Respects discussion ∧
        (discussionOf .null).HasRow object.table (commentOf .null) ∧
        ∀ (execution : Request.Execution Database TableSelection) (compiler : Compiler),
          execution.resolver = Database.resolver compiler (Schema.typeNames plan) →
          ∃ value?, (execution.resolveField field (some (commentOf .null)) []
              ⟨discussionOf .null, ⟨none, none⟩⟩).1 = .ok value? ∧
            ¬ Request.FieldValue.IsPresent value? := by
  obtain ⟨plan, built, object, planned, ofComments, member⟩ := exists_planned
  refine ⟨plan, built, object, planned, commentableField, member, rfl, respects_discussionOf .null,
    ofComments ▸ hasRow_discussionOf .null, fun execution compiler connected => ⟨none, ?_, ?_⟩⟩
  · have noArguments : Arguments.read [] = .ok .blank := rfl
    rw [Request.Execution.resolveField_of_kind rfl rfl noArguments, connected,
      Resolver.resolve_morphTo_of_nameless rfl (by decide)]
    rfl
  · rintro ⟨value, absent, _⟩
    cases absent

end SchemaPlan

end TableGraph
