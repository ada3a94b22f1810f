import TableGraph.Proofs.Condition.Failing
import TableGraph.Proofs.Database.DescribedKeys
import TableGraph.Proofs.Plan.ExposedSettings
import TableGraph.Proofs.Resolving.References
import TableGraph.Schema.Basic

/-!
# Fields that need a key

The rows that reference a row are found through the key of its table, and the row that a
column references through the key of the other table.  A field fails for want of a key
exactly when the key it needs is not a single column (`resolve_eq_noPrimaryKey_iff`);
nothing else in its resolution asks for a key.

A plan has its relation fields whatever the keys are.  The main statement,
`SchemaPlan.relations_need_keys`, says for which tables they can be followed.
-/

namespace TableGraph

variable {First Second : Type}

/-! ## Statements -/

/-- A result that does not fail for want of a key. -/
def AsksNoKey (result : Except StoreFailure First) : Prop :=
  ∀ name, result ≠ .error (.noPrimaryKey name)

namespace AsksNoKey

theorem map {result : Except StoreFailure First} (asks : AsksNoKey result)
    (change : First → Second) : AsksNoKey (result.map change) := by
  intro name failed
  cases result with
  | ok answer => cases failed
  | error failure => exact asks name (congrArg Except.error (Except.error.inj failed))

theorem bind {result : Except StoreFailure First} {rest : First → Except StoreFailure Second}
    (asks : AsksNoKey result) (restAsks : ∀ answer, AsksNoKey (rest answer)) :
    AsksNoKey (result.bind rest) := by
  intro name failed
  cases result with
  | ok answer => exact restAsks answer name failed
  | error failure => exact asks name (congrArg Except.error (Except.error.inj failed))

end AsksNoKey

theorem Fragment.asksNoKey_place (position : Nat) (tokens : List PlaceholderToken)
    (parameters : List Parameter) : AsksNoKey (place position tokens parameters) := by
  fun_induction place position tokens parameters with
  | case1 => simp [AsksNoKey]
  | case2 position rest parameters characters inductionHypothesis =>
      exact inductionHypothesis.map _
  | case3 position rest parameter parameters inductionHypothesis =>
      exact inductionHypothesis.map _
  | case4 position rest name parameters inductionHypothesis => exact inductionHypothesis.map _
  | case5 => simp [AsksNoKey]
  | case6 => simp [AsksNoKey]
  | case7 => simp [AsksNoKey]

theorem Fragment.asksNoKey_expand (fragment : Fragment) : AsksNoKey fragment.expand := by
  rw [expand]
  split
  · simp [AsksNoKey]
  · exact asksNoKey_place 0 _ _

namespace TableSelection

theorem asksNoKey_expandPieces (pieces : List Piece) : AsksNoKey (expandPieces pieces) := by
  induction pieces with
  | nil => simp [AsksNoKey, expandPieces]
  | cons head tail inductionHypothesis =>
      rw [expandPieces]
      refine AsksNoKey.bind ?_ fun first => inductionHypothesis.map _
      cases head with
      | text written => simp [AsksNoKey, Piece.expand]
      | fragment part => exact part.asksNoKey_expand

theorem asksNoKey_render (selection : TableSelection) (head : Head) :
    AsksNoKey (selection.render head) :=
  (asksNoKey_expandPieces _).map _

end TableSelection

namespace Database

/-- A selection is executed without a key. -/
theorem asksNoKey_runSelection (selection : TableSelection) (head : TableSelection.Head)
    (run : Statement → Except String First) : AsksNoKey (runSelection selection head run).1 := by
  have renders := selection.asksNoKey_render head
  rw [runSelection, TableSelection.execute]
  cases rendered : selection.render head with
  | error failure =>
      rw [rendered] at renders
      intro name failed
      exact renders name (congrArg Except.error (Except.error.inj failed))
  | ok statement =>
      cases executed : run statement <;> simp [AsksNoKey, executed]

variable {compiler : Compiler} {typeNames : List (String × String)} {session : Session Database}
  {database : Database} {kind : ResolverKind} {row : Row} {settings : FieldSettings}
  {name table column : String}

theorem execute_ne_noPrimaryKey
    {action : StateM Database (Except StoreFailure First × TableSelection)}
    (asks : AsksNoKey (action session.store).1.1) (present : First → Resolved) (name : String) :
    ((Resolving.execute datastore action >>= fun answer => pure (present answer)) session).1 ≠
      .error (.execution (.noPrimaryKey name)) := by
  rw [Resolving.bind_pure_fst, execute_fst]
  cases executed : (action session.store).1.1 with
  | ok answer => simp [Except.mapError, Except.map]
  | error failure =>
      intro failed
      simp only [Except.mapError, Except.map, RequestError.execution, Except.error.injEq,
        RequestError.resolver.injEq, Option.some.injEq, true_and] at failed
      exact asks name (executed.trans (congrArg Except.error failed))

/-- A field fails for want of a key exactly when it reaches no selection for that reason. -/
theorem Executes.noPrimaryKey_iff {head : TableSelection.Head}
    {resolved : Except RequestError Resolved × Session Database}
    {reached : Except RequestError (Option TableSelection)}
    (executes : Executes session head resolved reached) :
    resolved.1 = .error (.execution (.noPrimaryKey name)) ↔
      reached = .error (.execution (.noPrimaryKey name)) := by
  match reached with
  | .error failure =>
      have failed : resolved = (.error failure, session) := executes
      simp [failed]
  | .ok none =>
      obtain ⟨answer, answered⟩ := executes
      simp [answered]
  | .ok (some selection) =>
      have succeeds : resolved.1 ≠ .error (.execution (.noPrimaryKey name)) := by
        cases head with
        | rows =>
            obtain ⟨present, fetched⟩ := executes
            have fetches : AsksNoKey (datastore.fetch selection session.store).1.1 :=
              asksNoKey_runSelection selection .rows _
            rw [fetched]
            exact execute_ne_noPrimaryKey fetches present name
        | count expression =>
            have counted : resolved = _ := executes
            have counts : AsksNoKey (datastore.count selection expression session.store).1.1 :=
              asksNoKey_runSelection selection (.count expression) _
            rw [counted]
            exact execute_ne_noPrimaryKey counts .count name
      simp [succeeds]

/-! ## Needed keys -/

theorem primaryKey_eq_noPrimaryKey_iff :
    database.primaryKey table = .error (.noPrimaryKey name) ↔
      table = name ∧ database.primaryKey name = .error (.noPrimaryKey name) := by
  constructor
  · intro fails
    have named : table = name := by
      simp only [primaryKey] at fails
      split at fails
      · cases fails
      · split at fails
        · exact StoreFailure.noPrimaryKey.inj (Except.error.inj fails)
        · cases Except.error.inj fails
      · exact StoreFailure.noPrimaryKey.inj (Except.error.inj fails)
    exact ⟨named, named ▸ fails⟩
  · rintro ⟨rfl, fails⟩
    exact fails

theorem related_eq_noPrimaryKey_iff :
    database.related row table column = .error (.noPrimaryKey name) ↔
      row.table = name ∧ database.primaryKey name = .error (.noPrimaryKey name) := by
  rw [← primaryKey_eq_noPrimaryKey_iff, related]
  cases database.primaryKey row.table <;> simp [Except.map]

theorem referenced_eq_noPrimaryKey_iff :
    database.referenced row table column = .error (.noPrimaryKey name) ↔
      (∃ value, row.value? column = some value ∧ value.isNull = false) ∧
        table = name ∧ database.primaryKey name = .error (.noPrimaryKey name) := by
  rw [← primaryKey_eq_noPrimaryKey_iff, referenced]
  cases holds : row.value? column with
  | none => simp [Value.isNull]
  | some value =>
      by_cases holdsNothing : value.isNull
      · simp [holdsNothing]
      · cases database.primaryKey table <;> simp [holdsNothing, Except.map]

end Database

/-- The table whose key is looked up to resolve a field of a kind for a row. -/
inductive NeedsKey (typeNames : List (String × String)) (row : Row) (settings : FieldSettings) :
    ResolverKind → String → Prop where
  | hasMany {table column : String} (isTable : settings.tableName = some table)
      (isColumn : settings.referencingColumn = some column) :
      NeedsKey typeNames row settings .hasMany row.table
  | hasManyCount {table column : String} (isTable : settings.tableName = some table)
      (isColumn : settings.referencingColumn = some column) :
      NeedsKey typeNames row settings .hasManyCount row.table
  /-- A column that holds nothing is not followed. -/
  | belongsTo {table column : String} {value : Value} (isTable : settings.tableName = some table)
      (isColumn : settings.referencingColumn = some column)
      (holds : row.value? column = some value) (present : value.isNull = false) :
      NeedsKey typeNames row settings .belongsTo table
  | morphTo {relation : MorphRelation} {table typeName : String} {value : Value}
      (isRelation : settings.morphRelation = some relation)
      (names : (row.value? relation.typeColumn).bind Value.tableName? = some table)
      (isType : typeNames.lookup table = some typeName)
      (holds : row.value? relation.idColumn = some value) (present : value.isNull = false) :
      NeedsKey typeNames row settings .morphTo table

namespace NeedsKey

variable {typeNames : List (String × String)} {row : Row} {settings : FieldSettings}
  {name : String}

theorem many_iff {kind : ResolverKind} (isMany : kind = .hasMany ∨ kind = .hasManyCount) :
    NeedsKey typeNames row settings kind name ↔
      (∃ table column, settings.tableName = some table ∧
          settings.referencingColumn = some column) ∧ row.table = name := by
  constructor
  · intro needs
    cases needs with
    | hasMany isTable isColumn => exact ⟨⟨_, _, isTable, isColumn⟩, rfl⟩
    | hasManyCount isTable isColumn => exact ⟨⟨_, _, isTable, isColumn⟩, rfl⟩
    | belongsTo => simp at isMany
    | morphTo => simp at isMany
  · rintro ⟨⟨table, column, isTable, isColumn⟩, rfl⟩
    rcases isMany with rfl | rfl
    · exact .hasMany isTable isColumn
    · exact .hasManyCount isTable isColumn

theorem belongsTo_iff :
    NeedsKey typeNames row settings .belongsTo name ↔
      settings.tableName = some name ∧ ∃ column, settings.referencingColumn = some column ∧
        ∃ value, row.value? column = some value ∧ value.isNull = false := by
  constructor
  · intro needs
    cases needs with
    | belongsTo isTable isColumn holds present =>
        exact ⟨isTable, _, isColumn, _, holds, present⟩
  · rintro ⟨isTable, column, isColumn, value, holds, present⟩
    exact .belongsTo isTable isColumn holds present

theorem morphTo_iff :
    NeedsKey typeNames row settings .morphTo name ↔
      ∃ relation, settings.morphRelation = some relation ∧
        (row.value? relation.typeColumn).bind Value.tableName? = some name ∧
          (∃ typeName, typeNames.lookup name = some typeName) ∧
          ∃ value, row.value? relation.idColumn = some value ∧ value.isNull = false := by
  constructor
  · intro needs
    cases needs with
    | morphTo isRelation names isType holds present =>
        exact ⟨_, isRelation, names, ⟨_, isType⟩, _, holds, present⟩
  · rintro ⟨relation, isRelation, names, ⟨typeName, isType⟩, value, holds, present⟩
    exact .morphTo isRelation names isType holds present

end NeedsKey

theorem requireSetting_ne_execution {setting : Option String} {label : String}
    {failure : StoreFailure} : requireSetting label setting ≠ .error (.execution failure) := by
  cases setting <;> simp [requireSetting, RequestError.missingSetting, RequestError.execution]

theorem requireSetting_bind_eq_execution_iff {setting : Option String} {label : String}
    {failure : StoreFailure} {rest : String → Except RequestError First} :
    (requireSetting label setting).bind rest = .error (.execution failure) ↔
      ∃ value, setting = some value ∧ rest value = .error (.execution failure) := by
  cases setting <;>
    simp [requireSetting, Except.bind, RequestError.missingSetting, RequestError.execution]

theorem requireMorphRelation_bind_eq_execution_iff {settings : FieldSettings}
    {failure : StoreFailure} {rest : MorphRelation → Except RequestError First} :
    settings.requireMorphRelation.bind rest = .error (.execution failure) ↔
      ∃ relation, settings.morphRelation = some relation ∧
        rest relation = .error (.execution failure) := by
  rw [FieldSettings.requireMorphRelation]
  cases settings.morphRelation <;>
    simp [Except.bind, RequestError.missingSetting, RequestError.execution]

theorem mapError_execution_eq_iff {result : Except StoreFailure First} {failure : StoreFailure} :
    result.mapError RequestError.execution = .error (.execution failure) ↔
      result = .error failure := by
  cases result <;> simp [Except.mapError, RequestError.execution]

theorem map_eq_error_iff {result : Except RequestError First} {failure : RequestError}
    {change : First → Second} : result.map change = .error failure ↔ result = .error failure := by
  cases result <;> simp [Except.map]

namespace Database

variable {compiler : Compiler} {typeNames : List (String × String)} {session : Session Database}
  {database : Database} {kind : ResolverKind} {row : Row} {settings : FieldSettings}
  {name table column : String}

theorem openedRelated_eq_noPrimaryKey_iff :
    database.openedRelated row settings = .error (.execution (.noPrimaryKey name)) ↔
      (∃ table column, settings.tableName = some table ∧
          settings.referencingColumn = some column) ∧
        row.table = name ∧ database.primaryKey name = .error (.noPrimaryKey name) := by
  simp only [openedRelated, FieldSettings.requireTable, FieldSettings.requireColumn,
    requireSetting_bind_eq_execution_iff, map_eq_error_iff, mapError_execution_eq_iff,
    related_eq_noPrimaryKey_iff]
  constructor
  · rintro ⟨table, isTable, column, isColumn, fails⟩
    exact ⟨⟨table, column, isTable, isColumn⟩, fails⟩
  · rintro ⟨⟨table, column, isTable, isColumn⟩, fails⟩
    exact ⟨table, isTable, column, isColumn, fails⟩

theorem openedMorph_eq_noPrimaryKey_iff {relation : MorphRelation} :
    database.openedMorph typeNames row relation = .error (.execution (.noPrimaryKey name)) ↔
      ((row.value? relation.typeColumn).bind Value.tableName? = some name ∧
          (∃ typeName, typeNames.lookup name = some typeName) ∧
          ∃ value, row.value? relation.idColumn = some value ∧ value.isNull = false) ∧
        database.primaryKey name = .error (.noPrimaryKey name) := by
  rw [openedMorph]
  cases names : (row.value? relation.typeColumn).bind Value.tableName? with
  | none => simp
  | some stored =>
      cases isType : typeNames.lookup stored with
      | none =>
          simp only [isType]
          constructor
          · intro fails
            simp [RequestError.unknownMorphType, RequestError.execution] at fails
          · rintro ⟨⟨same, ⟨typeName, known⟩, _⟩, _⟩
            rw [← Option.some.inj same, isType] at known
            cases known
      | some typeName =>
          simp only [isType]
          refine mapError_execution_eq_iff.trans (referenced_eq_noPrimaryKey_iff.trans ?_)
          constructor
          · rintro ⟨holds, rfl, fails⟩
            exact ⟨⟨rfl, ⟨typeName, isType⟩, holds⟩, fails⟩
          · rintro ⟨⟨same, _, holds⟩, fails⟩
            exact ⟨holds, Option.some.inj same, fails⟩

/-- A field opens no rows for want of a key exactly when the key it needs is no single
column. -/
theorem opened_eq_noPrimaryKey_iff :
    database.opened typeNames kind (some row) settings = .error (.execution (.noPrimaryKey name)) ↔
      NeedsKey typeNames row settings kind name ∧
        database.primaryKey name = .error (.noPrimaryKey name) := by
  cases kind with
  | table =>
      refine map_eq_error_iff.trans (map_eq_error_iff.trans ⟨fun failed => ?_, fun needs => ?_⟩)
      · exact absurd failed requireSetting_ne_execution
      · cases needs.1
  | tableCount =>
      refine map_eq_error_iff.trans (map_eq_error_iff.trans ⟨fun failed => ?_, fun needs => ?_⟩)
      · exact absurd failed requireSetting_ne_execution
      · cases needs.1
  | hasMany =>
      rw [NeedsKey.many_iff (Or.inl rfl), and_assoc]
      exact map_eq_error_iff.trans openedRelated_eq_noPrimaryKey_iff
  | hasManyCount =>
      rw [NeedsKey.many_iff (Or.inr rfl), and_assoc]
      exact map_eq_error_iff.trans openedRelated_eq_noPrimaryKey_iff
  | belongsTo =>
      simp only [opened, FieldSettings.requireTable, FieldSettings.requireColumn,
        requireSetting_bind_eq_execution_iff, mapError_execution_eq_iff,
        referenced_eq_noPrimaryKey_iff, NeedsKey.belongsTo_iff]
      constructor
      · rintro ⟨table, isTable, column, isColumn, holds, rfl, fails⟩
        exact ⟨⟨isTable, column, isColumn, holds⟩, fails⟩
      · rintro ⟨⟨isTable, column, isColumn, holds⟩, fails⟩
        exact ⟨name, isTable, column, isColumn, holds, rfl, fails⟩
  | morphTo =>
      simp only [opened, requireMorphRelation_bind_eq_execution_iff,
        openedMorph_eq_noPrimaryKey_iff, NeedsKey.morphTo_iff]
      constructor
      · rintro ⟨relation, isRelation, reads, fails⟩
        exact ⟨⟨relation, isRelation, reads⟩, fails⟩
      · rintro ⟨⟨relation, isRelation, reads⟩, fails⟩
        exact ⟨relation, isRelation, reads, fails⟩

theorem reached_eq_noPrimaryKey_iff (compiler : Compiler) (arguments : Arguments) :
    database.reached compiler typeNames kind (some row) arguments settings =
        .error (.execution (.noPrimaryKey name)) ↔
      database.opened typeNames kind (some row) settings =
        .error (.execution (.noPrimaryKey name)) := by
  have compiles := compiler.failsToCompile_argumentCalls (kind.applied arguments)
  rw [reached]
  rcases database.opened typeNames kind (some row) settings with failure | _ | selection
  · simp [Except.bind]
  · simp [Except.bind, narrowed]
  · simp only [Except.bind, narrowed, map_eq_error_iff]
    constructor
    · intro failed
      obtain ⟨reason, compile⟩ := compiles _ failed
      cases compile
    · intro failed
      cases failed

/-- A field fails for want of a key exactly when the key it needs is no single column. -/
theorem resolve_eq_noPrimaryKey_iff (compiler : Compiler) (arguments : Arguments) :
    ((resolver compiler typeNames).resolve kind (some row) arguments settings session).1 =
        .error (.execution (.noPrimaryKey name)) ↔
      NeedsKey typeNames row settings kind name ∧
        session.store.primaryKey name = .error (.noPrimaryKey name) := by
  have executes :=
    resolve_eq_reached compiler typeNames kind (some row) arguments settings session
  calc
    _ ↔ _ := executes.noPrimaryKey_iff
    _ ↔ _ := reached_eq_noPrimaryKey_iff compiler arguments
    _ ↔ _ := opened_eq_noPrimaryKey_iff

end Database

/-! ## Planned fields -/

/-- A table that is described without a key of one column. -/
def Structure.LacksKey (described : Structure) (name : String) : Prop :=
  ∃ table ∈ described.tables, table.name = name ∧ table.primaryKey? = none

/-- What a field follows: nothing, or a reference in one of the directions. -/
inductive FieldPlan.Follows (source : PlanSource) (field : FieldPlan) : Prop where
  | column (resolver : field.resolver = none)
  | belongsTo {table column : String} (resolver : field.resolver = some .belongsTo)
      (isTable : field.settings.tableName = some table)
      (isColumn : field.settings.referencingColumn = some column)
      (exposed : source.isExposed table = true)
  | hasMany {kind : ResolverKind} {table column : String}
      (isMany : kind = .hasMany ∨ kind = .hasManyCount) (resolver : field.resolver = some kind)
      (isTable : field.settings.tableName = some table)
      (isColumn : field.settings.referencingColumn = some column)
  | morphTo {relation : MorphRelation} (resolver : field.resolver = some .morphTo)
      (isRelation : field.settings.morphRelation = some relation)

namespace PlanSource

variable {source : PlanSource} {field : FieldPlan}

theorem follows_listAndCount {name object table column : String} {settings : FieldSettings}
    (isTable : settings.tableName = some table) (isColumn : settings.referencingColumn = some column)
    (planned : field ∈ listAndCount name object settings) : field.Follows source := by
  rcases mem_listAndCount.mp planned with rfl | rfl
  · exact .hasMany (Or.inl rfl) rfl isTable isColumn
  · exact .hasMany (Or.inr rfl) rfl isTable isColumn

theorem follows_of_origin {table : Table} (origin : FieldOrigin source table field) :
    field.Follows source := by
  cases origin with
  | column planned =>
      obtain ⟨column, _, scalar, rfl⟩ := mem_columnFields planned
      exact .column rfl
  | belongsTo declared planned =>
      obtain ⟨column, typeName, _, named, rfl⟩ := belongsToField?_eq_some planned
      exact .belongsTo rfl rfl rfl (isSome_objectOf?.mp (Option.isSome_of_eq_some named))
  | morphTo declared planned =>
      obtain ⟨_, _, rfl⟩ := morphToField?_eq_some planned
      exact .morphTo rfl rfl
  | hasMany declared planned =>
      obtain ⟨typeName, other, _, _, column, _, offered⟩ := mem_hasManyFieldsOf planned
      exact follows_listAndCount rfl rfl (mem_hasManyFields offered).2
  | inverse declared owned named present target planned =>
      exact follows_listAndCount rfl rfl planned

theorem follows_objects {object : ObjectPlan} (planned : object ∈ source.plan.objects)
    (member : field ∈ object.fields) : field.Follows source := by
  obtain ⟨entry, _, isPlan⟩ := isPlanOf_objects object planned
  exact follows_of_origin (isPlan.origin field member)

theorem isExposed_of_object {table : String}
    (isObject : table ∈ source.plan.objects.map ObjectPlan.table) :
    source.isExposed table = true := by
  obtain ⟨object, planned, rfl⟩ := List.mem_map.mp isObject
  obtain ⟨entry, named, isPlan⟩ := isPlanOf_objects object planned
  exact isExposed_iff.mpr ⟨entry, named, isPlan.table.symm⟩

theorem isSome_typeNames {table : String} :
    ((Schema.typeNames source.plan).lookup table).isSome = true ↔
      table ∈ source.plan.objects.map ObjectPlan.table := by
  rw [Schema.typeNames, isSome_lookup_pairsOf, List.map_map]
  rfl

/-- The key of an exposed table is missing when the table is described so. -/
theorem primaryKey_eq_error_iff_lacksKey {database : Database} {name : String}
    (keys : database.HasKeysOf source.database) (exposed : source.isExposed name = true) :
    database.primaryKey name = .error (.noPrimaryKey name) ↔ source.database.LacksKey name := by
  obtain ⟨entry, named, rfl⟩ := isExposed_iff.mp exposed
  have described := (mem_tables_of_named named).1
  constructor
  · intro fails
    exact ⟨entry.1, described, rfl, (keys.primaryKey_eq_error_iff described).mp fails⟩
  · rintro ⟨table, isTable, sameName, lacks⟩
    rw [← sameName]
    exact (keys.primaryKey_eq_error_iff isTable).mpr lacks

end PlanSource

namespace SchemaPlan

variable {described : Structure} {configuration : Configuration} {mapper : ColumnTypeMapper}
  {inflector : Inflector} {patterns : PatternEngine} {plan : SchemaPlan}

/-- A planned field fails for want of a key in these cases only: one of many rows, or of their
count, when its own table has no key of one column; one of a reference when the other table
has none and the column holds a value. -/
theorem relations_need_keys
    (built : SchemaPlan.build described configuration mapper inflector patterns = .ok plan)
    {session : Session Database} (keys : session.store.HasKeysOf described)
    {object : ObjectPlan} (planned : object ∈ plan.objects) {field : FieldPlan}
    (member : field ∈ object.fields) {row : Row} (isRow : row.table = object.table)
    (compiler : Compiler) (arguments : Arguments) :
    let fails (kind : ResolverKind) (name : String) : Prop :=
      ((Database.resolver compiler (Schema.typeNames plan)).resolve kind (some row) arguments
        field.settings session).1 = .error (.execution (.noPrimaryKey name))
    (∀ kind, kind = .hasMany ∨ kind = .hasManyCount → field.resolver = some kind →
        ∀ name, fails kind name ↔ name = object.table ∧ described.LacksKey name) ∧
      (field.resolver = some .belongsTo →
        ∃ table column, field.settings.tableName = some table ∧
          field.settings.referencingColumn = some column ∧
          ∀ name, fails .belongsTo name ↔ name = table ∧ described.LacksKey name ∧
            ∃ value, row.value? column = some value ∧ value.isNull = false) ∧
      (field.resolver = some .morphTo →
        ∃ relation, field.settings.morphRelation = some relation ∧
          ∀ name, fails .morphTo name ↔
            (row.value? relation.typeColumn).bind Value.tableName? = some name ∧
              name ∈ plan.objects.map ObjectPlan.table ∧ described.LacksKey name ∧
              ∃ value, row.value? relation.idColumn = some value ∧ value.isNull = false) := by
  intro fails
  obtain ⟨strip, _, rfl⟩ := eq_plan_of_build built
  let source : PlanSource := ⟨described, configuration, mapper, inflector, strip⟩
  have follows : field.Follows source := PlanSource.follows_objects planned member
  have lacks {name : String} (exposed : source.isExposed name = true) :=
    PlanSource.primaryKey_eq_error_iff_lacksKey keys exposed
  have needs (kind : ResolverKind) (name : String) :
      fails kind name ↔
        NeedsKey (Schema.typeNames source.plan) row field.settings kind name ∧
          session.store.primaryKey name = .error (.noPrimaryKey name) :=
    Database.resolve_eq_noPrimaryKey_iff compiler arguments
  cases follows with
  | column resolver => simp [resolver]
  | @belongsTo table column resolver isTable isColumn exposed =>
      refine ⟨by simp [resolver], fun _ => ⟨table, column, isTable, isColumn, fun name => ?_⟩,
        by simp [resolver]⟩
      rw [needs]
      constructor
      · rintro ⟨needsKey, failed⟩
        cases needsKey with
        | belongsTo isOther isPlace holds present =>
            obtain rfl := Option.some.inj (isTable.symm.trans isOther)
            obtain rfl := Option.some.inj (isColumn.symm.trans isPlace)
            exact ⟨rfl, (lacks exposed).mp failed, _, holds, present⟩
      · rintro ⟨rfl, lacksKey, value, holds, present⟩
        exact ⟨.belongsTo isTable isColumn holds present, (lacks exposed).mpr lacksKey⟩
  | hasMany isMany resolver isTable isColumn =>
      have isObject : object.table ∈ source.plan.objects.map ObjectPlan.table :=
        List.mem_map_of_mem planned
      have exposed := PlanSource.isExposed_of_object isObject
      refine ⟨fun kind _ isKind name => ?_, fun isKind => ?_, fun isKind => ?_⟩
      · obtain rfl := Option.some.inj (resolver.symm.trans isKind)
        rw [needs, ← isRow]
        constructor
        · rintro ⟨needsKey, failed⟩
          rcases isMany with rfl | rfl
          · cases needsKey
            exact ⟨rfl, (lacks (isRow ▸ exposed)).mp failed⟩
          · cases needsKey
            exact ⟨rfl, (lacks (isRow ▸ exposed)).mp failed⟩
        · rintro ⟨rfl, lacksKey⟩
          refine ⟨?_, (lacks (isRow ▸ exposed)).mpr lacksKey⟩
          rcases isMany with rfl | rfl
          · exact .hasMany isTable isColumn
          · exact .hasManyCount isTable isColumn
      · rcases isMany with rfl | rfl <;> simp [resolver] at isKind
      · rcases isMany with rfl | rfl <;> simp [resolver] at isKind
  | @morphTo relation resolver isRelation =>
      refine ⟨fun kind isMany isKind => ?_, by simp [resolver],
        fun _ => ⟨relation, isRelation, fun name => ?_⟩⟩
      · rcases isMany with rfl | rfl <;> simp [resolver] at isKind
      · rw [needs]
        constructor
        · rintro ⟨needsKey, failed⟩
          cases needsKey with
          | morphTo isOther names isType holds present =>
              obtain rfl := Option.some.inj (isRelation.symm.trans isOther)
              have isObject := PlanSource.isSome_typeNames.mp (Option.isSome_of_eq_some isType)
              have exposed := PlanSource.isExposed_of_object isObject
              exact ⟨names, isObject, (lacks exposed).mp failed, _, holds, present⟩
        · rintro ⟨names, isObject, lacksKey, value, holds, present⟩
          obtain ⟨typeName, isType⟩ :=
            Option.isSome_iff_exists.mp (PlanSource.isSome_typeNames.mpr isObject)
          have exposed := PlanSource.isExposed_of_object isObject
          exact ⟨.morphTo isRelation names isType holds present, (lacks exposed).mpr lacksKey⟩

/-! ### Tags without a key -/

private def tagsTable : StoredTable :=
  ⟨⟨"tags", [⟨"name", "TEXT", true, .null⟩], [], [["name"]], [], true⟩, [⟨1, [.ofText "lean"]⟩]⟩

private def articlesTable : StoredTable :=
  ⟨⟨"articles", [⟨"id", "INTEGER", true, .null⟩, ⟨"tag_id", "TEXT", false, .null⟩], ["id"], [],
    [⟨["tag_id"], "tags", ["name"]⟩], true⟩, [⟨1, [.integer 1, .ofText "lean"]⟩]⟩

/-- An article refers to the name of its tag, which is unique but no key. -/
private def archive : Database := { Database.empty with tables := [tagsTable, articlesTable] }

private def archiveStructure : Structure where
  tables :=
    [⟨"articles", [⟨"id", false, true, "INTEGER", none⟩, ⟨"tag_id", true, false, "TEXT", none⟩],
        [("tag_id", "tags")], []⟩,
      ⟨"tags", [⟨"name", false, false, "TEXT", none⟩], [], [("articles", ["tag_id"])]⟩]

private theorem introspect_archive : archive.introspect = archiveStructure := by decide +kernel

private def tagSettings : FieldSettings :=
  { FieldSettings.blank with tableName := some "tags", referencingColumn := some "tag_id" }

private def articlesSettings : FieldSettings :=
  { FieldSettings.blank with tableName := some "articles", referencingColumn := some "tag_id" }

private def relationsOf (plan : SchemaPlan) : List (String × ResolverKind × FieldSettings) :=
  plan.objects.flatMap fun object =>
    object.fields.filterMap fun field =>
      field.resolver.map fun kind => (object.table, kind, field.settings)

private theorem relationsOf_archive :
    (SchemaPlan.build archiveStructure .standard nativeTypeMapper fun _ => []).toOption.map
        relationsOf =
      some [("articles", .belongsTo, tagSettings), ("tags", .hasMany, articlesSettings),
        ("tags", .hasManyCount, articlesSettings)] := by
  decide +kernel

private theorem exists_field {plan : SchemaPlan} {table : String} {kind : ResolverKind}
    {settings : FieldSettings} (among : (table, kind, settings) ∈ relationsOf plan) :
    ∃ object ∈ plan.objects, object.table = table ∧ ∃ field ∈ object.fields,
      field.resolver = some kind ∧ field.settings = settings := by
  obtain ⟨object, planned, among⟩ := List.mem_flatMap.mp among
  obtain ⟨field, member, same⟩ := List.mem_filterMap.mp among
  obtain ⟨found, resolver, same⟩ := Option.map_eq_some_iff.mp same
  obtain ⟨rfl, rest⟩ := Prod.mk.inj same
  obtain ⟨rfl, rfl⟩ := Prod.mk.inj rest
  exact ⟨object, planned, rfl, field, member, resolver, rfl⟩

private theorem exists_archivePlan :
    ∃ plan, SchemaPlan.build archiveStructure .standard nativeTypeMapper (fun _ => []) = .ok plan ∧
      relationsOf plan = [("articles", .belongsTo, tagSettings),
        ("tags", .hasMany, articlesSettings), ("tags", .hasManyCount, articlesSettings)] := by
  have relations := relationsOf_archive
  cases built : SchemaPlan.build archiveStructure .standard nativeTypeMapper fun _ => [] with
  | error failure => simp [built, Except.toOption] at relations
  | ok plan =>
      rw [built] at relations
      exact ⟨plan, rfl, Option.some.inj relations⟩

private theorem hasKeysOf_archive : archive.HasKeysOf archiveStructure := by
  intro table member
  rcases List.mem_pair.mp member with rfl | rfl
  · exact ⟨articlesTable, by cbv, rfl, by decide⟩
  · exact ⟨tagsTable, by cbv, rfl, by decide⟩

private theorem lacksKey_tags : archiveStructure.LacksKey "tags" :=
  ⟨_, List.mem_cons_of_mem _ List.mem_cons_self, rfl, rfl⟩

private def tagRow : Row := ⟨"tags", [("name", .text "lean")]⟩

private def articleRow (tag : Value) : Row := ⟨"articles", [("id", .integer 1), ("tag_id", tag)]⟩

/-- An article without a tag has none, and the tag of another one is not found. -/
theorem relations_need_keys_articles :
    archive.introspect = archiveStructure ∧ archive.HasKeysOf archiveStructure ∧
      ∃ plan, SchemaPlan.build archiveStructure .standard nativeTypeMapper (fun _ => []) =
          .ok plan ∧
        ∃ object ∈ plan.objects, object.table = "articles" ∧ ∃ field ∈ object.fields,
          field.resolver = some .belongsTo ∧ ∀ tag compiler arguments name,
            ((Database.resolver compiler (Schema.typeNames plan)).resolve .belongsTo
                (some (articleRow tag)) arguments field.settings ⟨archive, ⟨none, none⟩⟩).1 =
              .error (.execution (.noPrimaryKey name)) ↔
            name = "tags" ∧ tag.isNull = false := by
  obtain ⟨plan, built, relations⟩ := exists_archivePlan
  obtain ⟨object, planned, ofArticles, field, member, resolver, settings⟩ :=
    exists_field (relations ▸ List.mem_cons_self)
  refine ⟨introspect_archive, hasKeysOf_archive, plan, built, object, planned, ofArticles, field,
    member, resolver, fun tag compiler arguments name => ?_⟩
  have keys : (⟨archive, ⟨none, none⟩⟩ : Session Database).store.HasKeysOf archiveStructure :=
    hasKeysOf_archive
  have isRow : (articleRow tag).table = object.table := ofArticles.symm
  obtain ⟨_, follows, _⟩ :=
    relations_need_keys built keys planned member isRow compiler arguments
  obtain ⟨table, column, isTable, isColumn, fails⟩ := follows resolver
  rw [settings] at isTable isColumn
  obtain rfl : "tags" = table := Option.some.inj isTable
  obtain rfl : "tag_id" = column := Option.some.inj isColumn
  refine (fails name).trans ?_
  have holds : (articleRow tag).value? "tag_id" = some tag := rfl
  constructor
  · rintro ⟨named, _, value, isTag, present⟩
    obtain rfl := Option.some.inj (holds.symm.trans isTag)
    exact ⟨named, present⟩
  · rintro ⟨rfl, present⟩
    exact ⟨rfl, lacksKey_tags, tag, holds, present⟩

/-- Tags and articles are described without a key of tags, and yet lead to each other in the
plan; both directions fail. -/
theorem not_relations_have_keys :
    archive.introspect = archiveStructure ∧ archiveStructure.LacksKey "tags" ∧
      ∃ plan, SchemaPlan.build archiveStructure .standard nativeTypeMapper (fun _ => []) =
          .ok plan ∧
        (∃ object ∈ plan.objects, object.table = "tags" ∧ ∃ field ∈ object.fields,
          field.resolver = some .hasMany ∧
            ((Database.resolver (.new false) (Schema.typeNames plan)).resolve .hasMany
                (some tagRow) .blank field.settings ⟨archive, ⟨none, none⟩⟩).1 =
              .error (.execution (.noPrimaryKey "tags"))) ∧
        ∃ object ∈ plan.objects, object.table = "articles" ∧ ∃ field ∈ object.fields,
          field.resolver = some .belongsTo ∧ field.settings.tableName = some "tags" ∧
            ((Database.resolver (.new false) (Schema.typeNames plan)).resolve .belongsTo
                (some (articleRow (.text "lean"))) .blank field.settings
                ⟨archive, ⟨none, none⟩⟩).1 =
              .error (.execution (.noPrimaryKey "tags")) := by
  obtain ⟨plan, built, relations⟩ := exists_archivePlan
  obtain ⟨tags, isTags, ofTags, articlesField, inTags, lists, articlesSet⟩ :=
    exists_field (relations ▸ List.mem_cons_of_mem _ List.mem_cons_self)
  obtain ⟨articles, isArticles, ofArticles, tagField, inArticles, refers, tagSet⟩ :=
    exists_field (relations ▸ List.mem_cons_self)
  have lacks : archive.primaryKey "tags" = .error (.noPrimaryKey "tags") := by cbv
  refine ⟨introspect_archive, lacksKey_tags, plan, built,
    ⟨tags, isTags, ofTags, articlesField, inTags, lists, ?_⟩,
    articles, isArticles, ofArticles, tagField, inArticles, refers, by rw [tagSet]; rfl, ?_⟩
  · rw [articlesSet]
    exact (Database.resolve_eq_noPrimaryKey_iff _ _).mpr ⟨.hasMany rfl rfl, lacks⟩
  · rw [tagSet]
    exact (Database.resolve_eq_noPrimaryKey_iff _ _).mpr ⟨.belongsTo rfl rfl rfl rfl, lacks⟩

end SchemaPlan

end TableGraph
