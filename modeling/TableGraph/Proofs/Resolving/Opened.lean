import Mathlib
import TableGraph.Proofs.Plan.ExposedSettings
import TableGraph.Proofs.Resolving.TypedFields

/-!
# Which tables are opened

A watched datastore keeps a record of the tables it opened selections of.  Otherwise it is
the datastore itself: `Resolver.erases_resolve` says that watching changes no answer, no
store and no log.

The main statement, `SchemaPlan.reaches_only_exposed`, is that no hidden part of a
database is reached through a plan.  The settings of its fields name nothing that is
hidden, and a polymorphic reference, whose table stands in a row, is followed to tables
with an object type only.
-/

namespace TableGraph

variable {State Selection First Second : Type}

namespace Datastore

/-- A call of which some tables are recorded. -/
def recording (tables : List String) (call : StateM State First) :
    StateM (State × List String) First := fun watch =>
  ((call watch.1).1, (call watch.1).2, watch.2 ++ tables)

/-- A datastore that records the tables it opens selections of. -/
def watched (datastore : Datastore State Selection) :
    Datastore (State × List String) Selection where
  readStructure := recording [] datastore.readStructure
  readVersion := recording [] datastore.readVersion
  openTable table := recording [table] (datastore.openTable table)
  openRelated row table column := recording [table] (datastore.openRelated row table column)
  openReferenced row table column := recording [table] (datastore.openReferenced row table column)
  narrow selection call := recording [] (datastore.narrow selection call)
  fetch selection := recording [] (datastore.fetch selection)
  count selection expression := recording [] (datastore.count selection expression)
  statement := datastore.statement
  elapsed watch := datastore.elapsed watch.1

theorem narrowAll_watched (datastore : Datastore State Selection) (selection : Selection)
    (calls : List Narrowing) :
    datastore.watched.narrowAll selection calls =
      recording [] (datastore.narrowAll selection calls) := by
  funext watch
  induction calls generalizing selection watch with
  | nil =>
      change (selection, watch) = (selection, watch.1, watch.2 ++ [])
      rw [List.append_nil]
  | cons head tail inductionHypothesis =>
      have narrowed := inductionHypothesis (datastore.narrow selection head watch.1).1
        ((datastore.narrow selection head watch.1).2, watch.2 ++ [])
      refine narrowed.trans ?_
      simp only [recording, List.append_nil]
      rfl

end Datastore

/-- A session whose tables are not watched. -/
def Session.unwatched (session : Session (State × List String)) : Session State :=
  ⟨session.store.1, session.logs⟩

def Resolver.watched (resolver : Resolver State Selection) :
    Resolver (State × List String) Selection :=
  ⟨resolver.datastore.watched, resolver.compiler, resolver.typeNames⟩

/-! ## Watching changes nothing -/

namespace Resolving

/-- A computation that is another one but for what it records. -/
def Erases (watched : Resolving (State × List String) First) (plain : Resolving State First) :
    Prop :=
  ∀ session, plain session.unwatched = ((watched session).1, (watched session).2.unwatched)

theorem erases_pure (answer : First) :
    Erases (pure answer : Resolving (State × List String) First) (pure answer) := fun _ => rfl

theorem erases_throw (failure : RequestError) :
    Erases (throw failure : Resolving (State × List String) First) (throw failure) := fun _ => rfl

theorem erases_lift (result : Except RequestError First) :
    Erases (liftM result : Resolving (State × List String) First) (liftM result) := by
  intro session
  rw [lift_eq, lift_eq]

theorem Erases.bind {watched : Resolving (State × List String) First}
    {plain : Resolving State First} (erases : Erases watched plain)
    {watchedRest : First → Resolving (State × List String) Second}
    {plainRest : First → Resolving State Second}
    (restErases : ∀ answer, Erases (watchedRest answer) (plainRest answer)) :
    Erases (watched >>= watchedRest) (plain >>= plainRest) := by
  intro session
  have same := erases session
  cases acts : watched session with
  | mk result next =>
      rw [acts] at same
      cases result with
      | error failure => rw [bind_of_error acts, bind_of_error same]
      | ok answer =>
          rw [bind_of_ok acts, bind_of_ok same]
          exact restErases answer next

theorem erases_call (tables : List String) (call : StateM State First) :
    Erases (Resolving.call (Datastore.recording tables call)) (Resolving.call call) :=
  fun _ => rfl

theorem erases_attempt (tables : List String) (call : StateM State (Except StoreFailure First)) :
    Erases (attempt (Datastore.recording tables call)) (attempt call) := by
  apply (erases_call tables call).bind
  intro result
  cases result with
  | error failure => exact erases_throw _
  | ok answer => exact erases_pure answer

theorem erases_execute (datastore : Datastore State Selection)
    (run : StateM State (Except StoreFailure First × Selection)) :
    Erases (execute datastore.watched (Datastore.recording [] run)) (execute datastore run) := by
  apply (erases_call [] run).bind
  rintro ⟨outcome, selection⟩
  have recorded : Erases (record datastore.watched outcome selection)
      (record datastore outcome selection) := fun _ => rfl
  apply recorded.bind
  intro _
  cases outcome with
  | error failure => exact erases_throw _
  | ok answer => exact erases_pure answer

end Resolving

namespace Resolver

open Resolving

variable (resolver : Resolver State Selection)

theorem erases_narrowAll (selection : Selection) (calls : List Narrowing) :
    Erases (Resolving.call (resolver.watched.datastore.narrowAll selection calls))
      (Resolving.call (resolver.datastore.narrowAll selection calls)) := by
  have narrowed := resolver.datastore.narrowAll_watched selection calls
  change Erases (Resolving.call (resolver.datastore.watched.narrowAll selection calls)) _
  rw [narrowed]
  exact erases_call [] _

theorem erases_narrow (selection : Selection) (compiled : Except RequestError (List Narrowing)) :
    Erases (resolver.watched.narrow selection compiled) (resolver.narrow selection compiled) := by
  apply (erases_lift compiled).bind
  intro calls
  exact resolver.erases_narrowAll selection calls

theorem erases_fetch (selection : Selection) (arguments : Arguments) :
    Erases (resolver.watched.fetch selection arguments) (resolver.fetch selection arguments) := by
  apply (resolver.erases_narrow selection _).bind
  intro narrowed
  exact erases_execute resolver.datastore _

theorem erases_count (selection : Selection) (arguments : Arguments) :
    Erases (resolver.watched.count selection arguments) (resolver.count selection arguments) := by
  apply (resolver.erases_narrow selection _).bind
  intro narrowed
  exact erases_execute resolver.datastore _

theorem erases_openTable (settings : FieldSettings) :
    Erases (resolver.watched.openTable settings) (resolver.openTable settings) := by
  apply (erases_lift settings.requireTable).bind
  intro table
  exact erases_call [table] _

theorem erases_openRelated (row : Row) (settings : FieldSettings) :
    Erases (resolver.watched.openRelated row settings) (resolver.openRelated row settings) := by
  apply (erases_lift settings.requireTable).bind
  intro table
  apply (erases_lift settings.requireColumn).bind
  intro column
  apply (erases_attempt [table] (resolver.datastore.openRelated row table column)).bind
  intro selection
  exact resolver.erases_narrowAll selection _

theorem erases_fetchOne (row : Row) (table column : String) :
    Erases (resolver.watched.fetchOne row table column) (resolver.fetchOne row table column) := by
  apply (erases_attempt [table] (resolver.datastore.openReferenced row table column)).bind
  intro selection?
  cases selection? with
  | none => exact erases_pure none
  | some selection =>
      apply (erases_call [] (resolver.datastore.narrow selection (.limit (some 1) none))).bind
      intro narrowed
      apply (erases_execute resolver.datastore (resolver.datastore.fetch narrowed)).bind
      intro rows
      exact erases_pure rows.head?

theorem erases_belongsTo (row : Row) (settings : FieldSettings) :
    Erases (resolver.watched.belongsTo row settings) (resolver.belongsTo row settings) := by
  apply (erases_lift settings.requireTable).bind
  intro table
  apply (erases_lift settings.requireColumn).bind
  intro column
  exact resolver.erases_fetchOne row table column

theorem erases_morphTo (row : Row) (settings : FieldSettings) :
    Erases (resolver.watched.morphTo row settings) (resolver.morphTo row settings) := by
  apply (erases_lift settings.requireMorphRelation).bind
  intro relation
  cases (row.value? relation.typeColumn).bind Value.tableName? with
  | none => exact erases_pure none
  | some table =>
      simp only [watched]
      cases resolver.typeNames.lookup table with
      | none => exact erases_throw _
      | some typeName =>
          apply (resolver.erases_fetchOne row table relation.idColumn).bind
          intro found
          exact erases_pure _

/-- Whether its tables are watched makes no difference to what a field does. -/
theorem erases_resolve (kind : ResolverKind) (parent : Option Row) (arguments : Arguments)
    (settings : FieldSettings) :
    Erases (resolver.watched.resolve kind parent arguments settings)
      (resolver.resolve kind parent arguments settings) := by
  cases kind with
  | table =>
      apply (resolver.erases_openTable settings).bind
      intro selection
      exact (resolver.erases_fetch selection arguments).bind fun rows => erases_pure _
  | tableCount =>
      apply (resolver.erases_openTable settings).bind
      intro selection
      exact (resolver.erases_count selection arguments).bind fun number => erases_pure _
  | belongsTo =>
      cases parent with
      | none => exact erases_throw _
      | some row => exact (resolver.erases_belongsTo row settings).bind fun found => erases_pure _
  | hasMany =>
      cases parent with
      | none => exact erases_throw _
      | some row =>
          apply (resolver.erases_openRelated row settings).bind
          intro selection
          exact (resolver.erases_fetch selection arguments).bind fun rows => erases_pure _
  | hasManyCount =>
      cases parent with
      | none => exact erases_throw _
      | some row =>
          apply (resolver.erases_openRelated row settings).bind
          intro selection
          exact (resolver.erases_count selection arguments).bind fun number => erases_pure _
  | morphTo =>
      cases parent with
      | none => exact erases_throw _
      | some row => exact (resolver.erases_morphTo row settings).bind fun found => erases_pure _

end Resolver

/-! ## What is recorded -/

namespace Resolving

/-- From every session a computation opens some tables, in order. -/
def Opens (action : Resolving (State × List String) First) (tables : List String) : Prop :=
  ∀ session, (action session).2.store.2 = session.store.2 ++ tables

theorem opens_pure (answer : First) :
    Opens (pure answer : Resolving (State × List String) First) [] :=
  fun session => (List.append_nil session.store.2).symm

theorem opens_throw (failure : RequestError) :
    Opens (throw failure : Resolving (State × List String) First) [] :=
  fun session => (List.append_nil session.store.2).symm

-- What is opened first is recorded whether or not the computation goes on, so only the
-- rest must open nothing.
theorem Opens.bind {action : Resolving (State × List String) First} {tables : List String}
    (opens : Opens action tables) {rest : First → Resolving (State × List String) Second}
    (restOpens : ∀ answer, Opens (rest answer) []) : Opens (action >>= rest) tables := by
  intro session
  have recorded := opens session
  cases acts : action session with
  | mk result next =>
      rw [acts] at recorded
      cases result with
      | error failure =>
          rw [bind_of_error acts]
          exact recorded
      | ok answer =>
          rw [bind_of_ok acts, restOpens answer next, List.append_nil]
          exact recorded

theorem opens_lift (result : Except RequestError First) :
    Opens (liftM result : Resolving (State × List String) First) [] := by
  intro session
  rw [lift_eq, List.append_nil]

theorem opens_lift_ok {answer : First} {rest : First → Resolving (State × List String) Second}
    {tables : List String} (opens : Opens (rest answer) tables) :
    Opens (liftM (.ok answer : Except RequestError First) >>= rest) tables := by
  intro session
  rw [bind_of_ok (lift_eq (.ok answer))]
  exact opens session

theorem opens_call (tables : List String) (call : StateM State First) :
    Opens (Resolving.call (Datastore.recording tables call)) tables := fun _ => rfl

theorem opens_attempt (tables : List String) (call : StateM State (Except StoreFailure First)) :
    Opens (attempt (Datastore.recording tables call)) tables := by
  apply (opens_call tables call).bind
  intro result
  cases result with
  | error failure => exact opens_throw _
  | ok answer => exact opens_pure answer

theorem opens_execute (datastore : Datastore State Selection)
    (run : StateM State (Except StoreFailure First × Selection)) :
    Opens (execute datastore.watched (Datastore.recording [] run)) [] := by
  apply (opens_call [] run).bind
  rintro ⟨outcome, selection⟩
  have recorded : Opens (record datastore.watched outcome selection) [] :=
    fun session => (List.append_nil session.store.2).symm
  apply recorded.bind
  intro _
  cases outcome with
  | error failure => exact opens_throw _
  | ok answer => exact opens_pure answer

end Resolving

namespace Resolver

open Resolving

variable (resolver : Resolver State Selection)

theorem opens_narrowAll (selection : Selection) (calls : List Narrowing) :
    Opens (Resolving.call (resolver.watched.datastore.narrowAll selection calls)) [] := by
  have narrowed := resolver.datastore.narrowAll_watched selection calls
  change Opens (Resolving.call (resolver.datastore.watched.narrowAll selection calls)) []
  rw [narrowed]
  exact opens_call [] _

theorem opens_narrow (selection : Selection) (compiled : Except RequestError (List Narrowing)) :
    Opens (resolver.watched.narrow selection compiled) [] := by
  apply (opens_lift compiled).bind
  intro calls
  exact resolver.opens_narrowAll selection calls

theorem opens_fetch (selection : Selection) (arguments : Arguments) :
    Opens (resolver.watched.fetch selection arguments) [] := by
  apply (resolver.opens_narrow selection _).bind
  intro narrowed
  exact opens_execute resolver.datastore _

theorem opens_count (selection : Selection) (arguments : Arguments) :
    Opens (resolver.watched.count selection arguments) [] := by
  apply (resolver.opens_narrow selection _).bind
  intro narrowed
  exact opens_execute resolver.datastore _

variable {settings : FieldSettings} {table column : String}

theorem opens_openTable (set : settings.tableName = some table) :
    Opens (resolver.watched.openTable settings) [table] := by
  rw [openTable, FieldSettings.requireTable_of_set set]
  exact opens_lift_ok (opens_call [table] _)

theorem opens_openRelated (row : Row) (tableSet : settings.tableName = some table)
    (columnSet : settings.referencingColumn = some column) :
    Opens (resolver.watched.openRelated row settings) [table] := by
  rw [openRelated, FieldSettings.requireTable_of_set tableSet,
    FieldSettings.requireColumn_of_set columnSet]
  have opened := opens_attempt [table] (resolver.datastore.openRelated row table column)
  apply opens_lift_ok
  apply opens_lift_ok
  apply opened.bind
  intro selection
  exact resolver.opens_narrowAll selection _

theorem opens_fetchOne (row : Row) (table column : String) :
    Opens (resolver.watched.fetchOne row table column) [table] := by
  apply (opens_attempt [table] (resolver.datastore.openReferenced row table column)).bind
  intro selection?
  cases selection? with
  | none => exact opens_pure none
  | some selection =>
      apply (opens_call [] (resolver.datastore.narrow selection (.limit (some 1) none))).bind
      intro narrowed
      apply (opens_execute resolver.datastore (resolver.datastore.fetch narrowed)).bind
      intro rows
      exact opens_pure rows.head?

theorem opens_belongsTo (row : Row) (tableSet : settings.tableName = some table)
    (columnSet : settings.referencingColumn = some column) :
    Opens (resolver.watched.belongsTo row settings) [table] := by
  rw [belongsTo, FieldSettings.requireTable_of_set tableSet,
    FieldSettings.requireColumn_of_set columnSet]
  exact opens_lift_ok (opens_lift_ok (resolver.opens_fetchOne row table column))

theorem opens_listing {opening : Resolving (State × List String) Selection} {tables : List String}
    (opens : Opens opening tables) (arguments : Arguments) :
    Opens (do return Resolved.rows (← resolver.watched.fetch (← opening) arguments)) tables := by
  apply opens.bind
  intro selection
  exact (resolver.opens_fetch selection arguments).bind fun rows => opens_pure _

theorem opens_counting {opening : Resolving (State × List String) Selection}
    {tables : List String} (opens : Opens opening tables) (arguments : Arguments) :
    Opens (do return Resolved.count (← resolver.watched.count (← opening) arguments)) tables := by
  apply opens.bind
  intro selection
  exact (resolver.opens_count selection arguments).bind fun number => opens_pure _

end Resolver

/-! ## Following polymorphic references -/

/-- What following a polymorphic reference of a row comes to in a session: an outcome, and
a selection from a table of the plan at most. -/
inductive SchemaPlan.Follows (plan : SchemaPlan) (relation : MorphRelation) (row : Row)
    (session : Session (State × List String)) :
    Except RequestError (Option (String × Row)) × Session (State × List String) → Prop where
  /-- The row names no table. -/
  | nothing (stored : (row.value? relation.typeColumn).bind Value.tableName? = none) :
      Follows plan relation row session (.ok none, session)
  /-- The row names a table without an object type. -/
  | refused {table : String}
      (stored : (row.value? relation.typeColumn).bind Value.tableName? = some table)
      (unknown : ∀ object ∈ plan.objects, object.table ≠ table) :
      Follows plan relation row session
        (.error (.unknownMorphType table relation.table relation.typeColumn), session)
  /-- The row names the table of an object type, and only that is opened. -/
  | opened {object : ObjectPlan}
      {outcome : Except RequestError (Option (String × Row)) × Session (State × List String)}
      (stored : (row.value? relation.typeColumn).bind Value.tableName? = some object.table)
      (planned : object ∈ plan.objects)
      (opens : outcome.2.store.2 = session.store.2 ++ [object.table]) :
      Follows plan relation row session outcome

theorem Resolver.follows_morphTo (resolver : Resolver State Selection) {plan : SchemaPlan}
    (typeNames : resolver.typeNames = Schema.typeNames plan) {settings : FieldSettings}
    {relation : MorphRelation} (set : settings.morphRelation = some relation) (row : Row)
    (session : Session (State × List String)) :
    plan.Follows relation row session (resolver.watched.morphTo row settings session) := by
  rw [morphTo, FieldSettings.requireMorphRelation_of_set set,
    Resolving.bind_of_ok (Resolving.lift_eq (.ok relation))]
  cases stored : (row.value? relation.typeColumn).bind Value.tableName? with
  | none => exact .nothing stored
  | some table =>
      simp only [watched]
      cases known : resolver.typeNames.lookup table with
      | none =>
          have unknown : ∀ object ∈ plan.objects, object.table ≠ table := by
            rintro object planned rfl
            have listed : (object.table, object.name) ∈
                plan.objects.map fun object => (object.table, object.name) :=
              List.mem_map_of_mem (f := fun object : ObjectPlan => (object.table, object.name)) planned
            have found := isSome_lookup_pairsOf.mpr (List.mem_map_of_mem (f := Prod.fst) listed)
            rw [typeNames, Schema.typeNames] at known
            rw [known] at found
            cases found
          exact .refused stored unknown
      | some typeName =>
          rw [typeNames] at known
          obtain ⟨object, planned, same⟩ := List.mem_map.mp (mem_of_lookup_pairsOf known)
          obtain ⟨rfl, _⟩ := Prod.mk.inj same
          have fetched := resolver.opens_fetchOne row object.table relation.idColumn
          have opens := fetched.bind fun found =>
            Resolving.opens_pure (found.map fun one => (typeName, one))
          exact .opened stored planned (opens session)

/-! ## Opening tables of the plan -/

namespace SchemaPlan

/-- A computation that opens tables of the object types of a plan only. -/
def Confines (plan : SchemaPlan) (action : Resolving (State × List String) First) : Prop :=
  ∀ session, ∃ opened, (action session).2.store.2 = session.store.2 ++ opened ∧
    ∀ table ∈ opened, ∃ object ∈ plan.objects, object.table = table

variable {plan : SchemaPlan}

theorem confines_of_opens {action : Resolving (State × List String) First} {object : ObjectPlan}
    (planned : plan.object? object.table = some object)
    (opens : Resolving.Opens action [object.table]) : plan.Confines action := by
  intro session
  refine ⟨[object.table], opens session, ?_⟩
  intro table member
  rw [List.mem_singleton.mp member]
  exact ⟨object, List.mem_of_find?_eq_some planned, rfl⟩

theorem confines_morphTo {resolver : Resolver State Selection}
    (typeNames : resolver.typeNames = Schema.typeNames plan) {settings : FieldSettings}
    {relation : MorphRelation} (set : settings.morphRelation = some relation) (row : Row) :
    plan.Confines (resolver.watched.morphTo row settings) := by
  intro session
  have followed := resolver.follows_morphTo typeNames set row session
  generalize resolver.watched.morphTo row settings session = outcome at followed
  cases followed with
  | nothing => exact ⟨[], (List.append_nil _).symm, by simp⟩
  | refused => exact ⟨[], (List.append_nil _).symm, by simp⟩
  | @opened object _ _ planned opens =>
      refine ⟨[object.table], opens, ?_⟩
      intro table member
      rw [List.mem_singleton.mp member]
      exact ⟨object, planned, rfl⟩

theorem Confines.map {action : Resolving (State × List String) First}
    (confines : plan.Confines action) (present : First → Second) :
    plan.Confines (action >>= fun answer => pure (present answer)) := by
  intro session
  obtain ⟨opened, recorded, ofPlan⟩ := confines session
  refine ⟨opened, ?_, ofPlan⟩
  cases acts : action session with
  | mk result next =>
      rw [acts] at recorded
      cases result with
      | error failure =>
          rw [Resolving.bind_of_error acts]
          exact recorded
      | ok answer =>
          rw [Resolving.bind_of_ok acts]
          exact recorded

variable {field : FieldPlan} (resolver : Resolver State Selection)

theorem confines_root (root : field.IsRoot plan) {kind : ResolverKind}
    (isKind : field.resolver = some kind) (parent : Option Row) (arguments : Arguments) :
    plan.Confines (resolver.watched.resolve kind parent arguments field.settings) := by
  cases root with
  | @table object planned isTable _ _ settings =>
      have same : kind = .table := Option.some.inj (isKind.symm.trans isTable)
      have set : field.settings.tableName = some object.table := by rw [settings]
      rw [same]
      exact confines_of_opens planned
        (resolver.opens_listing (resolver.opens_openTable set) arguments)
  | @tableCount object planned isCount _ _ settings =>
      have same : kind = .tableCount := Option.some.inj (isKind.symm.trans isCount)
      have set : field.settings.tableName = some object.table := by rw [settings]
      rw [same]
      exact confines_of_opens planned
        (resolver.opens_counting (resolver.opens_openTable set) arguments)

theorem confines_member (typeNames : resolver.typeNames = Schema.typeNames plan)
    (member : field.IsMember plan) {kind : ResolverKind} (isKind : field.resolver = some kind)
    (row : Row) (arguments : Arguments) :
    plan.Confines (resolver.watched.resolve kind (some row) arguments field.settings) := by
  cases member with
  | column none =>
      rw [none] at isKind
      cases isKind
  | @belongsTo object column planned isBelongsTo _ _ settings =>
      have same : kind = .belongsTo := Option.some.inj (isKind.symm.trans isBelongsTo)
      have tableSet : field.settings.tableName = some object.table := by rw [settings]
      have columnSet : field.settings.referencingColumn = some column := by rw [settings]
      rw [same]
      exact (confines_of_opens planned (resolver.opens_belongsTo row tableSet columnSet)).map _
  | @hasMany object column _ planned isHasMany _ _ settings =>
      have same : kind = .hasMany := Option.some.inj (isKind.symm.trans isHasMany)
      have tableSet : field.settings.tableName = some object.table := by rw [settings]
      have columnSet : field.settings.referencingColumn = some column := by rw [settings]
      rw [same]
      exact confines_of_opens planned
        (resolver.opens_listing (resolver.opens_openRelated row tableSet columnSet) arguments)
  | @hasManyCount object column _ planned isCount _ _ settings =>
      have same : kind = .hasManyCount := Option.some.inj (isKind.symm.trans isCount)
      have tableSet : field.settings.tableName = some object.table := by rw [settings]
      have columnSet : field.settings.referencingColumn = some column := by rw [settings]
      rw [same]
      exact confines_of_opens planned
        (resolver.opens_counting (resolver.opens_openRelated row tableSet columnSet) arguments)
  | @morphTo relation isMorphTo _ _ settings =>
      have same : kind = .morphTo := Option.some.inj (isKind.symm.trans isMorphTo)
      have relationSet : field.settings.morphRelation = some relation := by rw [settings]
      rw [same]
      exact (confines_morphTo typeNames relationSet row).map _

variable {database : Structure} {configuration : Configuration} {mapper : ColumnTypeMapper}
  {inflector : Inflector} {patterns : PatternEngine}

/-- Object types, root fields and the settings of fields name exposed tables, and exposed
columns of the tables that these are read from or filtered on.  Resolving a field opens
tables of object types only; a polymorphic reference of any row opens the one that the row
names, or else nothing. -/
theorem reaches_only_exposed (distinct : (database.tables.map Table.name).Nodup)
    (built : SchemaPlan.build database configuration mapper inflector patterns = .ok plan) :
    (∀ field ∈ plan.query, ∃ table, configuration.ExposesTable database table ∧
        field.settings = { FieldSettings.blank with tableName := some table }) ∧
      (∀ object ∈ plan.objects, configuration.ExposesTable database object.table ∧
        ∀ field ∈ object.fields, field.NamesExposed configuration database object.table) ∧
      ∀ {State Selection : Type} (resolver : Resolver State Selection),
        resolver.typeNames = Schema.typeNames plan →
        (∀ field parent kind, plan.Asks field parent → field.resolver = some kind →
          ∀ arguments,
            plan.Confines (resolver.watched.resolve kind parent arguments field.settings)) ∧
          ∀ object ∈ plan.objects, ∀ field ∈ object.fields, field.resolver = some .morphTo →
            ∃ relation, field.settings.morphRelation = some relation ∧
              ∀ row session, plan.Follows relation row session
                (resolver.watched.morphTo row field.settings session) := by
  obtain ⟨strip, _, rfl⟩ := eq_plan_of_build built
  refine ⟨fun field member => PlanSource.exists_settings_query member,
    fun object planned => ⟨PlanSource.exposesTable_objects planned,
      fun field member => PlanSource.namesExposed_objects distinct planned member⟩, ?_⟩
  intro State Selection resolver typeNames
  constructor
  · intro field parent kind asks isKind arguments
    cases asks with
    | root parent member =>
        have root := PlanSource.isRoot_query distinct member
        exact confines_root resolver root isKind parent arguments
    | member planned member =>
        have isMember := PlanSource.isMember_objects distinct planned member
        exact confines_member resolver typeNames isMember isKind _ arguments
  · intro object planned field member follows
    have isMember := PlanSource.isMember_objects distinct planned member
    obtain ⟨relation, isSet⟩ := isMember.exists_relation follows
    refine ⟨relation, isSet, ?_⟩
    intro row session
    exact resolver.follows_morphTo typeNames isSet row session

/-! ### Comments on a hidden table -/

private def forum : Structure :=
  .ofTables
    [⟨"comments", [⟨"id", false, true, "INTEGER", none⟩, .plain "subject_id" "INTEGER",
        .plain "subject_type" "TEXT"], [], []⟩,
      ⟨"secrets", [⟨"id", false, true, "INTEGER", none⟩], [], []⟩]

private def subject : MorphRelation := ⟨"comments", "subject_id", "subject_type", "subject", []⟩

private def withoutSecrets : Configuration :=
  { Configuration.standard with exceptTables := ["secrets"], morphRelations := [subject] }

private def subjectField : FieldPlan where
  name := "subject"
  type := .morph
  nullable := false
  arguments := .none
  resolver := some .morphTo
  settings := { FieldSettings.blank with morphRelation := some subject }
  description := none

/-- A comment on a secret does not lead to the secret. -/
theorem reaches_only_exposed_secrets :
    ∃ plan, SchemaPlan.build forum withoutSecrets nativeTypeMapper (fun _ => []) = .ok plan ∧
      (forum.tables.map Table.name).Nodup ∧
      (∃ object ∈ plan.objects, subjectField ∈ object.fields) ∧
        ∀ session : Session (Database × List String),
          (Resolver.watched ⟨Database.datastore, .new false, Schema.typeNames plan⟩).morphTo
              ⟨"comments", [("subject_id", .integer 1), ("subject_type", .text "secrets")]⟩
              subjectField.settings session =
            (.error (.unknownMorphType "secrets" "comments" "subject_type"), session) := by
  obtain ⟨strip, read⟩ : ∃ strip, withoutSecrets.readStripPattern = .ok strip := ⟨_, by cbv⟩
  let source : PlanSource := ⟨forum, withoutSecrets, nativeTypeMapper, fun _ => [], strip⟩
  have built : SchemaPlan.build forum withoutSecrets nativeTypeMapper (fun _ => []) =
      .ok source.plan := build_of_read read ..
  have distinct : (forum.tables.map Table.name).Nodup := by decide
  have planned : ∃ object ∈ source.plan.objects, subjectField ∈ object.fields := by
    refine ⟨_, List.mem_cons_self, ?_⟩
    exact List.mem_cons_of_mem _ (List.mem_cons_of_mem _ (List.mem_cons_of_mem _ List.mem_cons_self))
  have onlyComments : ∀ object ∈ source.plan.objects, object.table ≠ "secrets" := by
    have tables : source.plan.objects.map ObjectPlan.table = ["comments"] := rfl
    intro object member same
    have listed := List.mem_map_of_mem (f := ObjectPlan.table) member
    rw [tables, same] at listed
    simp at listed
  refine ⟨source.plan, built, distinct, planned, ?_⟩
  intro session
  obtain ⟨object, objectMember, fieldMember⟩ := planned
  have atRuntime := (reaches_only_exposed distinct built).2.2
    ⟨Database.datastore, .new false, Schema.typeNames source.plan⟩ rfl
  obtain ⟨relation, isSet, outcome⟩ :=
    atRuntime.2 object objectMember subjectField fieldMember rfl
  cases isSet
  have followed := outcome
    ⟨"comments", [("subject_id", .integer 1), ("subject_type", .text "secrets")]⟩ session
  generalize Resolver.morphTo _ _ _ session = result at followed ⊢
  cases followed with
  | nothing stored => cases stored
  | refused stored unknown =>
      cases stored
      rfl
  | opened stored planned _ =>
      have same := Option.some.inj stored
      exact absurd same.symm (onlyComments _ planned)

end SchemaPlan

end TableGraph
