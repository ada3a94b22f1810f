import TableGraph.Database.Basic
import TableGraph.Resolver

/-!
# Reached selections

A field of a database opens the rows of its kind, narrows them by its arguments and
executes the selection that is reached.  The main statement, `resolve_eq_reached`, is
that this is all a field does; `reached_eq_ok` says what a reached selection consists
of.
-/

namespace TableGraph

/-! ## Opening and narrowing -/

/-- What a kind applies of the arguments of a field: a count leaves out order and
page, and a reference to one row takes no arguments. -/
def ResolverKind.applied (arguments : Arguments) : ResolverKind → Arguments
  | .table => arguments
  | .hasMany => arguments
  | .tableCount => { arguments with pagination := none, order := [] }
  | .hasManyCount => { arguments with pagination := none, order := [] }
  | .belongsTo => { Arguments.blank with pagination := some ⟨some 1, none⟩ }
  | .morphTo => { Arguments.blank with pagination := some ⟨some 1, none⟩ }

/-- What a kind reads from its selection. -/
def ResolverKind.head : ResolverKind → TableSelection.Head
  | .tableCount => .count "*"
  | .hasManyCount => .count "*"
  | _ => .rows

namespace Database

def resolver (compiler : Compiler) (typeNames : List (String × String)) :
    Resolver Database TableSelection :=
  ⟨Database.datastore, compiler, typeNames⟩

/-- The rows that reference a row, of its own table only when the reference is
polymorphic. -/
def openedRelated (database : Database) (row : Row) (settings : FieldSettings) :
    Except RequestError TableSelection :=
  settings.requireTable.bind fun table =>
    settings.requireColumn.bind fun column =>
      ((database.related row table column).mapError .execution).map
        ((settings.referencingTypeColumn.toList.map fun typeColumn =>
          Resolver.typeFilter typeColumn row.table).foldl TableSelection.narrow)

/-- The row of any table that a polymorphic reference leads to. -/
def openedMorph (database : Database) (typeNames : List (String × String)) (row : Row)
    (relation : MorphRelation) : Except RequestError (Option TableSelection) :=
  match (row.value? relation.typeColumn).bind Value.tableName? with
  | none => .ok none
  | some table =>
    match typeNames.lookup table with
    | none => .error (.unknownMorphType table relation.table relation.typeColumn)
    | some _ => (database.referenced row table relation.idColumn).mapError .execution

/-- The rows a field of a kind starts from; none when its row references nothing. -/
def opened (database : Database) (typeNames : List (String × String)) (kind : ResolverKind)
    (parent : Option Row) (settings : FieldSettings) :
    Except RequestError (Option TableSelection) :=
  match kind, parent with
  | .table, _ => (settings.requireTable.map TableSelection.ofTable).map some
  | .tableCount, _ => (settings.requireTable.map TableSelection.ofTable).map some
  | .hasMany, some row => (database.openedRelated row settings).map some
  | .hasManyCount, some row => (database.openedRelated row settings).map some
  | .belongsTo, some row =>
    settings.requireTable.bind fun table =>
      settings.requireColumn.bind fun column =>
        (database.referenced row table column).mapError .execution
  | .morphTo, some row => settings.requireMorphRelation.bind (database.openedMorph typeNames row)
  | kind, none => .error (.missingParent kind.name)

/-- The selection that arguments narrow an opened one to. -/
def narrowed (compiler : Compiler) (arguments : Arguments) :
    Option TableSelection → Except RequestError (Option TableSelection)
  | none => .ok none
  | some selection =>
    (compiler.argumentCalls arguments).map fun calls =>
      some (calls.foldl TableSelection.narrow selection)

/-- The selection that a field executes. -/
def reached (database : Database) (compiler : Compiler) (typeNames : List (String × String))
    (kind : ResolverKind) (parent : Option Row) (arguments : Arguments)
    (settings : FieldSettings) : Except RequestError (Option TableSelection) :=
  (database.opened typeNames kind parent settings).bind (narrowed compiler (kind.applied arguments))

/-- What a field does in a session when it reaches a selection, none or a failure: it
executes the selection, and otherwise leaves the session as it is. -/
def Executes (session : Session Database) (head : TableSelection.Head)
    (resolved : Except RequestError Resolved × Session Database) :
    Except RequestError (Option TableSelection) → Prop
  | .error failure => resolved = (.error failure, session)
  | .ok none => ∃ answer, resolved = (.ok answer, session)
  | .ok (some selection) =>
    match head with
    | .rows => ∃ present : List Row → Resolved, resolved =
        (Resolving.execute datastore (datastore.fetch selection) >>= fun rows =>
          pure (present rows)) session
    | .count expression => resolved =
        (Resolving.execute datastore (datastore.count selection expression) >>= fun number =>
          pure (.count number)) session

end Database

/-! ## Sessions -/

namespace Resolving

variable {State First Second : Type} {session next : Session State}
  {action : Resolving State First}

theorem bind_of_ok {answer : First} (acts : action session = (.ok answer, next))
    (rest : First → Resolving State Second) : (action >>= rest) session = rest answer next := by
  have unfolded :
      (action >>= rest) session = ExceptT.bindCont rest (action session).1 (action session).2 := rfl
  rw [unfolded, acts]
  rfl

theorem bind_of_error {failure : RequestError} (acts : action session = (.error failure, next))
    (rest : First → Resolving State Second) :
    (action >>= rest) session = (.error failure, next) := by
  have unfolded :
      (action >>= rest) session = ExceptT.bindCont rest (action session).1 (action session).2 := rfl
  rw [unfolded, acts]
  rfl

theorem bind_congr {other : Resolving State First} (same : action session = other session)
    (rest : First → Resolving State Second) :
    (action >>= rest) session = (other >>= rest) session := by
  cases acts : other session with
  | mk result next =>
      cases result with
      | error failure => rw [bind_of_error acts, bind_of_error (same.trans acts)]
      | ok answer => rw [bind_of_ok acts, bind_of_ok (same.trans acts)]

theorem lift_eq (result : Except RequestError First) :
    (liftM result : Resolving State First) session = (result, session) := by
  cases result <;> rfl

/-- A call that leaves the datastore as it is leaves the session as it is. -/
theorem attempt_eq {call : StateM State (Except StoreFailure First)}
    {answer : Except StoreFailure First} (acts : call session.store = (answer, session.store)) :
    attempt call session = (answer.mapError .execution, session) := by
  have called : Resolving.call call session = (.ok answer, session) := by
    rw [Resolving.call, acts]
  rw [attempt, bind_of_ok called]
  cases answer <;> rfl

end Resolving

namespace Compiler

/-- Conditions are compiled as arguments without order and page. -/
theorem conditionCalls_eq (compiler : Compiler) (conditions : Conditions) :
    compiler.conditionCalls conditions = compiler.argumentCalls ⟨none, [], conditions⟩ := by
  rw [argumentCalls]
  cases compiler.conditionCalls conditions with
  | error failure => rfl
  | ok calls => simp [Except.map, orderCalls, paginationCalls]

end Compiler

namespace Database

variable {compiler : Compiler} {typeNames : List (String × String)} {session : Session Database}

theorem narrowAll_eq (selection : TableSelection) (calls : List Narrowing) (database : Database) :
    datastore.narrowAll selection calls database =
      (calls.foldl TableSelection.narrow selection, database) := by
  induction calls generalizing selection with
  | nil => rfl
  | cons head tail inductionHypothesis => exact inductionHypothesis (selection.narrow head)

theorem call_narrowAll_eq (selection : TableSelection) (calls : List Narrowing) :
    Resolving.call (datastore.narrowAll selection calls) session =
      (.ok (calls.foldl TableSelection.narrow selection), session) := by
  rw [Resolving.call, narrowAll_eq]

theorem narrow_eq (selection : TableSelection) (compiled : Except RequestError (List Narrowing)) :
    (resolver compiler typeNames).narrow selection compiled session =
      (compiled.map (·.foldl TableSelection.narrow selection), session) := by
  cases compiled with
  | error failure => rfl
  | ok calls => exact call_narrowAll_eq selection calls

theorem openTable_eq (settings : FieldSettings) :
    (resolver compiler typeNames).openTable settings session =
      (settings.requireTable.map TableSelection.ofTable, session) := by
  rw [Resolver.openTable]
  cases settings.requireTable with
  | error failure => rfl
  | ok table => rfl

theorem openRelated_eq (row : Row) (settings : FieldSettings) :
    (resolver compiler typeNames).openRelated row settings session =
      (session.store.openedRelated row settings, session) := by
  rw [Resolver.openRelated, openedRelated]
  cases settings.requireTable with
  | error failure => rfl
  | ok table =>
      rw [Resolving.bind_of_ok (Resolving.lift_eq _)]
      cases settings.requireColumn with
      | error failure => rfl
      | ok column =>
          rw [Resolving.bind_of_ok (Resolving.lift_eq _)]
          have attempted :
              Resolving.attempt ((resolver compiler typeNames).datastore.openRelated row table
                column) session =
                ((session.store.related row table column).mapError .execution, session) :=
            Resolving.attempt_eq rfl
          simp only [Except.bind]
          cases related : session.store.related row table column with
          | error failure =>
              rw [related] at attempted
              exact Resolving.bind_of_error attempted _
          | ok selection =>
              rw [related] at attempted
              exact (Resolving.bind_of_ok attempted _).trans (call_narrowAll_eq selection _)

/-! ## Executing -/

theorem narrow_bind_eq {Answer : Type} (selection : TableSelection)
    (compiled : Except RequestError (List Narrowing))
    (rest : TableSelection → Resolving Database Answer) :
    ((resolver compiler typeNames).narrow selection compiled >>= rest) session =
      match compiled with
      | .error failure => (.error failure, session)
      | .ok calls => rest (calls.foldl TableSelection.narrow selection) session := by
  cases compiled with
  | error failure => exact Resolving.bind_of_error (narrow_eq selection _) rest
  | ok calls => exact Resolving.bind_of_ok (narrow_eq selection _) rest

theorem executes_fetch (selection : TableSelection) (arguments : Arguments)
    (present : List Row → Resolved) :
    Executes session .rows
      (((resolver compiler typeNames).fetch selection arguments >>= fun rows =>
        pure (present rows)) session)
      (narrowed compiler arguments (some selection)) := by
  have fetched :
      (resolver compiler typeNames).fetch selection arguments session = _ :=
    narrow_bind_eq selection (compiler.argumentCalls arguments) _
  rw [narrowed]
  cases compiled : compiler.argumentCalls arguments with
  | error failure =>
      rw [compiled] at fetched
      exact Resolving.bind_of_error fetched _
  | ok calls =>
      rw [compiled] at fetched
      exact ⟨present, Resolving.bind_congr fetched _⟩

theorem executes_count (selection : TableSelection) (arguments : Arguments) :
    Executes session (.count "*")
      (((resolver compiler typeNames).count selection arguments >>= fun number =>
        pure (.count number)) session)
      (narrowed compiler { arguments with pagination := none, order := [] } (some selection)) := by
  have counted :
      (resolver compiler typeNames).count selection arguments session = _ :=
    narrow_bind_eq selection (compiler.conditionCalls arguments.conditions) _
  rw [narrowed, ← compiler.conditionCalls_eq]
  cases compiled : compiler.conditionCalls arguments.conditions with
  | error failure =>
      rw [compiled] at counted
      exact Resolving.bind_of_error counted _
  | ok calls =>
      rw [compiled] at counted
      exact Resolving.bind_congr counted _

/-- A reference to one row is a fetch of one row, unless it holds nothing. -/
theorem executes_fetchOne (row : Row) (table column : String) (present : Option Row → Resolved) :
    Executes session .rows
      (((resolver compiler typeNames).fetchOne row table column >>= fun found =>
        pure (present found)) session)
      (((session.store.referenced row table column).mapError .execution).bind
        (narrowed compiler { Arguments.blank with pagination := some ⟨some 1, none⟩ })) := by
  have attempted :
      Resolving.attempt ((resolver compiler typeNames).datastore.openReferenced row table column)
        session = ((session.store.referenced row table column).mapError .execution, session) :=
    Resolving.attempt_eq rfl
  cases referenced : session.store.referenced row table column with
  | error failure =>
      rw [referenced] at attempted
      have failed :
          (resolver compiler typeNames).fetchOne row table column session = _ :=
        Resolving.bind_of_error attempted _
      exact Resolving.bind_of_error failed _
  | ok selection? =>
      rw [referenced] at attempted
      have opened :
          (resolver compiler typeNames).fetchOne row table column session = _ :=
        Resolving.bind_of_ok attempted _
      cases selection? with
      | none => exact ⟨_, Resolving.bind_of_ok opened _⟩
      | some selection =>
          refine ⟨fun rows => present rows.head?, ?_⟩
          have limited :
              Resolving.call ((resolver compiler typeNames).datastore.narrow selection
                (.limit (some 1) none)) session =
                (.ok (selection.narrow (.limit (some 1) none)), session) := rfl
          have fetched :
              (resolver compiler typeNames).fetchOne row table column session =
                (Resolving.execute datastore
                  (datastore.fetch (selection.narrow (.limit (some 1) none))) >>= fun rows =>
                    pure rows.head?) session :=
            opened.trans (Resolving.bind_of_ok limited _)
          rw [Resolving.bind_congr fetched, bind_assoc]
          simp only [pure_bind]
          rfl

theorem executes_belongsTo (row : Row) (settings : FieldSettings) :
    Executes session .rows
      (((resolver compiler typeNames).belongsTo row settings >>= fun found =>
        pure (.row found)) session)
      ((settings.requireTable.bind fun table =>
        settings.requireColumn.bind fun column =>
          (session.store.referenced row table column).mapError .execution).bind
        (narrowed compiler { Arguments.blank with pagination := some ⟨some 1, none⟩ })) := by
  rw [Resolver.belongsTo]
  cases settings.requireTable with
  | error failure => exact rfl
  | ok table =>
      rw [Resolving.bind_congr (Resolving.bind_of_ok (Resolving.lift_eq _) _)]
      cases settings.requireColumn with
      | error failure => exact rfl
      | ok column =>
          rw [Resolving.bind_congr (Resolving.bind_of_ok (Resolving.lift_eq _) _)]
          exact executes_fetchOne row table column .row

theorem executes_morphTo (row : Row) (settings : FieldSettings) :
    Executes session .rows
      (((resolver compiler typeNames).morphTo row settings >>= fun found =>
        pure (.tagged found)) session)
      ((settings.requireMorphRelation.bind (session.store.openedMorph typeNames row)).bind
        (narrowed compiler { Arguments.blank with pagination := some ⟨some 1, none⟩ })) := by
  rw [Resolver.morphTo]
  cases settings.requireMorphRelation with
  | error failure => exact rfl
  | ok relation =>
      simp only [Except.bind, openedMorph]
      rw [Resolving.bind_congr (Resolving.bind_of_ok (Resolving.lift_eq _) _)]
      cases (row.value? relation.typeColumn).bind Value.tableName? with
      | none => exact ⟨_, rfl⟩
      | some table =>
          simp only
          have sameNames : (resolver compiler typeNames).typeNames = typeNames := rfl
          rw [sameNames]
          cases typeNames.lookup table with
          | none => exact rfl
          | some typeName =>
              simp only [bind_assoc, pure_bind]
              exact executes_fetchOne row table relation.idColumn _

theorem executes_opened {opening : Resolving Database TableSelection}
    {opened : Except RequestError TableSelection} (opens : opening session = (opened, session))
    {rest : TableSelection → Resolving Database Resolved} {head : TableSelection.Head}
    {arguments : Arguments}
    (executes : ∀ selection, Executes session head (rest selection session)
      (narrowed compiler arguments (some selection))) :
    Executes session head ((opening >>= rest) session)
      ((opened.map some).bind (narrowed compiler arguments)) := by
  cases opened with
  | error failure => exact Resolving.bind_of_error opens rest
  | ok selection =>
      rw [Resolving.bind_of_ok opens]
      exact executes selection

/-- A field opens the rows of its kind, narrows them by its arguments and executes the
selection that is reached, and does nothing else. -/
theorem resolve_eq_reached (compiler : Compiler) (typeNames : List (String × String))
    (kind : ResolverKind) (parent : Option Row) (arguments : Arguments)
    (settings : FieldSettings) (session : Session Database) :
    Executes session kind.head
      ((resolver compiler typeNames).resolve kind parent arguments settings session)
      (session.store.reached compiler typeNames kind parent arguments settings) := by
  cases kind with
  | table =>
      exact executes_opened (openTable_eq settings) fun selection =>
        executes_fetch selection arguments .rows
  | tableCount =>
      exact executes_opened (openTable_eq settings) fun selection =>
        executes_count selection arguments
  | belongsTo =>
      cases parent with
      | none => exact rfl
      | some row => exact executes_belongsTo row settings
  | hasMany =>
      cases parent with
      | none => exact rfl
      | some row =>
          exact executes_opened (openRelated_eq row settings) fun selection =>
            executes_fetch selection arguments .rows
  | hasManyCount =>
      cases parent with
      | none => exact rfl
      | some row =>
          exact executes_opened (openRelated_eq row settings) fun selection =>
            executes_count selection arguments
  | morphTo =>
      cases parent with
      | none => exact rfl
      | some row => exact executes_morphTo row settings

theorem executes_of_reached {compiler : Compiler} {typeNames : List (String × String)}
    {kind : ResolverKind} {parent : Option Row} {arguments : Arguments}
    {settings : FieldSettings} {selection : TableSelection} {database : Database}
    (reaches : database.reached compiler typeNames kind parent arguments settings =
      .ok (some selection)) (session : Session Database) (stored : session.store = database) :
    Executes session kind.head
      ((resolver compiler typeNames).resolve kind parent arguments settings session)
      (.ok (some selection)) := by
  subst stored
  exact reaches ▸ resolve_eq_reached compiler typeNames kind parent arguments settings session

end Database

/-! ## Parts of a reached selection -/

/-- The filter that keeps the rows where a column equals a value. -/
def Fragment.equality (condition : String × Value) : Fragment :=
  ⟨"?name = ?", [.identifier condition.1, .value condition.2]⟩

namespace TableSelection

/-- The selection with filters in front of its own. -/
def behind (selection : TableSelection) (filters : List Fragment) : TableSelection :=
  { selection with filters := filters ++ selection.filters }

/-- Calls leave the filters that were there in front. -/
theorem foldl_narrow_behind (selection : TableSelection) (filters : List Fragment)
    (calls : List Narrowing) :
    calls.foldl narrow (selection.behind filters) = (calls.foldl narrow selection).behind filters := by
  induction calls generalizing selection with
  | nil => rfl
  | cons head tail inductionHypothesis =>
      have step : (selection.behind filters).narrow head = (selection.narrow head).behind filters := by
        cases head <;> simp [narrow, behind]
      rw [List.foldl_cons, List.foldl_cons, step, inductionHypothesis]

end TableSelection

namespace FieldSettings

variable {settings : FieldSettings}

theorem requireTable_of_set {table : String} (set : settings.tableName = some table) :
    settings.requireTable = .ok table := by
  rw [requireTable, set]
  rfl

theorem requireColumn_of_set {column : String} (set : settings.referencingColumn = some column) :
    settings.requireColumn = .ok column := by
  rw [requireColumn, set]
  rfl

theorem requireMorphRelation_of_set {relation : MorphRelation}
    (set : settings.morphRelation = some relation) :
    settings.requireMorphRelation = .ok relation := by
  rw [requireMorphRelation, set]

end FieldSettings

section Succeeding

variable {Failure First Second : Type} {result : Except Failure First}

theorem bind_eq_ok {rest : First → Except Failure Second} {answer : Second}
    (succeeds : result.bind rest = .ok answer) :
    ∃ first, result = .ok first ∧ rest first = .ok answer := by
  cases result with
  | error failure => cases succeeds
  | ok first => exact ⟨first, rfl, succeeds⟩

theorem map_eq_ok {change : First → Second} {answer : Second}
    (succeeds : result.map change = .ok answer) :
    ∃ first, result = .ok first ∧ change first = answer := by
  cases result with
  | error failure => cases succeeds
  | ok first => exact ⟨first, rfl, Except.ok.inj succeeds⟩

theorem mapError_eq_ok {Other : Type} {change : Failure → Other} {answer : First}
    (succeeds : result.mapError change = .ok answer) : result = .ok answer := by
  cases result with
  | error failure => cases succeeds
  | ok first => exact congrArg Except.ok (Except.ok.inj succeeds)

end Succeeding

namespace Database

variable {database : Database} {compiler : Compiler} {typeNames : List (String × String)}
  {kind : ResolverKind} {parent : Option Row} {row : Row} {arguments : Arguments}
  {settings : FieldSettings} {selection : TableSelection}

theorem related_eq_ok {table column : String}
    (relates : database.related row table column = .ok selection) :
    ∃ key, database.primaryKey row.table = .ok key ∧
      selection = (TableSelection.ofTable table).behind
        [Fragment.equality (column, (row.value? key).getD .null)] := by
  obtain ⟨key, isKey, rfl⟩ := map_eq_ok relates
  exact ⟨key, isKey, rfl⟩

theorem referenced_eq_ok {table column : String}
    (refers : database.referenced row table column = .ok (some selection)) :
    ∃ condition, selection = (TableSelection.ofTable table).behind [Fragment.equality condition] := by
  rw [referenced] at refers
  split at refers
  · cases refers
  · obtain ⟨key, _, made⟩ := map_eq_ok refers
    exact ⟨(key, (row.value? column).getD .null), (Option.some.inj made).symm⟩

theorem requireSetting_eq_ok {name value : String} {setting : Option String}
    (required : requireSetting name setting = .ok value) : setting = some value := by
  cases setting with
  | none => cases required
  | some present => exact congrArg some (Except.ok.inj required)

/-- What holds of a row that references another: its column holds the key of the row,
and its type is the table of the row when the reference is polymorphic. -/
def relatedConditions (row : Row) (settings : FieldSettings) (column key : String) :
    List (String × Value) :=
  (column, (row.value? key).getD .null) ::
    settings.referencingTypeColumn.toList.map fun typeColumn => (typeColumn, .text row.table)

theorem openedRelated_eq_ok (opens : database.openedRelated row settings = .ok selection) :
    ∃ table column key, settings.tableName = some table ∧
      settings.referencingColumn = some column ∧ database.primaryKey row.table = .ok key ∧
        selection = (TableSelection.ofTable table).behind
          ((relatedConditions row settings column key).map Fragment.equality) := by
  obtain ⟨table, tableSet, opens⟩ := bind_eq_ok opens
  obtain ⟨column, columnSet, opens⟩ := bind_eq_ok opens
  obtain ⟨start, relates, rfl⟩ := map_eq_ok opens
  obtain ⟨key, isKey, rfl⟩ := related_eq_ok (mapError_eq_ok relates)
  refine ⟨table, column, key, ?_, ?_, isKey, ?_⟩
  · exact requireSetting_eq_ok tableSet
  · exact requireSetting_eq_ok columnSet
  · rw [relatedConditions]
    cases settings.referencingTypeColumn <;> rfl

theorem opened_eq_ok
    (opens : database.opened typeNames kind parent settings = .ok (some selection)) :
    ∃ (table : String) (conditions : List (String × Value)),
      selection = (TableSelection.ofTable table).behind (conditions.map Fragment.equality) := by
  have ofTable :
      (settings.requireTable.map TableSelection.ofTable).map some = .ok (some selection) →
        ∃ (table : String) (conditions : List (String × Value)),
          selection = (TableSelection.ofTable table).behind
            (conditions.map Fragment.equality) := by
    intro opens
    obtain ⟨start, opens, made⟩ := map_eq_ok opens
    obtain ⟨table, _, rfl⟩ := map_eq_ok opens
    exact ⟨table, [], (Option.some.inj made).symm⟩
  have ofRelated :
      ∀ row, (database.openedRelated row settings).map some = .ok (some selection) →
        ∃ (table : String) (conditions : List (String × Value)),
          selection = (TableSelection.ofTable table).behind
            (conditions.map Fragment.equality) := by
    intro row opens
    obtain ⟨start, opens, made⟩ := map_eq_ok opens
    obtain ⟨table, column, key, _, _, _, rfl⟩ := openedRelated_eq_ok opens
    exact ⟨table, _, (Option.some.inj made).symm⟩
  have ofReferenced :
      ∀ row table column, (database.referenced row table column).mapError RequestError.execution =
        .ok (some selection) →
          ∃ (table : String) (conditions : List (String × Value)),
            selection = (TableSelection.ofTable table).behind
              (conditions.map Fragment.equality) := by
    intro row table column opens
    obtain ⟨condition, made⟩ := referenced_eq_ok (mapError_eq_ok opens)
    exact ⟨table, [condition], made⟩
  cases kind with
  | table => exact ofTable opens
  | tableCount => exact ofTable opens
  | belongsTo =>
      cases parent with
      | none => cases opens
      | some row =>
          obtain ⟨table, _, opens⟩ := bind_eq_ok opens
          obtain ⟨column, _, opens⟩ := bind_eq_ok opens
          exact ofReferenced row table column opens
  | hasMany =>
      cases parent with
      | none => cases opens
      | some row => exact ofRelated row opens
  | hasManyCount =>
      cases parent with
      | none => cases opens
      | some row => exact ofRelated row opens
  | morphTo =>
      cases parent with
      | none => cases opens
      | some row =>
          obtain ⟨relation, _, opens⟩ := bind_eq_ok opens
          rw [openedMorph] at opens
          split at opens
          · cases opens
          · split at opens
            · cases opens
            · exact ofReferenced row _ relation.idColumn opens

/-- A reached selection is made by the calls of the arguments of its kind, with
conditions of the relation in front. -/
theorem reached_eq_ok
    (reaches : database.reached compiler typeNames kind parent arguments settings =
      .ok (some selection)) :
    ∃ (table : String) (conditions : List (String × Value)) (calls : List Narrowing),
      compiler.argumentCalls (kind.applied arguments) = .ok calls ∧
        selection = (calls.foldl TableSelection.narrow (.ofTable table)).behind
          (conditions.map Fragment.equality) := by
  obtain ⟨opened?, opens, narrows⟩ := bind_eq_ok reaches
  cases opened? with
  | none => cases narrows
  | some opened =>
      obtain ⟨calls, compiled, made⟩ := map_eq_ok narrows
      obtain ⟨table, conditions, rfl⟩ := opened_eq_ok opens
      refine ⟨table, conditions, calls, compiled, ?_⟩
      rw [← Option.some.inj made, TableSelection.foldl_narrow_behind]

theorem reached_related_eq_ok (isRelated : kind = .hasMany ∨ kind = .hasManyCount)
    (reaches : database.reached compiler typeNames kind (some row) arguments settings =
      .ok (some selection)) :
    ∃ table column key calls, settings.tableName = some table ∧
      settings.referencingColumn = some column ∧ database.primaryKey row.table = .ok key ∧
        compiler.argumentCalls (kind.applied arguments) = .ok calls ∧
          selection = (calls.foldl TableSelection.narrow (.ofTable table)).behind
            ((relatedConditions row settings column key).map Fragment.equality) := by
  have opens : database.opened typeNames kind (some row) settings =
      (database.openedRelated row settings).map some := by
    rcases isRelated with rfl | rfl <;> rfl
  rw [reached, opens] at reaches
  obtain ⟨opened?, mapped, narrows⟩ := bind_eq_ok reaches
  obtain ⟨opened, openedRelated, rfl⟩ := map_eq_ok mapped
  obtain ⟨calls, compiled, made⟩ := map_eq_ok narrows
  obtain ⟨table, column, key, tableSet, columnSet, isKey, rfl⟩ :=
    openedRelated_eq_ok openedRelated
  refine ⟨table, column, key, calls, tableSet, columnSet, isKey, compiled, ?_⟩
  rw [← Option.some.inj made, TableSelection.foldl_narrow_behind]

end Database

end TableGraph
