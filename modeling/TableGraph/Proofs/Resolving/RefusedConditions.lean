import TableGraph.Proofs.Resolving.Counting

/-!
# Refused conditions

Conditions that do not compile fail a field before its selection is narrowed, and nothing is
executed or logged (`Resolver.resolve_root_of_refused`, `Resolver.resolve_related_of_refused`).
A root field has made no call by then that can fail.  A field of related rows has asked the
datastore for them first: this call is always made, and if it fails, its failure is what the
client is told (`Resolver.refuses_and_aborts_iff`).
-/

namespace TableGraph

variable {State Selection First : Type}

/-! ## Calls of a datastore -/

/-- A call of a datastore. -/
inductive StoreCall where
  | readStructure
  | readVersion
  | openTable
  | openRelated
  | openReferenced
  | narrow
  | fetch
  | count
  deriving DecidableEq, Repr

/-- Whether a call can fail or read the database; the others only build a selection. -/
def StoreCall.consults : StoreCall → Bool
  | .openTable => false
  | .narrow => false
  | _ => true

namespace Datastore

/-- A call that is noted behind the calls before it. -/
def noting (call : StoreCall) (action : StateM State First) :
    StateM (State × List StoreCall) First := fun traced =>
  ((action traced.1).1, (action traced.1).2, traced.2 ++ [call])

/-- A datastore that notes the calls that are made. -/
def traced (datastore : Datastore State Selection) :
    Datastore (State × List StoreCall) Selection where
  readStructure := noting .readStructure datastore.readStructure
  readVersion := noting .readVersion datastore.readVersion
  openTable table := noting .openTable (datastore.openTable table)
  openRelated row table column := noting .openRelated (datastore.openRelated row table column)
  openReferenced row table column :=
    noting .openReferenced (datastore.openReferenced row table column)
  narrow selection call := noting .narrow (datastore.narrow selection call)
  fetch selection := noting .fetch (datastore.fetch selection)
  count selection expression := noting .count (datastore.count selection expression)
  statement := datastore.statement
  elapsed traced := datastore.elapsed traced.1

theorem narrowAll_traced (datastore : Datastore State Selection) (selection : Selection)
    (calls : List Narrowing) (state : State × List StoreCall) :
    (datastore.traced.narrowAll selection calls state).2.2 =
      state.2 ++ calls.map fun _ => .narrow := by
  induction calls generalizing selection state with
  | nil => exact (List.append_nil _).symm
  | cons head tail inductionHypothesis =>
      refine (inductionHypothesis (datastore.narrow selection head state.1).1
        ((datastore.narrow selection head state.1).2, state.2 ++ [.narrow])).trans ?_
      rw [List.append_assoc, List.map_cons, List.singleton_append]

end Datastore

namespace Resolver

open Resolving

/-- A resolver whose datastore notes the calls that are made. -/
def traced (resolver : Resolver State Selection) : Resolver (State × List StoreCall) Selection :=
  ⟨resolver.datastore.traced, resolver.compiler, resolver.typeNames⟩

/-- The calls that a field makes. -/
def callsOf (resolver : Resolver State Selection) (kind : ResolverKind) (parent : Option Row)
    (arguments : Arguments) (settings : FieldSettings) (session : Session State) :
    List StoreCall :=
  (resolver.traced.resolve kind parent arguments settings
    ⟨(session.store, []), session.logs⟩).2.store.2

/-- A field fails with an error before it consults the datastore: it executes nothing and
leaves the logs as they are. -/
structure Aborts (resolver : Resolver State Selection) (kind : ResolverKind) (parent : Option Row)
    (arguments : Arguments) (settings : FieldSettings) (session : Session State)
    (failure : RequestError) : Prop where
  answer : (resolver.resolve kind parent arguments settings session).1 = .error failure
  logs : (resolver.resolve kind parent arguments settings session).2.logs = session.logs
  calls : ∀ call ∈ resolver.callsOf kind parent arguments settings session, call.consults = false

/-! ## Fields with refused conditions -/

variable {resolver : Resolver State Selection} {arguments : Arguments} {settings : FieldSettings}
  {failure : RequestError} {table column : String} {kind : ResolverKind} {row : Row}

section Refused

variable (refused : resolver.compiler.conditionCalls arguments.conditions = .error failure)

include refused

theorem fetch_of_refused (selection : Selection) (session : Session State) :
    resolver.fetch selection arguments session = (.error failure, session) := by
  have fails := Compiler.argumentCalls_eq_error_iff.mpr refused
  have narrows : resolver.narrow selection (resolver.compiler.argumentCalls arguments) session =
      (.error failure, session) := by
    rw [fails]
    exact bind_of_error (lift_eq _) _
  exact bind_of_error narrows _

theorem count_of_refused (selection : Selection) (session : Session State) :
    resolver.count selection arguments session = (.error failure, session) := by
  have narrows :
      resolver.narrow selection (resolver.compiler.conditionCalls arguments.conditions) session =
        (.error failure, session) := by
    rw [refused]
    exact bind_of_error (lift_eq _) _
  exact bind_of_error narrows _

/-- A root field has only opened its table. -/
theorem resolve_root_of_refused (isRoot : kind = .table ∨ kind = .tableCount)
    (isTable : settings.tableName = some table) (parent : Option Row) (session : Session State) :
    resolver.resolve kind parent arguments settings session =
      (.error failure,
        { session with store := (resolver.datastore.openTable table session.store).2 }) := by
  have opened : resolver.openTable settings session =
      (.ok (resolver.datastore.openTable table session.store).1,
        { session with store := (resolver.datastore.openTable table session.store).2 }) := by
    rw [openTable, FieldSettings.requireTable_of_set isTable]
    rfl
  rcases isRoot with rfl | rfl
  · exact (bind_of_ok opened _).trans (bind_of_error (fetch_of_refused refused _ _) _)
  · exact (bind_of_ok opened _).trans (bind_of_error (count_of_refused refused _ _) _)

/-- A field of related rows has asked for them, and a failure of the datastore comes first. -/
theorem resolve_related_of_refused (isRelated : kind = .hasMany ∨ kind = .hasManyCount)
    (isTable : settings.tableName = some table)
    (isColumn : settings.referencingColumn = some column) (row : Row) (session : Session State) :
    resolver.resolve kind (some row) arguments settings session =
      match resolver.datastore.openRelated row table column session.store with
      | (.error storeFailure, next) =>
        (.error (.execution storeFailure), { session with store := next })
      | (.ok selection, next) =>
        let filters := settings.referencingTypeColumn.toList.map fun typeColumn =>
          typeFilter typeColumn row.table
        (.error failure,
          { session with store := (resolver.datastore.narrowAll selection filters next).2 }) := by
  have opened : resolver.openRelated row settings session =
      match resolver.datastore.openRelated row table column session.store with
      | (.error storeFailure, next) =>
        (.error (.execution storeFailure), { session with store := next })
      | (.ok selection, next) =>
        let filters := settings.referencingTypeColumn.toList.map fun typeColumn =>
          typeFilter typeColumn row.table
        (.ok (resolver.datastore.narrowAll selection filters next).1,
          { session with store := (resolver.datastore.narrowAll selection filters next).2 }) := by
    have called : Resolving.call (resolver.datastore.openRelated row table column) session =
        (.ok (resolver.datastore.openRelated row table column session.store).1,
          { session with
            store := (resolver.datastore.openRelated row table column session.store).2 }) := rfl
    rw [openRelated, FieldSettings.requireTable_of_set isTable,
      FieldSettings.requireColumn_of_set isColumn, bind_of_ok (lift_eq _), bind_of_ok (lift_eq _)]
    cases related : resolver.datastore.openRelated row table column session.store with
    | mk answer next =>
        rw [related] at called
        cases answer with
        | error storeFailure =>
            have attempted : attempt (resolver.datastore.openRelated row table column) session =
                (.error (.execution storeFailure), { session with store := next }) :=
              bind_of_ok called _
            exact bind_of_error attempted _
        | ok selection =>
            have attempted : attempt (resolver.datastore.openRelated row table column) session =
                (.ok selection, { session with store := next }) := bind_of_ok called _
            exact bind_of_ok attempted _
  cases related : resolver.datastore.openRelated row table column session.store with
  | mk answer next =>
      rw [related] at opened
      cases answer with
      | error storeFailure =>
          rcases isRelated with rfl | rfl
          · exact bind_of_error opened _
          · exact bind_of_error opened _
      | ok selection =>
          rcases isRelated with rfl | rfl
          · exact (bind_of_ok opened _).trans (bind_of_error (fetch_of_refused refused _ _) _)
          · exact (bind_of_ok opened _).trans (bind_of_error (count_of_refused refused _ _) _)

theorem callsOf_root_of_refused (isRoot : kind = .table ∨ kind = .tableCount)
    (isTable : settings.tableName = some table) (parent : Option Row) (session : Session State) :
    resolver.callsOf kind parent arguments settings session = [.openTable] := by
  have alike : resolver.traced.compiler.conditionCalls arguments.conditions = .error failure :=
    refused
  have resolved := resolve_root_of_refused alike isRoot isTable parent
    ⟨(session.store, []), session.logs⟩
  rw [callsOf, resolved]
  rfl

theorem callsOf_related_of_refused (isRelated : kind = .hasMany ∨ kind = .hasManyCount)
    (isTable : settings.tableName = some table)
    (isColumn : settings.referencingColumn = some column) (row : Row) (session : Session State) :
    ∃ filters : List Narrowing, resolver.callsOf kind (some row) arguments settings session =
      .openRelated :: filters.map fun _ => .narrow := by
  have alike : resolver.traced.compiler.conditionCalls arguments.conditions = .error failure :=
    refused
  have resolved := resolve_related_of_refused alike isRelated isTable isColumn row
    ⟨(session.store, []), session.logs⟩
  have related : resolver.traced.datastore.openRelated row table column (session.store, []) =
      ((resolver.datastore.openRelated row table column session.store).1,
        (resolver.datastore.openRelated row table column session.store).2, [.openRelated]) := rfl
  rw [callsOf, resolved, related]
  cases (resolver.datastore.openRelated row table column session.store).1 with
  | error storeFailure => exact ⟨[], rfl⟩
  | ok selection => exact ⟨_, resolver.datastore.narrowAll_traced selection _ _⟩

end Refused

/-- What a field does when its conditions are refused: it executes and logs nothing, and is
answered with the refusal or with the failure to find the related rows. -/
structure Refuses (resolver : Resolver State Selection) (kind : ResolverKind) (parent : Option Row)
    (arguments : Arguments) (settings : FieldSettings) (session : Session State)
    (failure : RequestError) : Prop where
  answer : (resolver.resolve kind parent arguments settings session).1 = .error failure ∨
    ∃ row table column storeFailure, parent = some row ∧ settings.tableName = some table ∧
      settings.referencingColumn = some column ∧
      (resolver.datastore.openRelated row table column session.store).1 = .error storeFailure ∧
      (resolver.resolve kind parent arguments settings session).1 = .error (.execution storeFailure)
  logs : (resolver.resolve kind parent arguments settings session).2.logs = session.logs
  calls : ∀ call ∈ resolver.callsOf kind parent arguments settings session,
    call = .openTable ∨ call = .openRelated ∨ call = .narrow

/-- Refused conditions fail every field without executing anything.  They do so before the
datastore is consulted exactly for the root fields. -/
theorem refuses_and_aborts_iff (takes : kind ≠ .belongsTo ∧ kind ≠ .morphTo)
    {parent : Option Row} (given : kind.needsParent = true → parent.isSome = true)
    (isTable : settings.tableName.isSome = true)
    (isColumn : kind.needsParent = true → settings.referencingColumn.isSome = true)
    (refused : resolver.compiler.conditionCalls arguments.conditions = .error failure)
    (session : Session State) :
    resolver.Refuses kind parent arguments settings session failure ∧
      (resolver.Aborts kind parent arguments settings session failure ↔
        kind.needsParent = false) := by
  obtain ⟨table, isTable⟩ := Option.isSome_iff_exists.mp isTable
  have root (isRoot : kind = .table ∨ kind = .tableCount) :
      resolver.Refuses kind parent arguments settings session failure ∧
        resolver.Aborts kind parent arguments settings session failure := by
    have resolved := resolve_root_of_refused refused isRoot isTable parent session
    have calls := callsOf_root_of_refused refused isRoot isTable parent session
    have answer : (resolver.resolve kind parent arguments settings session).1 = .error failure := by
      rw [resolved]
    have logs : (resolver.resolve kind parent arguments settings session).2.logs =
        session.logs := by
      rw [resolved]
    constructor
    · refine ⟨Or.inl answer, logs, fun call isCall => ?_⟩
      rw [calls] at isCall
      exact Or.inl (List.mem_singleton.mp isCall)
    · refine ⟨answer, logs, fun call isCall => ?_⟩
      rw [calls] at isCall
      rw [List.mem_singleton.mp isCall]
      rfl
  have related (isRelated : kind = .hasMany ∨ kind = .hasManyCount)
      (needs : kind.needsParent = true) :
      resolver.Refuses kind parent arguments settings session failure ∧
        ¬ resolver.Aborts kind parent arguments settings session failure := by
    obtain ⟨row, rfl⟩ := Option.isSome_iff_exists.mp (given needs)
    obtain ⟨column, isColumn⟩ := Option.isSome_iff_exists.mp (isColumn needs)
    have resolved := resolve_related_of_refused refused isRelated isTable isColumn row session
    obtain ⟨filters, calls⟩ :=
      callsOf_related_of_refused refused isRelated isTable isColumn row session
    refine ⟨⟨?_, ?_, ?_⟩, fun aborts => ?_⟩
    · rw [resolved]
      cases opened : resolver.datastore.openRelated row table column session.store with
      | mk answer next =>
          cases answer with
          | error storeFailure =>
              exact Or.inr ⟨row, table, column, storeFailure, rfl, isTable, isColumn,
                by rw [opened], rfl⟩
          | ok selection => exact Or.inl rfl
    · rw [resolved]
      cases resolver.datastore.openRelated row table column session.store with
      | mk answer next => cases answer <;> rfl
    · rw [calls]
      intro call isCall
      rcases List.mem_cons.mp isCall with isFirst | later
      · exact Or.inr (Or.inl isFirst)
      · obtain ⟨_, _, isNarrow⟩ := List.mem_map.mp later
        exact Or.inr (Or.inr isNarrow.symm)
    · have quiet := aborts.calls .openRelated (calls ▸ List.mem_cons_self)
      cases quiet
  -- Whoever needs a parent has asked for its rows: the only call that consults the datastore.
  cases kind with
  | table => exact (root (Or.inl rfl)).imp_right fun aborts => iff_of_true aborts rfl
  | tableCount => exact (root (Or.inr rfl)).imp_right fun aborts => iff_of_true aborts rfl
  | belongsTo => exact absurd rfl takes.1
  | hasMany =>
      exact (related (Or.inl rfl) rfl).imp_right fun aborts => iff_of_false aborts (by decide)
  | hasManyCount =>
      exact (related (Or.inr rfl) rfl).imp_right fun aborts => iff_of_false aborts (by decide)
  | morphTo => exact absurd rfl takes.2

/-! ## A comparator that is none -/

private def soundsLike : Arguments where
  pagination := none
  order := []
  conditions :=
    { Conditions.blank with
      rowAll := [{ Condition.blank with
        column := some "id", comparator := some "SOUNDS_LIKE", values := [some "1"] }] }

private def remarksSettings : FieldSettings :=
  { FieldSettings.blank with tableName := some "comments", referencingColumn := some "post_id" }

private def droppedPost : Row := ⟨"posts", [("id", .integer 1)]⟩

/-- The rows of a table are not asked for when the comparator of a condition is none. -/
theorem refuses_and_aborts_iff_soundsLike :
    (Database.resolver (.new false) []).Refuses .table none soundsLike remarksSettings
        ⟨Database.empty, none, none⟩ (.unknownComparator "SOUNDS_LIKE") ∧
      ((Database.resolver (.new false) []).Aborts .table none soundsLike remarksSettings
          ⟨Database.empty, none, none⟩ (.unknownComparator "SOUNDS_LIKE") ↔
        ResolverKind.table.needsParent = false) :=
  refuses_and_aborts_iff (by decide) (by decide) rfl (by decide) rfl _

/-- The comments of a post are asked for first: when the table of the post is not there, this
is what the client is told, and not that the comparator is none. -/
theorem not_aborts_soundsLike :
    (Compiler.new false).conditionCalls soundsLike.conditions =
        .error (.unknownComparator "SOUNDS_LIKE") ∧
      ((Database.resolver (.new false) []).resolve .hasMany (some droppedPost) soundsLike
          remarksSettings ⟨Database.empty, none, none⟩).1 =
        .error (.execution (.tableNotFound "posts")) ∧
      ¬ (Database.resolver (.new false) []).Aborts .hasMany (some droppedPost) soundsLike
        remarksSettings ⟨Database.empty, none, none⟩ (.unknownComparator "SOUNDS_LIKE") := by
  have told : ((Database.resolver (.new false) []).resolve .hasMany (some droppedPost) soundsLike
      remarksSettings ⟨Database.empty, none, none⟩).1 =
        .error (.execution (.tableNotFound "posts")) := rfl
  refine ⟨rfl, told, fun aborts => ?_⟩
  cases told.symm.trans aborts.answer

end Resolver

end TableGraph
