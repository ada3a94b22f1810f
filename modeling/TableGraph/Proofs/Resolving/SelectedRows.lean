import TableGraph.Proofs.Resolving.References
import TableGraph.Proofs.Resolving.RowQueries

/-!
# Fields over exact selections

Over a datastore whose selections are exact, the field of related rows resolves to the rows
that hold the key of a row (`Resolver.succeeds_hasMany`), and a reference leads to the row
whose key is held (`Resolver.fetchOne_eq_some_iff`).
-/

namespace TableGraph

namespace Resolving

variable {State First Second : Type} {isState : State → Prop} {action : Resolving State First}
  {meets : First → Prop}

/-- From every session over a state of some kind a computation answers as it should, and
leaves such a session. -/
def Succeeds (isState : State → Prop) (action : Resolving State First) (meets : First → Prop) :
    Prop :=
  ∀ session, isState session.store →
    ∃ answer next, action session = (.ok answer, next) ∧ meets answer ∧ isState next.store

theorem Succeeds.bind {rest : First → Resolving State Second} {restMeets : Second → Prop}
    (succeeds : Succeeds isState action meets)
    (restSucceeds : ∀ answer, meets answer → Succeeds isState (rest answer) restMeets) :
    Succeeds isState (action >>= rest) restMeets := by
  intro session isOne
  obtain ⟨answer, next, acts, meetsAnswer, isNext⟩ := succeeds session isOne
  obtain ⟨last, final, restActs, meetsLast, isFinal⟩ := restSucceeds answer meetsAnswer next isNext
  exact ⟨last, final, (bind_of_ok acts rest).trans restActs, meetsLast, isFinal⟩

theorem succeeds_pure {answer : First} (meetsAnswer : meets answer) :
    Succeeds isState (pure answer) meets :=
  fun session isOne => ⟨answer, session, rfl, meetsAnswer, isOne⟩

theorem succeeds_lift_ok {answer : First} {rest : First → Resolving State Second}
    {restMeets : Second → Prop} (succeeds : Succeeds isState (rest answer) restMeets) :
    Succeeds isState (liftM (.ok answer : Except RequestError First) >>= rest) restMeets := by
  intro session isOne
  rw [bind_of_ok (lift_eq (.ok answer))]
  exact succeeds session isOne

theorem succeeds_call {call : StateM State First} (gives : Gives isState call meets) :
    Succeeds isState (Resolving.call call) meets := by
  intro session isOne
  obtain ⟨meetsAnswer, isNext⟩ := gives session.store isOne
  exact ⟨(call session.store).1, { session with store := (call session.store).2 }, rfl,
    meetsAnswer, isNext⟩

theorem succeeds_attempt {call : StateM State (Except StoreFailure First)}
    (gives : Gives isState call fun answer => ∃ first, answer = .ok first ∧ meets first) :
    Succeeds isState (attempt call) meets := by
  refine (succeeds_call gives).bind fun answer isOk => ?_
  obtain ⟨first, rfl, meetsFirst⟩ := isOk
  exact succeeds_pure meetsFirst

theorem succeeds_execute {Selection : Type} {datastore : Datastore State Selection}
    {run : StateM State (Except StoreFailure First × Selection)}
    (gives : Gives isState run fun executed => ∃ first, executed.1 = .ok first ∧ meets first) :
    Succeeds isState (execute datastore run) meets := by
  refine (succeeds_call gives).bind fun executed isOk => ?_
  obtain ⟨outcome, selection⟩ := executed
  obtain ⟨first, rfl, meetsFirst⟩ := isOk
  have recorded : Succeeds isState (record datastore (.ok first) selection) fun _ => True :=
    fun session isOne => ⟨(), _, rfl, trivial, isOne⟩
  exact recorded.bind fun _ _ => succeeds_pure meetsFirst

end Resolving

/-! ## Fields over exact selections -/

namespace Resolver

open Resolving

variable {State Selection : Type} {resolver : Resolver State Selection} {contents : Contents}
  {isState : State → Prop} {selects : Selection → RowQuery → Prop} {settings : FieldSettings}
  {selection : Selection} {query : RowQuery} {row : Row} {table column key : String}

section Serving

variable (serves : resolver.datastore.SelectsFrom contents isState selects)

include serves

theorem gives_narrowAll (selected : selects selection query) (conditions : List (String × Value)) :
    Gives isState (resolver.datastore.narrowAll selection (conditions.map Narrowing.equality))
      fun narrowed =>
        selects narrowed { query with conditions := query.conditions ++ conditions } := by
  induction conditions generalizing selection query with
  | nil =>
      intro state isOne
      refine ⟨?_, isOne⟩
      rw [List.append_nil]
      exact selected
  | cons head tail inductionHypothesis =>
      intro state isOne
      obtain ⟨narrowed, isNext⟩ := serves.filter selected head state isOne
      have rest := inductionHypothesis narrowed _ isNext
      rw [List.append_assoc, List.singleton_append] at rest
      exact rest

theorem succeeds_openRelated (isTable : settings.tableName = some table)
    (isColumn : settings.referencingColumn = some column)
    (isKey : contents.key? row.table = some key) :
    Succeeds isState (resolver.openRelated row settings) fun selection =>
      selects selection ⟨table, Database.relatedConditions row settings column key, none⟩ := by
  rw [openRelated, FieldSettings.requireTable_of_set isTable,
    FieldSettings.requireColumn_of_set isColumn]
  refine succeeds_lift_ok (succeeds_lift_ok ?_)
  have related := serves.openRelated isKey table column
  refine (succeeds_attempt related).bind fun selection selected => ?_
  have narrowed := gives_narrowAll serves selected
    (settings.referencingTypeColumn.toList.map fun typeColumn => (typeColumn, .text row.table))
  rw [List.map_map] at narrowed
  exact succeeds_call narrowed

theorem succeeds_fetch_blank (selected : selects selection query)
    (known : (contents.key? query.table).isSome = true) :
    Succeeds isState (resolver.fetch selection .blank) (contents.Answers query) := by
  rw [fetch, resolver.compiler.argumentCalls_blank]
  have unchanged : Succeeds isState (resolver.narrow selection (.ok [])) fun narrowed =>
      narrowed = selection :=
    succeeds_lift_ok fun session isOne => ⟨selection, session, rfl, rfl, isOne⟩
  refine unchanged.bind fun narrowed isSelection => ?_
  rw [isSelection]
  exact succeeds_execute (serves.fetch selected known)

/-- Without arguments the related rows are all that hold the key of the row. -/
theorem succeeds_hasMany (isTable : settings.tableName = some table)
    (isColumn : settings.referencingColumn = some column)
    (isKey : contents.key? row.table = some key) (known : (contents.key? table).isSome = true) :
    Succeeds isState (resolver.resolve .hasMany (some row) .blank settings) fun resolved =>
      ∃ rows, resolved = .rows rows ∧
        contents.Answers ⟨table, Database.relatedConditions row settings column key, none⟩
          rows := by
  refine (succeeds_openRelated serves isTable isColumn isKey).bind fun selection selected => ?_
  refine (succeeds_fetch_blank serves selected known).bind fun rows answers => ?_
  exact succeeds_pure ⟨rows, rfl, answers⟩

theorem succeeds_fetchOne_nothing (nothing : (row.valueOf column).isNull = true) (table : String) :
    Succeeds isState (resolver.fetchOne row table column) fun found => found = none := by
  have opened : Succeeds isState
      (attempt (resolver.datastore.openReferenced row table column)) fun opened => opened = none :=
    succeeds_attempt fun state isOne =>
      (serves.openNothing nothing table state isOne).imp_left fun isNone => ⟨none, isNone, rfl⟩
  refine opened.bind fun selection isNone => ?_
  rw [isNone]
  exact succeeds_pure rfl

/-- A value leads to the first of the rows whose key it is. -/
theorem succeeds_fetchOne (something : (row.valueOf column).isNull = false)
    (isKey : contents.key? table = some key) :
    Succeeds isState (resolver.fetchOne row table column) fun found =>
      ∃ rows, contents.Answers ⟨table, [(key, row.valueOf column)], some 1⟩ rows ∧
        found = rows.head? := by
  have opened : Succeeds isState (attempt (resolver.datastore.openReferenced row table column))
      fun opened => ∃ selection, opened = some selection ∧
        selects selection ⟨table, [(key, row.valueOf column)], none⟩ := by
    refine succeeds_attempt fun state isOne =>
      (serves.openReferenced something isKey state isOne).imp_left ?_
    rintro ⟨selection, isSome, selected⟩
    exact ⟨some selection, isSome, selection, rfl, selected⟩
  refine opened.bind fun opened isSome => ?_
  obtain ⟨selection, rfl, selected⟩ := isSome
  refine (succeeds_call (serves.limit selected)).bind fun narrowed limited => ?_
  have known : (contents.key? table).isSome = true := by rw [isKey]; rfl
  refine (succeeds_execute (serves.fetch limited known)).bind fun rows answers => ?_
  exact succeeds_pure ⟨rows, answers, rfl⟩

theorem fetchOne_of_unknown (something : (row.valueOf column).isNull = false)
    (unknown : contents.key? table = none) {session : Session State}
    (isOne : isState session.store) :
    ∃ failure, (resolver.fetchOne row table column session).1 = .error failure := by
  obtain ⟨⟨failure, failed⟩, _⟩ := serves.openUnknown something unknown session.store isOne
  have called : Resolving.call (resolver.datastore.openReferenced row table column) session =
      (.ok (resolver.datastore.openReferenced row table column session.store).1, _) := rfl
  rw [failed] at called
  have attempted : attempt (resolver.datastore.openReferenced row table column) session =
      (.error (.execution failure), _) := bind_of_ok called _
  exact ⟨.execution failure, congrArg Prod.fst (bind_of_error attempted _)⟩

/-- A reference leads to a row exactly when it is one to the table of the row and its column
holds the key of the row. -/
theorem fetchOne_eq_some_iff (row : Row) (table column : String) (keyed : contents.IsKeyed)
    {parent : Row} {parentTable : String} (isParent : parent ∈ contents.rows parentTable)
    (isKey : contents.key? parentTable = some key) {session : Session State}
    (isOne : isState session.store) :
    (resolver.fetchOne row table column session).1 = .ok (some parent) ↔
      table = parentTable ∧ row.holds (column, parent.valueOf key) = true := by
  have named := keyed.named parentTable parent isParent
  -- Null leads nowhere without a call, a table without a key fails, and otherwise the row of
  -- the key is met; only the last of these can lead to the parent.
  by_cases nothing : (row.valueOf column).isNull = true
  · obtain ⟨found, next, acts, rfl, _⟩ :=
      succeeds_fetchOne_nothing serves nothing table session isOne
    rw [acts]
    constructor
    · intro absurdity
      cases absurdity
    · rintro ⟨_, held⟩
      exact absurd (nothing.symm.trans (Row.holds_iff.mp held).1) (by decide)
  · have something := Bool.eq_false_of_not_eq_true nothing
    cases isOwnKey : contents.key? table with
    | none =>
        obtain ⟨failure, failed⟩ := fetchOne_of_unknown serves something isOwnKey isOne
        rw [failed]
        constructor
        · intro absurdity
          cases absurdity
        · rintro ⟨rfl, _⟩
          cases isKey.symm.trans isOwnKey
    | some own =>
        obtain ⟨_, next, acts, ⟨rows, answers, rfl⟩, _⟩ :=
          succeeds_fetchOne serves something isOwnKey session isOne
        rw [acts]
        by_cases sameTable : table = parentTable
        · subst sameTable
          obtain rfl := Option.some.inj (isKey.symm.trans isOwnKey)
          rw [Except.ok.injEq, answers.head?_eq_some_iff keyed isKey isParent, Row.holds_swap]
          simp
        · refine ⟨fun isHead => ?_, fun leads => absurd leads.1 sameTable⟩
          have isRow := (answers.mem_rows (List.mem_of_mem_head? (Except.ok.inj isHead)))
          exact absurd ((keyed.named table parent isRow).symm.trans named) sameTable

end Serving

end Resolver

end TableGraph
