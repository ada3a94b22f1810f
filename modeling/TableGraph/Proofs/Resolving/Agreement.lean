import Mathlib
import TableGraph.Resolver

/-!
# Runs on two states

Two computations agree on twin states when each leaves its state as it is, both log the same
entries, all of a kind, and they fail alike or give answers that are related.  The rules below
follow the way computations are put together.
-/

namespace TableGraph

/-- Outcomes that fail alike or have related answers. -/
inductive AlikeOutcomes {Failure First Second : Type} (related : First → Second → Prop) :
    Except Failure First → Except Failure Second → Prop where
  | ok {first : First} {second : Second} (isRelated : related first second) :
      AlikeOutcomes related (.ok first) (.ok second)
  | error (failure : Failure) : AlikeOutcomes related (.error failure) (.error failure)

/-- A computation that acts on a session. -/
abbrev Acting (State Failure Answer : Type) : Type :=
  ExceptT Failure (StateM (Session State)) Answer

theorem Acting.bind_of_eq {State Failure First Second : Type} {action : Acting State Failure First}
    {session next : Session State} {outcome : Except Failure First}
    (acts : action session = (outcome, next)) (rest : First → Acting State Failure Second) :
    (action >>= rest) session = ExceptT.bindCont rest outcome next := by
  change ExceptT.bindCont rest (action session).1 (action session).2 = _
  rw [acts]

/-! ## Logs -/

/-- The logs with entries behind the ones they hold. -/
def QueryLogs.after (logs : QueryLogs) (entries : List String) : QueryLogs :=
  logs.update fun log => ⟨log.entries ++ entries⟩

namespace QueryLogs

@[simp]
theorem after_nil (logs : QueryLogs) : logs.after [] = logs := by
  obtain ⟨request, resolver⟩ := logs
  cases request <;> cases resolver <;> simp [after, update]

@[simp]
theorem after_after (logs : QueryLogs) (entries others : List String) :
    (logs.after entries).after others = logs.after (entries ++ others) := by
  obtain ⟨request, resolver⟩ := logs
  cases request <;> cases resolver <;> simp [after, update]

end QueryLogs

/-! ## Agreement -/

/-- Two states, with the entries that may be logged of either. -/
structure Twins (State : Type) where
  first : State
  second : State
  permits : String → Prop

/-- On twin states the computations agree. -/
def Agree {State Failure First Second : Type} (twins : Twins State)
    (related : First → Second → Prop) (action : Acting State Failure First)
    (other : Acting State Failure Second) : Prop :=
  ∀ logs, ∃ outcome otherOutcome entries,
    action ⟨twins.first, logs⟩ = (outcome, ⟨twins.first, logs.after entries⟩) ∧
      other ⟨twins.second, logs⟩ = (otherOutcome, ⟨twins.second, logs.after entries⟩) ∧
        AlikeOutcomes related outcome otherOutcome ∧ ∀ entry ∈ entries, twins.permits entry

theorem AlikeOutcomes.mono {Failure First Second : Type} {related weaker : First → Second → Prop}
    {outcome : Except Failure First} {other : Except Failure Second}
    (alike : AlikeOutcomes related outcome other)
    (implies : ∀ first second, related first second → weaker first second) :
    AlikeOutcomes weaker outcome other := by
  cases alike with
  | ok isRelated => exact .ok (implies _ _ isRelated)
  | error failure => exact .error failure

theorem AlikeOutcomes.with_first {Failure First Second : Type} {related : First → Second → Prop}
    {meets : First → Prop} {outcome : Except Failure First} {other : Except Failure Second}
    (alike : AlikeOutcomes related outcome other)
    (meet : ∀ answer, outcome = .ok answer → meets answer) :
    AlikeOutcomes (fun first second => related first second ∧ meets first) outcome other := by
  cases alike with
  | ok isRelated => exact .ok ⟨isRelated, meet _ rfl⟩
  | error failure => exact .error failure

theorem alikeOutcomes_of_map {Failure First Second Seen : Type} {outcome : Except Failure First}
    {other : Except Failure Second} {view : First → Seen} {otherView : Second → Seen}
    (same : outcome.map view = other.map otherView) :
    AlikeOutcomes (fun first second => view first = otherView second) outcome other := by
  cases outcome with
  | error failure =>
      cases other with
      | error otherFailure =>
          obtain rfl := Except.error.inj same
          exact .error failure
      | ok answer => cases same
  | ok answer =>
      cases other with
      | error otherFailure => cases same
      | ok otherAnswer => exact .ok (Except.ok.inj same)

theorem alikeOutcomes_refl {Failure Answer : Type} (outcome : Except Failure Answer) :
    AlikeOutcomes (· = ·) outcome outcome := by
  cases outcome with
  | error failure => exact .error failure
  | ok answer => exact .ok rfl

namespace Agree

variable {State Failure First Second Third Fourth : Type} {twins : Twins State}
  {related : First → Second → Prop} {action : Acting State Failure First}
  {other : Acting State Failure Second}

/-! ## Rules -/

/-- Computations that come down to results, which leave the session as it is. -/
theorem of_results {result : Except Failure First} {otherResult : Except Failure Second}
    (alike : AlikeOutcomes related result otherResult)
    (acts : ∀ logs, action ⟨twins.first, logs⟩ = (result, ⟨twins.first, logs⟩))
    (otherActs : ∀ logs, other ⟨twins.second, logs⟩ = (otherResult, ⟨twins.second, logs⟩)) :
    Agree twins related action other := by
  intro logs
  refine ⟨result, otherResult, [], ?_, ?_, alike, fun entry absent => by cases absent⟩
  · rw [acts, logs.after_nil]
  · rw [otherActs, logs.after_nil]

theorem of_answers {answer : First} {otherAnswer : Second} (areRelated : related answer otherAnswer) :
    Agree twins related (pure answer : Acting State Failure First) (pure otherAnswer) :=
  of_results (.ok areRelated) (fun _ => rfl) fun _ => rfl

theorem of_failure (failure : Failure) :
    Agree twins related (throw failure : Acting State Failure First) (throw failure) :=
  of_results (.error failure) (fun _ => rfl) fun _ => rfl

theorem bind {restRelated : Third → Fourth → Prop} {rest : First → Acting State Failure Third}
    {otherRest : Second → Acting State Failure Fourth} (agree : Agree twins related action other)
    (restAgree : ∀ answer otherAnswer, related answer otherAnswer →
      Agree twins restRelated (rest answer) (otherRest otherAnswer)) :
    Agree twins restRelated (action >>= rest) (other >>= otherRest) := by
  intro logs
  obtain ⟨outcome, otherOutcome, entries, acts, otherActs, alike, permitted⟩ := agree logs
  rw [Acting.bind_of_eq acts, Acting.bind_of_eq otherActs]
  cases alike with
  | error failure =>
      exact ⟨.error failure, .error failure, entries, rfl, rfl, .error failure, permitted⟩
  | ok areRelated =>
      obtain ⟨last, otherLast, others, acts, otherActs, alike, othersPermitted⟩ :=
        restAgree _ _ areRelated (logs.after entries)
      rw [logs.after_after] at acts otherActs
      refine ⟨last, otherLast, entries ++ others, acts, otherActs, alike, ?_⟩
      exact List.forall_mem_append.mpr ⟨permitted, othersPermitted⟩

/-- Failures that are changed alike. -/
theorem mapError {Other : Type} (agree : Agree twins related action other)
    (change : Failure → Other) :
    Agree twins related
      (fun session => ((action session).1.mapError change, (action session).2))
      (fun session => ((other session).1.mapError change, (other session).2)) := by
  intro logs
  obtain ⟨outcome, otherOutcome, entries, acts, otherActs, alike, permitted⟩ := agree logs
  refine ⟨outcome.mapError change, otherOutcome.mapError change, entries, ?_, ?_, ?_, permitted⟩
  · simp only [acts]
  · simp only [otherActs]
  · cases alike with
    | ok isRelated => exact .ok isRelated
    | error failure => exact .error (change failure)

theorem mapM {Item Other : Type} {items : List Item} {others : List Other}
    {act : Item → Acting State Failure First} {otherAct : Other → Acting State Failure Second}
    (each : List.Forall₂ (fun item other => Agree twins related (act item) (otherAct other))
      items others) :
    Agree twins (List.Forall₂ related) (items.mapM act) (others.mapM otherAct) := by
  induction each with
  | nil => exact of_answers .nil
  | cons agree _ inductionHypothesis =>
      rw [List.mapM_cons, List.mapM_cons]
      refine agree.bind fun answer otherAnswer isRelated => ?_
      exact inductionHypothesis.bind fun answers otherAnswers areRelated =>
        of_answers (.cons isRelated areRelated)

end Agree

end TableGraph
