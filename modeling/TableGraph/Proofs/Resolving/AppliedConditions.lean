import TableGraph.Proofs.Condition.Faults
import TableGraph.Proofs.Resolving.RefusedConditions

/-!
# Applied conditions

The conditions of a field are applied to its selection as a whole or not at all.  The main
statement, `Resolver.conditions_apply_or_fault`, says which calls the selection receives, and
that it receives none exactly when an entry that one of the clauses looks at has a fault.
-/

namespace TableGraph

namespace Resolver

variable {State Selection : Type}

/-- The calls of conditions whose parts compile to these: a part that says nothing has none. -/
def callsOfParts (filter group having : Option Fragment) : List Narrowing :=
  (filter.map Narrowing.filter).toList ++ (group.map Narrowing.group).toList ++
    (having.map Narrowing.having).toList

/-- How the conditions of a field are applied to a selection. -/
structure Applies (resolver : Resolver State Selection) (conditions : Conditions)
    (selection : Selection) (session : Session State) : Prop where
  /-- When a clause fails, the selection is left as it is, and so is the session. -/
  refuses : Fails (resolver.compiler.clause .row conditions.rowAll conditions.rowAny) ∨
      Fails (resolver.compiler.clause .group conditions.groupAll conditions.groupAny) →
    ∃ failure, resolver.narrow selection (resolver.compiler.conditionCalls conditions) session =
      (.error failure, session)
  /-- Otherwise it is narrowed by what the parts have compiled to, and by nothing else. -/
  narrows : ∀ filter having,
    resolver.compiler.clause .row conditions.rowAll conditions.rowAny = .ok filter →
    resolver.compiler.clause .group conditions.groupAll conditions.groupAny = .ok having →
      resolver.narrow selection (resolver.compiler.conditionCalls conditions) session =
        Resolving.call (resolver.datastore.narrowAll selection
          (callsOfParts filter (resolver.compiler.grouping conditions.groupColumns) having))
          session

theorem applies_conditions (resolver : Resolver State Selection) (conditions : Conditions)
    (selection : Selection) (session : Session State) :
    resolver.Applies conditions selection session where
  refuses := by
    intro refused
    have failed : Fails (resolver.compiler.conditionCalls conditions) :=
      fails_bind_bind_iff.mpr refused
    obtain ⟨failure, failed⟩ := failed
    rw [failed]
    exact ⟨failure, Resolving.bind_of_error (Resolving.lift_eq _) _⟩
  narrows := by
    intro filter having rows groups
    have compiled : resolver.compiler.conditionCalls conditions =
        .ok (callsOfParts filter (resolver.compiler.grouping conditions.groupColumns) having) := by
      rw [Compiler.conditionCalls, rows, groups]
      rfl
    rw [compiled]
    exact Resolving.bind_of_ok (Resolving.lift_eq _) _

/-- A clause fails exactly when one of the entries it looks at has a fault; a selection then
receives no call, and otherwise one for each part of the conditions that says something, the
filter first, the group behind it and the filter on groups last. -/
theorem conditions_apply_or_fault (resolver : Resolver State Selection) :
    (∀ clause all any, Fails (resolver.compiler.clause clause all any) ↔
      ∃ depth entry, Condition.StandsAt clause (all ++ any) depth entry ∧
        resolver.compiler.EntryFault clause depth entry) ∧
      ∀ conditions selection session, resolver.Applies conditions selection session :=
  ⟨fun _ _ _ => Compiler.clause_fails_iff, resolver.applies_conditions⟩

/-! ## A selection that notes its calls -/

private def notebook : Datastore (List Narrowing) Unit where
  readStructure noted := (.ok ⟨[]⟩, noted)
  readVersion noted := (.ok 0, noted)
  openTable _ noted := ((), noted)
  openRelated _ _ _ noted := (.ok (), noted)
  openReferenced _ _ _ noted := (.ok none, noted)
  narrow _ call noted := ((), noted ++ [call])
  fetch _ noted := ((.ok [], ()), noted)
  count _ _ noted := ((.ok 0, ()), noted)
  statement _ := ""
  elapsed _ := 0

/-- A resolver whose conditions nest one level deep. -/
private def keeper : Resolver (List Narrowing) Unit := ⟨notebook, ⟨false, 1⟩, []⟩

private def dear : Condition := ⟨some "price", some "MORE_THAN", [some "10"], [], [], [], []⟩

/-- The comparator of an entry with nested ones plays no part. -/
private def dearByKind : Conditions :=
  { Conditions.blank with
    rowAll := [⟨some "price", some "SOUNDS_LIKE", [], [dear], [], [], []⟩]
    groupColumns := [some "kind", none] }

private def nestedTwice : Condition :=
  { Condition.blank with groupAny := [{ Condition.blank with groupAll := [dear] }] }

/-- What the selection has been told is noted; nothing is when the groups are filtered by
conditions that are nested too deep, even though the filter on rows would compile. -/
theorem conditions_apply_or_fault_notebook :
    keeper.narrow () (keeper.compiler.conditionCalls dearByKind) ⟨[], none, none⟩ =
        (.ok (), ⟨[.filter ⟨"(?name > ?)", [.identifier "price", .value (.integer 10)]⟩,
          .group ⟨"?name", [.identifier "kind"]⟩], none, none⟩) ∧
      ∃ failure, keeper.narrow ()
          (keeper.compiler.conditionCalls { dearByKind with groupAll := [nestedTwice] })
          ⟨[], none, none⟩ = (.error failure, ⟨[], none, none⟩) := by
  obtain ⟨faults, applies⟩ := conditions_apply_or_fault keeper
  constructor
  · exact (applies dearByKind () _).narrows _ _ rfl rfl
  · have fault : keeper.compiler.EntryFault .group 1 { Condition.blank with groupAll := [dear] } :=
      .tooDeep rfl (List.cons_ne_nil _ _)
    refine (applies _ () _).refuses (Or.inr ((faults .group _ _).mpr ⟨1, _, ?_, fault⟩))
    exact .nested (.top List.mem_cons_self) List.mem_cons_self

end Resolver

end TableGraph
