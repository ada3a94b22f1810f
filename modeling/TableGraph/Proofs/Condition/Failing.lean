import TableGraph.Condition.Compiler
import TableGraph.Condition.Document

/-!
# How conditions fail

Whatever keeps conditions from being compiled is reported as a failure to compile, never
as a failure of another kind.
-/

namespace TableGraph

variable {First Second : Type}

/-- A result that, if it fails, fails to compile. -/
def FailsToCompile (result : Except RequestError First) : Prop :=
  ∀ failure, result = .error failure → ∃ reason, failure = .compile reason

namespace FailsToCompile

theorem ok (answer : First) : FailsToCompile (.ok answer) := by
  intro failure failed
  cases failed

theorem error (reason : String) : FailsToCompile (.error (.compile reason) : Except _ First) := by
  intro failure failed
  exact ⟨reason, (Except.error.inj failed).symm⟩

theorem map {result : Except RequestError First} (fails : FailsToCompile result)
    (change : First → Second) : FailsToCompile (result.map change) := by
  intro failure failed
  cases result with
  | ok answer => cases failed
  | error other => exact fails failure (congrArg Except.error (Except.error.inj failed))

theorem bind {result : Except RequestError First} {rest : First → Except RequestError Second}
    (fails : FailsToCompile result) (restFails : ∀ answer, FailsToCompile (rest answer)) :
    FailsToCompile (result.bind rest) := by
  intro failure failed
  cases result with
  | ok answer => exact restFails answer failure failed
  | error other => exact fails failure (congrArg Except.error (Except.error.inj failed))

end FailsToCompile

namespace Compiler

variable (compiler : Compiler)

/-! ## Leaves -/

theorem failsToCompile_compareSingle (column : Fragment) (operator : String)
    (values : List (Option String)) :
    FailsToCompile (compiler.compareSingle column operator values) := by
  cases literal : values.head?.join.bind literal? with
  | none =>
      simp only [compareSingle, literal]
      exact FailsToCompile.ok _
  | some text =>
      by_cases trusted : compiler.firstParty
      · simp only [compareSingle, literal, trusted, if_true]
        exact FailsToCompile.ok _
      · simp only [compareSingle, literal, trusted, Bool.false_eq_true, if_false]
        exact FailsToCompile.error _

theorem failsToCompile_compare (comparator : Comparator) (column : Fragment)
    (values : List (Option String)) :
    FailsToCompile (compiler.compare comparator column values) := by
  have single (operator : String) :
      FailsToCompile ((compiler.compareSingle column operator values).map some) :=
    (compiler.failsToCompile_compareSingle column operator values).map some
  cases comparator with
  | notIn =>
      by_cases nothing : (excludedValues values).isEmpty
      · simp only [compare, nothing, if_true]
        exact FailsToCompile.ok none
      · simp only [compare, nothing, Bool.false_eq_true, if_false]
        exact FailsToCompile.ok _
  | isIn => exact FailsToCompile.ok _
  | null => exact FailsToCompile.ok _
  | notNull => exact FailsToCompile.ok _
  | equal => exact single "="
  | notEqual => exact single "!="
  | lessThan => exact single "<"
  | lessThanEqual => exact single "<="
  | moreThan => exact single ">"
  | moreThanEqual => exact single ">="
  | like => exact single "LIKE"
  | notLike => exact single "NOT LIKE"

theorem failsToCompile_comparatorOf (name : Option String) :
    FailsToCompile (comparatorOf name) := by
  cases name with
  | none => exact FailsToCompile.ok _
  | some name =>
      cases known : Comparator.ofName? name with
      | none =>
          simp only [comparatorOf, Comparator.read, known]
          exact FailsToCompile.error _
      | some comparator =>
          simp only [comparatorOf, Comparator.read, known]
          exact FailsToCompile.ok comparator

theorem failsToCompile_leafOf (column comparator : Option String)
    (values : List (Option String)) :
    FailsToCompile (compiler.leafOf column comparator values) := by
  cases column with
  | none => exact FailsToCompile.ok none
  | some column =>
      exact (failsToCompile_comparatorOf comparator).bind fun comparator =>
        compiler.failsToCompile_compare comparator _ values

/-! ## Trees -/

theorem failsToCompile_combine (depth : Nat) (isLeaf : Bool)
    {leaf : Except RequestError (Option Fragment)}
    {all any : Except RequestError (List (Option Fragment))} (leafFails : FailsToCompile leaf)
    (allFails : FailsToCompile all) (anyFails : FailsToCompile any) :
    FailsToCompile (compiler.combine depth isLeaf leaf all any) := by
  unfold combine
  split
  · exact leafFails
  · split
    · exact FailsToCompile.error _
    · exact allFails.bind fun _ => anyFails.bind fun _ => FailsToCompile.ok _

mutual

theorem failsToCompile_entry (clause : Clause) (depth : Nat) :
    ∀ condition : Condition, FailsToCompile (compiler.entry clause depth condition)
  | ⟨column, comparator, values, rowAll, rowAny, groupAll, groupAny⟩ => by
      have leafFails := compiler.failsToCompile_leafOf column comparator values
      cases clause with
      | row =>
          exact compiler.failsToCompile_combine depth _ leafFails
            (failsToCompile_entries .row (depth + 1) rowAll)
            (failsToCompile_entries .row (depth + 1) rowAny)
      | group =>
          exact compiler.failsToCompile_combine depth _ leafFails
            (failsToCompile_entries .group (depth + 1) groupAll)
            (failsToCompile_entries .group (depth + 1) groupAny)

theorem failsToCompile_entries (clause : Clause) (depth : Nat) :
    ∀ conditions : List Condition, FailsToCompile (compiler.entries clause depth conditions)
  | [] => FailsToCompile.ok []
  | first :: rest =>
      (failsToCompile_entry clause depth first).bind fun _ =>
        (failsToCompile_entries clause depth rest).bind fun _ => FailsToCompile.ok _

end

theorem failsToCompile_list (clause : Clause) (connective : String) (depth : Nat)
    (conditions : List Condition) :
    FailsToCompile (compiler.list clause connective depth conditions) := by
  unfold list
  split
  · exact FailsToCompile.error _
  · exact (compiler.failsToCompile_entries clause depth conditions).map _

theorem failsToCompile_clause (clause : Clause) (all any : List Condition) :
    FailsToCompile (compiler.clause clause all any) :=
  (compiler.failsToCompile_list clause Connective.all 0 all).bind fun _ =>
    (compiler.failsToCompile_list clause Connective.any 0 any).bind fun _ => FailsToCompile.ok _

/-! ## Arguments -/

theorem failsToCompile_conditionCalls (conditions : Conditions) :
    FailsToCompile (compiler.conditionCalls conditions) :=
  (compiler.failsToCompile_clause .row conditions.rowAll conditions.rowAny).bind fun _ =>
    (compiler.failsToCompile_clause .group conditions.groupAll conditions.groupAny).bind fun _ =>
      FailsToCompile.ok _

theorem failsToCompile_argumentCalls (arguments : Arguments) :
    FailsToCompile (compiler.argumentCalls arguments) :=
  (compiler.failsToCompile_conditionCalls arguments.conditions).map _

end Compiler

theorem Arguments.failsToCompile_read (fields : List (String × Json)) :
    FailsToCompile (Arguments.read fields) := by
  unfold Arguments.read
  cases ofFields? fields with
  | none => exact FailsToCompile.error _
  | some arguments => exact FailsToCompile.ok arguments

end TableGraph
