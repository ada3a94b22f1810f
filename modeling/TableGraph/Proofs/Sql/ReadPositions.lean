import TableGraph.Proofs.Resolving.Reached
import TableGraph.Proofs.Sql.ClauseColumns

/-!
# Positions that are read

A term reads the cells of a row at the positions of its columns.  When the names of a scope
that are of a kind stand for columns at some positions, the clauses that name such columns
read these positions only, and so do the aggregates they collect (`reads_of_resolveClauses`).
-/

namespace TableGraph

/-! ## Terms -/

/-- A term that reads columns at some positions only. -/
inductive Term.Reads (isRead : Nat → Prop) : Term → Prop where
  | literal (value : Cell) : Reads isRead (.literal value)
  | column {position : Nat} (kind : ColumnKind) (reads : isRead position) :
      Reads isRead (.column position kind)
  | aggregate (position : Nat) : Reads isRead (.aggregate position)
  | unary (operator : UnaryOperator) {operand : Term} (inOperand : Reads isRead operand) :
      Reads isRead (.unary operator operand)
  | binary (operator : BinaryOperator) {left right : Term} (inLeft : Reads isRead left)
      (inRight : Reads isRead right) : Reads isRead (.binary operator left right)
  | isNull {operand : Term} (inOperand : Reads isRead operand) : Reads isRead (.isNull operand)
  | among {operand : Term} {elements : List Term} (inOperand : Reads isRead operand)
      (inElements : ∀ element ∈ elements, Reads isRead element) :
      Reads isRead (.among operand elements)
  | call (function : ScalarFunction) {arguments : List Term}
      (inArguments : ∀ argument ∈ arguments, Reads isRead argument) :
      Reads isRead (.call function arguments)

/-- An aggregate whose argument reads columns at some positions only. -/
def Aggregate.Reads (isRead : Nat → Prop) (aggregate : Aggregate) : Prop :=
  ∀ argument ∈ aggregate.argument, argument.Reads isRead

/-- The columns of a scope whose names are of a kind stand at some positions. -/
def Scope.Places (named : String → Prop) (isRead : Nat → Prop) (scope : Scope) : Prop :=
  ∀ name term, named name → scope.column? name = some term → term.Reads isRead

namespace Term

variable {isRead : Nat → Prop} {named : String → Prop} {scope : Scope} {grouped : Bool}

/-! ## Resolving -/

namespace Resolution

variable {First Second : Type} {resolution : Resolution First} {meets : First → Prop}

/-- A resolution that yields what it should, and collects aggregates that read some
positions only. -/
def Yields (isRead : Nat → Prop) (resolution : Resolution First) (meets : First → Prop) : Prop :=
  ∀ collected answer later, (∀ aggregate ∈ collected, aggregate.Reads isRead) →
    resolution collected = .ok (answer, later) →
      meets answer ∧ ∀ aggregate ∈ later, aggregate.Reads isRead

theorem yields_pure {answer : First} (meetsAnswer : meets answer) :
    Yields isRead (pure answer : Resolution First) meets := by
  intro collected _ _ areRead result
  cases result
  exact ⟨meetsAnswer, areRead⟩

theorem Yields.of_run {answer : First} {later : List Aggregate}
    (ran : resolution.run [] = .ok (answer, later)) (yields : Yields isRead resolution meets) :
    meets answer ∧ ∀ aggregate ∈ later, aggregate.Reads isRead :=
  yields [] answer later (fun _ member => absurd member List.not_mem_nil) ran

theorem yields_get : Yields isRead (get : Resolution (List Aggregate)) fun _ => True := by
  intro collected _ _ areRead result
  cases result
  exact ⟨trivial, areRead⟩

theorem yields_throw (reason : String) : Yields isRead (throw reason : Resolution First) meets := by
  intro collected _ _ _ result
  cases result

theorem Yields.bind (yields : Yields isRead resolution meets) {rest : First → Resolution Second}
    {restMeets : Second → Prop}
    (restYields : ∀ answer, meets answer → Yields isRead (rest answer) restMeets) :
    Yields isRead (resolution >>= rest) restMeets := by
  intro collected answer later areRead result
  have split : (resolution >>= rest) collected =
      (resolution collected).bind fun found => rest found.1 found.2 := rfl
  rw [split] at result
  cases first : resolution collected with
  | error reason => simp [first, Except.bind] at result
  | ok found =>
      rw [first] at result
      obtain ⟨meetsFirst, stillRead⟩ := yields _ _ _ areRead first
      exact restYields found.1 meetsFirst _ _ _ stillRead result

end Resolution

open Resolution

theorem yields_collect {aggregate : Aggregate} (reads : aggregate.Reads isRead) :
    Yields isRead (collect aggregate) (Term.Reads isRead) := by
  intro collected answer later areRead result
  cases result
  refine ⟨.aggregate _, fun other member => ?_⟩
  rcases List.mem_append.mp member with before | isNew
  · exact areRead other before
  · rw [List.mem_singleton.mp isNew]
    exact reads

theorem yields_resolveAll {expressions : List SqlExpression}
    (yield : ∀ expression ∈ expressions, Yields isRead (resolve scope grouped expression)
      (Term.Reads isRead)) :
    Yields isRead (resolveAll scope grouped expressions) fun terms =>
      ∀ term ∈ terms, term.Reads isRead := by
  induction expressions with
  | nil =>
      rw [resolveAll]
      exact yields_pure fun _ member => absurd member List.not_mem_nil
  | cons first rest inductionHypothesis =>
      obtain ⟨own, others⟩ := List.forall_mem_cons.mp yield
      rw [resolveAll]
      refine own.bind fun term reads => (inductionHypothesis others).bind fun terms areRead => ?_
      exact yields_pure (List.forall_mem_cons.mpr ⟨reads, areRead⟩)

variable (places : scope.Places named isRead)

include places

/-- An expression over columns of a kind resolves to a term that reads their positions. -/
theorem yields_resolve {expression : SqlExpression} (columns : expression.ColumnsIn named)
    (grouped : Bool) :
    Yields isRead (resolve scope grouped expression) (Term.Reads isRead) := by
  induction columns generalizing grouped with
  | literal value =>
      rw [resolve]
      exact yields_pure (.literal value)
  | column table isNamed =>
      rw [resolve]
      split
      · split
        · next found => exact yields_pure (places _ _ isNamed found)
        · exact yields_throw _
      · exact yields_throw _
  | unary operator _ inductionHypothesis =>
      rw [resolve]
      exact (inductionHypothesis grouped).bind fun _ reads => yields_pure (.unary operator reads)
  | binary operator _ _ leftYields rightYields =>
      rw [resolve]
      exact (leftYields grouped).bind fun _ readsLeft =>
        (rightYields grouped).bind fun _ readsRight =>
          yields_pure (.binary operator readsLeft readsRight)
  | isNull _ inductionHypothesis =>
      rw [resolve]
      exact (inductionHypothesis grouped).bind fun _ reads => yields_pure (.isNull reads)
  | among _ _ operandYields elementsYield =>
      rw [resolve]
      refine (operandYields grouped).bind fun _ reads => ?_
      refine (yields_resolveAll fun element member =>
        elementsYield element member grouped).bind fun _ areRead => ?_
      exact yields_pure (.among reads areRead)
  | call function distinct _ argumentsYield =>
      rw [resolve.eq_def]
      dsimp only
      split
      · split
        · refine (yields_resolveAll fun argument member =>
            argumentsYield argument member false).bind fun terms areRead => ?_
          exact yields_collect fun argument isFirst => areRead argument (List.mem_of_mem_head? isFirst)
        · exact yields_throw _
      · split
        · refine (yields_resolveAll fun argument member =>
            argumentsYield argument member grouped).bind fun _ areRead => ?_
          exact yields_pure (.call _ areRead)
        · exact yields_throw _
  | countAll =>
      rw [resolve]
      split
      · exact yields_collect fun _ isArgument => by cases isArgument
      · exact yields_throw _

end Term

/-! ## Clauses -/

namespace Database

open Term.Resolution

/-- Resolved clauses that read columns at some positions only. -/
structure ResolvedClauses.Reads (isRead : Nat → Prop) (clauses : ResolvedClauses) : Prop where
  filter : ∀ term ∈ clauses.filter, term.Reads isRead
  groups : ∀ term ∈ clauses.groups, term.Reads isRead
  having : ∀ term ∈ clauses.having, term.Reads isRead
  orders : ∀ order ∈ clauses.orders, order.1.Reads isRead
  result : ∀ term ∈ clauses.result, term.Reads isRead
  aggregates : ∀ aggregate ∈ clauses.aggregates, aggregate.Reads isRead

variable {isRead : Nat → Prop} {named : String → Prop} {scope : Scope} {clauses : SelectClauses}
  {result : Option SqlExpression}

theorem yields_mapM {Item Found : Type} {meets : Found → Prop}
    {resolve : Item → Term.Resolution Found} {items : List Item}
    (yield : ∀ item ∈ items, Yields isRead (resolve item) meets) :
    Yields isRead (items.mapM resolve) fun found => ∀ one ∈ found, meets one := by
  induction items with
  | nil => exact yields_pure fun _ member => absurd member List.not_mem_nil
  | cons first rest inductionHypothesis =>
      obtain ⟨own, others⟩ := List.forall_mem_cons.mp yield
      rw [List.mapM_cons]
      refine own.bind fun one meetsOne => (inductionHypothesis others).bind fun found meetAll => ?_
      exact yields_pure (List.forall_mem_cons.mpr ⟨meetsOne, meetAll⟩)

theorem yields_resolveOptional (places : scope.Places named isRead) (grouped : Bool)
    {expression : Option SqlExpression} (columns : ∀ one ∈ expression, one.ColumnsIn named) :
    Yields isRead (resolveOptional scope grouped expression) fun term =>
      (∀ one ∈ term, one.Reads isRead) ∧ term.isSome = expression.isSome := by
  cases expression with
  | none => exact yields_pure ⟨fun _ isTerm => absurd isTerm (by simp), rfl⟩
  | some expression =>
      refine (Term.yields_resolve places (columns expression rfl) grouped).bind fun term reads => ?_
      exact yields_pure ⟨fun one isTerm => Option.some.inj isTerm ▸ reads, rfl⟩

theorem yields_positional {expression : SqlExpression} (noNumber : ¬ expression.IsNumber) :
    Yields isRead (liftM (positional scope expression) : Term.Resolution SqlExpression)
      (· = expression) := by
  rw [positional_eq scope noNumber]
  exact yields_pure rfl

theorem yields_resolveOrders (places : scope.Places named isRead) (grouped : Bool)
    {orders : List OrderTerm}
    (columns : ∀ order ∈ orders,
      order.expression.ColumnsIn named ∧ ¬ order.expression.IsNumber) :
    Yields isRead (resolveOrders scope grouped orders) fun terms =>
      ∀ order ∈ terms, order.1.Reads isRead := by
  refine yields_mapM fun order member => ?_
  obtain ⟨inOrder, noNumber⟩ := columns order member
  refine (yields_positional noNumber).bind fun _ same => ?_
  rw [same]
  exact (Term.yields_resolve places inOrder grouped).bind fun _ reads => yields_pure reads

/-- Clauses over columns of a kind read the positions of such columns. -/
theorem reads_of_resolveClauses (places : scope.Places named isRead)
    (columns : clauses.ColumnsIn named) (resultColumns : ∀ one ∈ result, one.ColumnsIn named)
    {resolved : ResolvedClauses} (resolves : resolveClauses scope clauses result = .ok resolved) :
    resolved.Reads isRead ∧ resolved.result.isSome = result.isSome := by
  obtain ⟨⟨own, aggregates⟩, ran, same⟩ := bind_eq_ok resolves
  obtain rfl := Except.ok.inj same
  let meets (own : ResolvedClauses) : Prop :=
    own.Reads isRead ∧ own.result.isSome = result.isSome
  have found : meets own ∧ ∀ aggregate ∈ aggregates, aggregate.Reads isRead := by
    refine Yields.of_run ran ?_
    refine (yields_resolveOptional places true resultColumns).bind fun term inTerm => ?_
    refine (yields_resolveOptional places false columns.filter).bind fun filter inFilter => ?_
    have grouping : Yields isRead (clauses.groups.mapM fun group => do
        Term.resolve scope false (← positional scope group)) fun terms =>
          ∀ term ∈ terms, term.Reads isRead := by
      refine yields_mapM fun group member => ?_
      obtain ⟨inGroup, noNumber⟩ := columns.groups group member
      refine (yields_positional noNumber).bind fun _ same => ?_
      rw [same]
      exact Term.yields_resolve places inGroup false
    refine grouping.bind fun groups inGroups => ?_
    refine yields_get.bind fun _ _ => ?_
    dsimp only
    split
    · exact (yields_throw _).bind fun _ impossible => absurd impossible id
    · refine (yields_resolveOrders places _ columns.orders).bind fun orders inOrders => ?_
      refine (yields_resolveOptional places true columns.having).bind fun having inHaving => ?_
      exact yields_pure ⟨⟨inFilter.1, inGroups, inHaving.1, inOrders, inTerm.1,
        fun _ member => absurd member List.not_mem_nil⟩, inTerm.2⟩
  obtain ⟨⟨reads, sameResult⟩, areRead⟩ := found
  exact ⟨⟨reads.filter, reads.groups, reads.having, reads.orders, reads.result, areRead⟩, sameResult⟩

end Database

end TableGraph
