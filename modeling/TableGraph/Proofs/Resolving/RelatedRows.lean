import TableGraph.Proofs.Resolving.BoundStatements
import TableGraph.Proofs.Selection.Restriction

/-!
# Rows of a relation

The statement that lists or counts the rows of a relation restricts them to those that
reference the row of the field, and only among these to those that the conditions of
the caller ask for.  The main statement is `Database.related_rows_restricted`.
-/

namespace TableGraph

/-! ## Readable filters -/

/-- A column, an equals sign and a value. -/
def equalityTokens (condition : String × Value) : List SqlToken :=
  Lexeme.nameTokens condition.1 ++ [.symbol "=", .literal (Cell.ofValue condition.2)]

theorem isOperand_equalityTokens (condition : String × Value) :
    IsOperand (equalityTokens condition) :=
  (IsOperand.name condition.1).continued (by simp [SqlToken.role])

theorem Fragment.boundTokens_equality (condition : String × Value) :
    (Fragment.equality condition).boundTokens = equalityTokens condition := by
  rw [Fragment.equality_eq, Slot.boundTokens_fragment (Slot.fits_equality condition),
    Slot.equality, List.flatMap_cons, List.flatMap_append]
  rfl

def ReadFilter.equality (condition : String × Value) : ReadFilter where
  fragment := Fragment.equality condition
  symbols := [.atom (equalityTokens condition)]
  formula := .atom (equalityTokens condition)
  spelled := by simpa [ConditionSymbol.tokens] using Fragment.boundTokens_equality condition
  operands := by
    intro content member
    obtain rfl := List.mem_singleton.mp member
    exact isOperand_equalityTokens condition
  readAs := rfl

namespace Compiler

variable {depth : Nat}

/-- The clause of an untrusted caller can be read by itself. -/
theorem exists_readFilter {clause : Clause} {all any : List Condition} {fragment : Fragment}
    (compiled : (⟨false, depth⟩ : Compiler).clause clause all any = .ok (some fragment)) :
    ∃ filter : ReadFilter, filter.fragment = fragment := by
  obtain ⟨symbols, present, written, fits⟩ := exists_clauseSlots compiled
  have mapped :=
    ClauseTree.clauseSymbols_map LeafComparison.boundTokens (Condition.comparisons clause all)
      (Condition.comparisons clause any)
  rw [present] at mapped
  obtain ⟨formula, readAs⟩ := ClauseTree.readable_clauseSymbols mapped
  refine ⟨⟨fragment, _, formula, ?_, ?_, readAs⟩, rfl⟩
  · rw [written, Slot.boundTokens_fragment fits, ConditionSymbol.boundTokens_slots]
  · intro content member
    rw [ConditionSymbol.atoms_map] at member
    obtain ⟨comparison, _, rfl⟩ := List.mem_map.mp member
    exact comparison.isOperand

theorem exists_asked {clause : Clause} {all any : List Condition}
    {asked : Option Fragment}
    (compiled : (⟨false, depth⟩ : Compiler).clause clause all any = .ok asked) :
    ∃ filter : Option ReadFilter, filter.map ReadFilter.fragment = asked := by
  cases asked with
  | none => exact ⟨none, rfl⟩
  | some fragment =>
      obtain ⟨filter, same⟩ := exists_readFilter compiled
      exact ⟨some filter, congrArg some same⟩

end Compiler

/-! ## Values -/

theorem Compiler.values_grouping {depth : Nat} (columns : List (Option String)) :
    ((⟨false, depth⟩ : Compiler).grouping columns).toList.flatMap Fragment.values = [] := by
  rw [grouping_untrusted]
  split
  · rfl
  · rw [Option.toList_some, List.flatMap_singleton, Slot.values_fragment, Slot.binds_separate,
      List.flatMap_map]
    simp [Slot.binds]

theorem OrderItem.values_slots (item : OrderItem) : (Slot.fragment item.slots).values = [] := by
  rw [Slot.values_fragment]
  cases item with
  | column name descending => cases descending <;> rfl
  | random => rfl

/-! ## Relations -/

namespace Database

/-- The condition on the rows of a relation: they hold the key of the row, are of its
table when the relation is polymorphic, and are what the caller asks for. -/
def relatedFormula (row : Row) (settings : FieldSettings) (column key : String)
    (asked : Option (ConditionFormula (List SqlToken))) : ConditionFormula (List SqlToken) :=
  let types := settings.referencingTypeColumn.toList.map fun typeColumn =>
    ConditionFormula.atom (equalityTokens (typeColumn, .text row.table))
  (types ++ asked.toList).foldl .both
    (.atom (equalityTokens (column, (row.value? key).getD .null)))

theorem isTrue_relatedFormula (row : Row) (settings : FieldSettings) (column key : String)
    (asked : Option (ConditionFormula (List SqlToken))) (assignment : List SqlToken → Truth) :
    (relatedFormula row settings column key asked).isTrue assignment =
      ((relatedConditions row settings column key).all
          (fun condition => (assignment (equalityTokens condition)).holds) &&
        asked.all (ConditionFormula.isTrue assignment)) := by
  rw [relatedFormula, ConditionFormula.isTrue_foldl_both, relatedConditions]
  cases settings.referencingTypeColumn <;> cases asked <;>
    simp [ConditionFormula.isTrue, ConditionFormula.truth, Bool.and_assoc]

variable {database : Database} {depth : Nat} {typeNames : List (String × String)}
  {kind : ResolverKind} {row : Row} {arguments : Arguments} {settings : FieldSettings}

/-- The filters and the values of a selection of the rows of a relation. -/
theorem related_filters (isRelated : kind = .hasMany ∨ kind = .hasManyCount)
    {selection : TableSelection}
    (reaches : database.reached ⟨false, depth⟩ typeNames kind (some row) arguments settings =
      .ok (some selection)) :
    ∃ column key asked having,
      settings.referencingColumn = some column ∧ database.primaryKey row.table = .ok key ∧
        (⟨false, depth⟩ : Compiler).clause .row arguments.conditions.rowAll
          arguments.conditions.rowAny = .ok asked ∧
        (⟨false, depth⟩ : Compiler).clause .group arguments.conditions.groupAll
          arguments.conditions.groupAny = .ok having ∧
        selection.filters =
          (relatedConditions row settings column key).map Fragment.equality ++ asked.toList ∧
        selection.values kind.head =
          (relatedConditions row settings column key).map Prod.snd ++
            (asked.toList ++ having.toList).flatMap Fragment.values := by
  obtain ⟨table, column, key, calls, _, columnSet, isKey, compiled, rfl⟩ :=
    reached_related_eq_ok isRelated reaches
  obtain ⟨asked, having, askedCompiled, havingCompiled, narrowed⟩ :=
    Compiler.foldl_argumentCalls compiled table
  have sameConditions : (kind.applied arguments).conditions = arguments.conditions := by
    rcases isRelated with rfl | rfl <;> rfl
  rw [sameConditions] at askedCompiled havingCompiled narrowed
  have equalities :
      ∀ conditions : List (String × Value),
        (conditions.map Fragment.equality).flatMap Fragment.values = conditions.map Prod.snd := by
    intro conditions
    rw [List.flatMap_map, List.map_eq_flatMap]
    rfl
  have orders :
      ∀ items : List OrderItem,
        (items.map fun item => Slot.fragment item.slots).flatMap Fragment.values = [] := by
    intro items
    simp [List.flatMap_map, OrderItem.values_slots]
  refine ⟨column, key, asked, having, columnSet, isKey, askedCompiled, havingCompiled, ?_, ?_⟩
  · rw [narrowed]
    rfl
  · rw [narrowed]
    rcases isRelated with rfl | rfl <;>
      simp [TableSelection.values, TableSelection.behind, ResolverKind.head, equalities, orders,
        Compiler.values_grouping]

/-- A has-many field, listed or counted, restricts its rows to those that hold the key
of the row, and its table when the relation is polymorphic, and that are what the
caller asks for, which is read as it is by itself.  Whatever the caller asks for, no
other rows are selected, and the field executes this selection.  The statement binds the
key, the table and the values of the caller, in this order. -/
theorem related_rows_restricted {opened : TableSelection} {calls : List Narrowing}
    (isRelated : kind = .hasMany ∨ kind = .hasManyCount)
    (opens : database.opened typeNames kind (some row) settings = .ok (some opened))
    (compiled : (⟨false, depth⟩ : Compiler).conditionCalls arguments.conditions = .ok calls) :
    ∃ column key asked having selection statement formula,
      settings.referencingColumn = some column ∧ database.primaryKey row.table = .ok key ∧
        (⟨false, depth⟩ : Compiler).clause .row arguments.conditions.rowAll
          arguments.conditions.rowAny = .ok asked ∧
        (⟨false, depth⟩ : Compiler).clause .group arguments.conditions.groupAll
          arguments.conditions.groupAny = .ok having ∧
        database.reached ⟨false, depth⟩ typeNames kind (some row) arguments settings =
          .ok (some selection) ∧
        (∀ session : Session Database, session.store = database →
          Executes session kind.head
            ((resolver ⟨false, depth⟩ typeNames).resolve kind (some row) arguments settings session)
            (.ok (some selection))) ∧
        selection.render kind.head = .ok statement ∧
        asked.map Fragment.condition? = formula.map some ∧
        statement.restriction? = some (relatedFormula row settings column key formula) ∧
        (∀ assignment,
          (relatedFormula row settings column key formula).isTrue assignment =
            ((relatedConditions row settings column key).all
                (fun condition => (assignment (equalityTokens condition)).holds) &&
              formula.all (ConditionFormula.isTrue assignment))) ∧
        statement.binds =
          (relatedConditions row settings column key).map Prod.snd ++
            (asked.toList ++ having.toList).flatMap Fragment.values := by
  obtain ⟨selection, reaches⟩ := exists_reached opens compiled
  obtain ⟨column, key, asked, having, columnSet, isKey, askedCompiled, havingCompiled, filters,
    values⟩ := related_filters isRelated reaches
  obtain ⟨read, rfl⟩ := Compiler.exists_asked askedCompiled
  have isUsual : kind.head ∈ [TableSelection.Head.rows, .count "*"] := by
    rcases isRelated with rfl | rfl <;> simp [ResolverKind.head]
  have slotted := isSlotted_reached reaches
  obtain ⟨statement, tokens, rendered, _, binds, _, _⟩ := slotted.binds isUsual
  refine ⟨column, key, _, having, selection, statement, read.map ReadFilter.formula, columnSet,
    isKey, askedCompiled, havingCompiled, reaches, executes_of_reached reaches, rendered, ?_, ?_,
    isTrue_relatedFormula row settings column key _, binds.trans values⟩
  · cases read with
    | none => rfl
    | some filter => exact congrArg some filter.condition?
  · -- The key comes first, the condition of the caller last, as one filter.
    let first := ReadFilter.equality (column, (row.value? key).getD .null)
    let rest := (settings.referencingTypeColumn.toList.map fun typeColumn =>
      ReadFilter.equality (typeColumn, .text row.table)) ++ read.toList
    have readFilters : selection.filters = (first :: rest).map ReadFilter.fragment := by
      rw [filters, relatedConditions]
      simp [first, rest, ReadFilter.equality, Option.toList_map]
    have restricted := slotted.restriction? isUsual first rest readFilters rendered
    rw [restricted, relatedFormula]
    simp [first, rest, ReadFilter.equality, Option.toList_map, Function.comp_def]

private def publishers : Database :=
  { Database.empty with
    tables := [⟨⟨"publishers", [⟨"id", "INTEGER", true, .null⟩], ["id"], [], [], true⟩, []⟩] }

/-- Alternatives that would hold of the rows of any other publisher. -/
private def wideningArguments : Arguments where
  pagination := none
  order := []
  conditions :=
    { Conditions.blank with
      rowAny := [⟨some "owner?", some "NOT_EQUAL", [some "7"], [], [], [], []⟩,
        ⟨some "id OR 1", some "NOT_NULL", [], [], [], [], []⟩]
      groupColumns := [some "id"] }

theorem related_rows_restricted_against_widening :
    let settings := { FieldSettings.blank with
      tableName := some "books", referencingColumn := some "owner?"
      referencingTypeColumn := some "owner'type" }
    ∃ selection statement formula,
      publishers.reached ⟨false, 32⟩ [] .hasManyCount
          (some ⟨"publishers", [("id", .integer 7)]⟩) wideningArguments settings =
          .ok (some selection) ∧
        selection.render (.count "*") = .ok statement ∧
        statement.restriction? =
          some (.both
            (.both (.atom (equalityTokens ("owner?", .integer 7)))
              (.atom (equalityTokens ("owner'type", .text "publishers"))))
            formula) ∧
        statement.binds = [.integer 7, .text "publishers", .integer 7] := by
  intro settings
  obtain ⟨opened, opens⟩ :
      ∃ opened, publishers.opened [] .hasManyCount
        (some ⟨"publishers", [("id", .integer 7)]⟩) settings = .ok (some opened) := ⟨_, rfl⟩
  obtain ⟨calls, compiled⟩ :
      ∃ calls, (⟨false, 32⟩ : Compiler).conditionCalls wideningArguments.conditions = .ok calls :=
    ⟨_, rfl⟩
  obtain ⟨column, key, asked, having, selection, statement, formula, columnSet, isKey,
    askedCompiled, havingCompiled, reaches, _, rendered, read, restricted, _, binds⟩ :=
    related_rows_restricted (.inr rfl) opens compiled
  obtain rfl : "owner?" = column := Option.some.inj columnSet
  obtain rfl : "id" = key := Except.ok.inj isKey
  have noHaving : Except.ok none = Except.ok having := havingCompiled
  obtain ⟨fragment, fragmentCompiled, fragmentValues⟩ :
      ∃ fragment, (⟨false, 32⟩ : Compiler).clause .row wideningArguments.conditions.rowAll
          wideningArguments.conditions.rowAny = .ok (some fragment) ∧
        fragment.values = [.integer 7] := ⟨_, rfl, rfl⟩
  obtain rfl : some fragment = asked := Except.ok.inj (fragmentCompiled.symm.trans askedCompiled)
  obtain rfl : none = having := Except.ok.inj noHaving
  cases formula with
  | none => cases read
  | some formula =>
      refine ⟨selection, statement, formula, reaches, rendered, restricted, ?_⟩
      rw [binds]
      simp [relatedConditions, settings, fragmentValues, Row.value?]

end Database

end TableGraph
