import TableGraph.Proofs.Resolving.Reached
import TableGraph.Proofs.Selection.Slotted

/-!
# Statements of callers that are not trusted

The selection a field reaches for such a caller is made of slots: its conditions, its
groups and its order by the compiler, the conditions of its relation by the datastore.
The main statement, `bound_statements`, is that its statements render and that their
marks and values are in step.
-/

namespace TableGraph

open Lexeme (Fits)

/-! ## Fragments -/

def Slot.equality (condition : String × Value) : List Slot :=
  .column condition.1 :: (Slot.run [.blank, .relation .equal, .blank] ++ [.value condition.2])

theorem Fragment.equality_eq (condition : String × Value) :
    Fragment.equality condition = Slot.fragment (Slot.equality condition) := rfl

theorem Slot.fits_equality (condition : String × Value) :
    Fits ((equality condition).flatMap lexemes) := ⟨true, rfl⟩

theorem Fragment.isSlotted_equality (condition : String × Value) :
    (Fragment.equality condition).IsSlotted :=
  ⟨_, equality_eq condition, Slot.fits_equality condition⟩

namespace Compiler

variable {depth : Nat}

/-- A clause that says something is made of the slots of its symbols. -/
theorem exists_clauseSlots {clause : Clause} {all any : List Condition} {fragment : Fragment}
    (compiled : (⟨false, depth⟩ : Compiler).clause clause all any = .ok (some fragment)) :
    ∃ symbols,
      ClauseTree.clauseSymbols (Condition.comparisons clause all)
          (Condition.comparisons clause any) = some symbols ∧
        fragment = Slot.fragment (symbols.flatMap ConditionSymbol.slots) ∧
          Fits ((symbols.flatMap ConditionSymbol.slots).flatMap Slot.lexemes) := by
  obtain ⟨symbols, present, rfl⟩ := Option.map_eq_some_iff.mp (clause_untrusted compiled).symm
  refine ⟨symbols, present, rfl, ?_⟩
  have tests := Condition.clauseSymbols_tests clause all any
  rw [present] at tests
  obtain ⟨formula, readAs⟩ := ClauseTree.readable_clauseSymbols tests
  rw [ConditionSymbol.lexemes_flatMap_slots]
  exact ConditionFormula.fits_of_ofSymbols? readAs

theorem isSlotted_clause {clause : Clause} {all any : List Condition} {fragment : Fragment}
    (compiled : (⟨false, depth⟩ : Compiler).clause clause all any = .ok (some fragment)) :
    fragment.IsSlotted := by
  obtain ⟨symbols, _, written, fits⟩ := exists_clauseSlots compiled
  exact ⟨_, written, fits⟩

theorem isSlotted_grouping {columns : List (Option String)} {fragment : Fragment}
    (present : (⟨false, depth⟩ : Compiler).grouping columns = some fragment) :
    fragment.IsSlotted := by
  rw [grouping_untrusted] at present
  split at present
  · cases present
  · obtain rfl := Option.some.inj present
    refine ⟨_, rfl, ?_⟩
    rw [Slot.lexemes_separate]
    refine Lexeme.fits_separate fun part member => ?_
    rw [List.map_map] at member
    obtain ⟨column, _, rfl⟩ := List.mem_map.mp member
    exact ⟨true, rfl⟩

/-- The calls of an untrusted caller make a selection of slots. -/
theorem isSlotted_foldl {arguments : Arguments} {calls : List Narrowing}
    (compiled : (⟨false, depth⟩ : Compiler).argumentCalls arguments = .ok calls) (table : String) :
    (calls.foldl TableSelection.narrow (.ofTable table)).IsSlotted := by
  obtain ⟨filter, having, filterCompiled, havingCompiled, selection⟩ :=
    foldl_argumentCalls compiled table
  rw [selection]
  constructor
  · intro fragment member
    rw [Option.mem_toList.mp member] at filterCompiled
    exact isSlotted_clause filterCompiled
  · intro fragment member
    exact isSlotted_grouping (Option.mem_toList.mp member)
  · intro fragment member
    rw [Option.mem_toList.mp member] at havingCompiled
    exact isSlotted_clause havingCompiled
  · intro fragment member
    obtain ⟨item, _, rfl⟩ := List.mem_map.mp member
    exact ⟨item.slots, rfl, item.fits⟩

end Compiler

theorem TableSelection.IsSlotted.behind {selection : TableSelection} (slotted : selection.IsSlotted)
    {filters : List Fragment} (filtersSlotted : ∀ fragment ∈ filters, fragment.IsSlotted) :
    (selection.behind filters).IsSlotted := by
  refine ⟨fun fragment member => ?_, slotted.group, slotted.havings, slotted.orders⟩
  rcases List.mem_append.mp member with own | behind
  · exact filtersSlotted fragment own
  · exact slotted.filters fragment behind

/-! ## Reached selections -/

namespace Database

variable {database : Database} {depth : Nat} {typeNames : List (String × String)}
  {kind : ResolverKind} {parent : Option Row} {arguments : Arguments} {settings : FieldSettings}

theorem isSlotted_reached {selection : TableSelection}
    (reaches : database.reached ⟨false, depth⟩ typeNames kind parent arguments settings =
      .ok (some selection)) : selection.IsSlotted := by
  obtain ⟨table, conditions, calls, compiled, rfl⟩ := reached_eq_ok reaches
  refine (Compiler.isSlotted_foldl compiled table).behind fun fragment member => ?_
  obtain ⟨condition, _, rfl⟩ := List.mem_map.mp member
  exact Fragment.isSlotted_equality condition

/-- Arguments compile when their conditions do. -/
theorem exists_argumentCalls {compiler : Compiler} {other : Arguments} {calls : List Narrowing}
    (compiled : compiler.conditionCalls other.conditions = .ok calls) :
    ∃ applied, compiler.argumentCalls other = .ok applied := by
  rw [Compiler.argumentCalls, compiled]
  exact ⟨_, rfl⟩

theorem exists_applied (kind : ResolverKind) {compiler : Compiler} {calls : List Narrowing}
    (compiled : compiler.conditionCalls arguments.conditions = .ok calls) :
    ∃ applied, compiler.argumentCalls (kind.applied arguments) = .ok applied := by
  have blank : compiler.conditionCalls Conditions.blank = .ok [] := by
    simp [Compiler.conditionCalls, Compiler.clause, Compiler.list, Compiler.entries,
      Conditions.blank, Except.bind, Except.map, Compiler.joinSiblings, Fragment.join?,
      Compiler.grouping]
  cases kind with
  | table | tableCount | hasMany | hasManyCount => exact exists_argumentCalls compiled
  | belongsTo | morphTo => exact exists_argumentCalls blank

/-- A selection is reached when the rows of a field are opened and its conditions
compile. -/
theorem exists_reached {compiler : Compiler} {opened : TableSelection} {calls : List Narrowing}
    (opens : database.opened typeNames kind parent settings = .ok (some opened))
    (compiled : compiler.conditionCalls arguments.conditions = .ok calls) :
    ∃ selection,
      database.reached compiler typeNames kind parent arguments settings = .ok (some selection) := by
  obtain ⟨applied, appliedCompiled⟩ := exists_applied kind compiled
  refine ⟨applied.foldl TableSelection.narrow opened, ?_⟩
  rw [reached, opens]
  simp [Except.bind, narrowed, appliedCompiled, Except.map]

/-- When the rows of a field are opened and the conditions of an untrusted caller
compile, a selection is reached, the field executes it, and to fetch or count it a statement
is rendered.  The statement has as many marks as it binds values, these are the values of the
clauses in their order, and bound from left to right each stands where its placeholder
stood. -/
theorem bound_statements {opened : TableSelection} {calls : List Narrowing}
    (opens : database.opened typeNames kind parent settings = .ok (some opened))
    (compiled : (⟨false, depth⟩ : Compiler).conditionCalls arguments.conditions = .ok calls) :
    ∃ selection,
      database.reached ⟨false, depth⟩ typeNames kind parent arguments settings =
        .ok (some selection) ∧
      (∀ session : Session Database, session.store = database →
        Executes session kind.head
          ((resolver ⟨false, depth⟩ typeNames).resolve kind parent arguments settings session)
          (.ok (some selection))) ∧
      ∀ head ∈ [TableSelection.Head.rows, .count "*"], ∃ statement tokens,
        selection.render head = .ok statement ∧
          SqlToken.lex statement.text = some tokens ∧
          tokens.count .mark = statement.binds.length ∧
          statement.binds = selection.values head ∧
          Query.bind tokens (statement.binds.map Cell.ofValue) =
            some (selection.boundTokens head) := by
  obtain ⟨selection, reaches⟩ := exists_reached opens compiled
  refine ⟨selection, reaches, executes_of_reached reaches, fun head isUsual => ?_⟩
  obtain ⟨statement, tokens, rendered, lexed, values, counted, bound⟩ :=
    (isSlotted_reached reaches).binds isUsual
  exact ⟨statement, tokens, rendered, lexed, counted, values, bound⟩

private def authors : Database :=
  { Database.empty with
    tables := [⟨⟨"authors", [⟨"id", "INTEGER", true, .null⟩], ["id"], [], [], true⟩, []⟩] }

/-- Columns with quotes and question marks, a list of two values and one of none. -/
private def oddArguments : Arguments where
  pagination := some ⟨some 5, none⟩
  order := [⟨some "born?", some .descending⟩]
  conditions :=
    { Conditions.blank with
      rowAny := [⟨some "it's?name", some "IN", [some "a?", none], [], [], [], []⟩,
        ⟨some "\"?\"", some "IN", [], [], [], [], []⟩]
      groupAll := [⟨some "born?", some "LIKE", [some "'?"], [], [], [], []⟩]
      groupColumns := [some "born?"] }

theorem bound_statements_odd :
    let settings := { FieldSettings.blank with
      tableName := some "books", referencingColumn := some "owner?"
      referencingTypeColumn := some "owner'type" }
    ∃ selection statement tokens,
      authors.reached ⟨false, 32⟩ [] .hasMany (some ⟨"authors", [("id", .integer 7)]⟩) oddArguments
        settings = .ok (some selection) ∧
      selection.render .rows = .ok statement ∧ SqlToken.lex statement.text = some tokens ∧
      tokens.count .mark = 5 ∧
      statement.binds = [.integer 7, .text "authors", .text "a?", .null, .text "'?"] := by
  intro settings
  obtain ⟨opened, opens⟩ :
      ∃ opened, authors.opened [] .hasMany (some ⟨"authors", [("id", .integer 7)]⟩) settings =
        .ok (some opened) := ⟨_, rfl⟩
  obtain ⟨calls, compiled⟩ :
      ∃ calls, (⟨false, 32⟩ : Compiler).conditionCalls oddArguments.conditions = .ok calls :=
    ⟨_, rfl⟩
  obtain ⟨selection, reaches, _, statements⟩ := bound_statements opens compiled
  obtain ⟨statement, tokens, rendered, lexed, counted, binds, _⟩ :=
    statements .rows List.mem_cons_self
  have values :
      selection.values .rows =
        [.integer 7, .text "authors", .text "a?", .null, .text "'?"] := by
    have shown :
        (authors.reached ⟨false, 32⟩ [] .hasMany (some ⟨"authors", [("id", .integer 7)]⟩)
            oddArguments settings).map (Option.map fun selection => selection.values .rows) =
          .ok (some [.integer 7, .text "authors", .text "a?", .null, .text "'?"]) := rfl
    rw [reaches] at shown
    exact Option.some.inj (Except.ok.inj shown)
  rw [values] at binds
  rw [binds] at counted
  exact ⟨selection, statement, tokens, reaches, rendered, lexed, counted, binds⟩

end Database

end TableGraph
