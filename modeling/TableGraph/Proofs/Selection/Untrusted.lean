import TableGraph.Proofs.Condition.Precedence
import TableGraph.Proofs.Selection.Shape

/-!
# Conditions of callers that are not trusted

The conditions of such a caller are compiled to templates made of slots.  The main
statement, `Compiler.clause_untrusted`, is that the expression of a clause is made
of the slots of its symbols; their lexemes are those of the tests, which the values
have no part in.
-/

namespace TableGraph

/-! ## Comparisons -/

/-- The comparison that a leaf makes. -/
structure LeafComparison where
  column : String
  comparator : Comparator
  values : List (Option String)
  deriving DecidableEq, Repr

namespace LeafComparison

def listed (comparison : LeafComparison) : List Value :=
  match comparison.comparator with
  | .isIn => comparison.values.map Compiler.boundInput
  | .notIn => Compiler.excludedValues comparison.values
  | _ => []

/-- What a comparison decides about the text of a statement. -/
def test (comparison : LeafComparison) : Test :=
  ⟨comparison.column, comparison.comparator, comparison.listed.length⟩

def valueSlots (comparison : LeafComparison) : List Slot :=
  match comparison.comparator with
  | .isIn => [.list comparison.listed, .fixed .closing]
  | .notIn => [.list comparison.listed, .fixed .closing]
  | .null => []
  | .notNull => []
  | _ => [.value (Compiler.boundInput comparison.values.head?.join)]

def slots (comparison : LeafComparison) : List Slot :=
  .column comparison.column :: (Slot.run comparison.comparator.pieces ++ comparison.valueSlots)

theorem lexemes_slots (comparison : LeafComparison) :
    comparison.slots.flatMap Slot.lexemes = comparison.test.lexemes := by
  obtain ⟨column, comparator, values⟩ := comparison
  cases comparator with
  | isIn | notIn =>
      simp [slots, valueSlots, Slot.run, Slot.lexemes, Comparator.pieces, test, Test.lexemes,
        Test.valueLexemes, Lexeme.run]
  | _ => rfl

end LeafComparison

/-- The comparison of a leaf that says something. -/
def ConditionLeaf.comparison? (leaf : ConditionLeaf) : Option LeafComparison :=
  if leaf.saysNothing then none
  else
    match leaf.column, Compiler.comparatorOf leaf.comparator with
    | some column, .ok comparator => some ⟨column, comparator, leaf.values⟩
    | _, _ => none

namespace Compiler

variable {depth : Nat}

theorem compareSingle_untrusted {column fragment : Fragment} {operator : String}
    {values : List (Option String)}
    (compiled : (⟨false, depth⟩ : Compiler).compareSingle column operator values = .ok fragment) :
    fragment =
      column.followedBy (" " ++ operator ++ " ?") [.value (boundInput values.head?.join)] := by
  simp only [compareSingle] at compiled
  cases literal : values.head?.join.bind literal? with
  | some text =>
      rw [literal] at compiled
      cases compiled
  | none =>
      simp only [literal, Except.ok.injEq] at compiled
      exact compiled.symm

theorem compare_untrusted {comparator : Comparator} {column : String}
    {values : List (Option String)} {result : Option Fragment}
    (compiled : (⟨false, depth⟩ : Compiler).compare comparator ⟨"?name", [.identifier column]⟩
      values = .ok result) :
    result =
      if comparator = .notIn ∧ excludedValues values = [] then none
      else some (Slot.fragment (LeafComparison.slots ⟨column, comparator, values⟩)) := by
  have single :
      ∀ {operator : String},
        ((⟨false, depth⟩ : Compiler).compareSingle ⟨"?name", [.identifier column]⟩ operator
          values).map some = .ok result →
          result = some ⟨"?name" ++ (" " ++ operator ++ " ?"),
            [.identifier column, .value (boundInput values.head?.join)]⟩ := by
    intro operator mapped
    cases compared : (⟨false, depth⟩ : Compiler).compareSingle ⟨"?name", [.identifier column]⟩
        operator values with
    | error failure => simp [compared, Except.map] at mapped
    | ok fragment =>
        simp only [compared, Except.map, Except.ok.injEq] at mapped
        rw [← mapped, compareSingle_untrusted compared]
        rfl
  cases comparator with
  | isIn | null | notNull =>
      simp only [compare, Except.ok.injEq] at compiled
      rw [← compiled]
      rfl
  | notIn =>
      cases excluded : excludedValues values with
      | nil =>
          simp only [compare, excluded, List.isEmpty_nil, if_true, Except.ok.injEq] at compiled
          simp [← compiled]
      | cons head tail =>
          simp only [compare, excluded, List.isEmpty_cons, Bool.false_eq_true, if_false,
            Except.ok.injEq] at compiled
          rw [← compiled, if_neg (by simp), ← excluded]
          rfl
  | equal | notEqual | lessThan | lessThanEqual | moreThan | moreThanEqual | like | notLike =>
      rw [single compiled]
      rfl

/-- What a leaf of an untrusted caller is written as. -/
theorem ownText_untrusted {leaf : ConditionLeaf}
    (compiled : (⟨false, depth⟩ : Compiler).LeafCompiles leaf) :
    (⟨false, depth⟩ : Compiler).ownText leaf =
      leaf.comparison?.map fun comparison => Slot.fragment comparison.slots := by
  have written := compiled.written
  obtain ⟨column, comparator, values⟩ := leaf
  cases column with
  | none => rfl
  | some column =>
      simp only [LeafCompiles, leafOf, leaf, columnReference] at compiled
      cases found : comparatorOf comparator with
      | error failure => simp [found, Except.bind] at compiled
      | ok comparing =>
          rw [found] at compiled
          have compared := compare_untrusted compiled
          rcases written with ⟨nothing, absent⟩ | ⟨something, fragment, present, _⟩
          · rw [absent, ConditionLeaf.comparison?, if_pos nothing]
            rfl
          · rw [ConditionLeaf.comparison?, something, compared]
            rw [present] at compared
            split at compared
            · cases compared
            · rename_i notExcluded
              simp [notExcluded, found]

end Compiler

/-! ## Conditions -/

namespace ConditionSymbol

def slots : ConditionSymbol LeafComparison → List Slot
  | .opening => Slot.run [.opening]
  | .closing => Slot.run [.closing]
  | .all => Slot.run [.blank, .keyword .both, .blank]
  | .any => Slot.run [.blank, .keyword .either, .blank]
  | .atom comparison => comparison.slots

theorem lexemes_slots (symbol : ConditionSymbol LeafComparison) :
    symbol.slots.flatMap Slot.lexemes = (symbol.map LeafComparison.test).lexemes := by
  cases symbol with
  | atom comparison => exact comparison.lexemes_slots
  | opening | closing | all | any => rfl

theorem lexemes_flatMap_slots (symbols : List (ConditionSymbol LeafComparison)) :
    (symbols.flatMap slots).flatMap Slot.lexemes =
      (symbols.map (map LeafComparison.test)).flatMap lexemes := by
  induction symbols with
  | nil => rfl
  | cons head tail inductionHypothesis =>
      rw [List.flatMap_cons, List.flatMap_append, lexemes_slots, inductionHypothesis]
      rfl

theorem fragment_append (first second : List Slot) :
    Slot.fragment (first ++ second) =
      (Slot.fragment first).followedBy (Slot.fragment second).expression
        (Slot.fragment second).parameters := by
  simp [Slot.fragment, Fragment.followedBy]

theorem spell_slots (symbols : List (ConditionSymbol LeafComparison)) :
    spell (fun comparison => Slot.fragment comparison.slots) symbols =
      Slot.fragment (symbols.flatMap slots) := by
  induction symbols with
  | nil => rfl
  | cons head tail inductionHypothesis =>
      rw [spell, inductionHypothesis, List.flatMap_cons, fragment_append]
      cases head <;> rfl

end ConditionSymbol

/-- The comparisons of some conditions, as a clause sees them. -/
def Condition.comparisons (clause : Clause) (conditions : List Condition) :
    List (ClauseTree (Option LeafComparison)) :=
  (Condition.listSeenBy clause conditions).map (ClauseTree.map ConditionLeaf.comparison?)

/-- The tests of some conditions, as a clause sees them. -/
def Condition.tests (clause : Clause) (conditions : List Condition) :
    List (ClauseTree (Option Test)) :=
  (Condition.comparisons clause conditions).map (ClauseTree.map (Option.map LeafComparison.test))

namespace Compiler

variable {depth : Nat} {clause : Clause} {all any : List Condition} {result : Option Fragment}

private theorem map_ownText {conditions : List Condition}
    (compile : ∀ leaf ∈ ClauseTree.listLeaves (Condition.listSeenBy clause conditions),
      (⟨false, depth⟩ : Compiler).LeafCompiles leaf) :
    (Condition.listSeenBy clause conditions).map
        (ClauseTree.map (⟨false, depth⟩ : Compiler).ownText) =
      (Condition.comparisons clause conditions).map
        (ClauseTree.map (Option.map fun comparison => Slot.fragment comparison.slots)) := by
  rw [ClauseTree.listLeaves_eq_flatMap] at compile
  rw [Condition.comparisons, List.map_map]
  refine List.map_congr_left fun tree treeMember => ?_
  rw [Function.comp_apply, ClauseTree.map_map]
  refine ClauseTree.map_congr_leaves fun leaf member => ?_
  exact ownText_untrusted (compile leaf (List.mem_flatMap.mpr ⟨tree, treeMember, member⟩))

/-- The expression of an untrusted clause is made of the slots of its symbols. -/
theorem clause_untrusted
    (compiled : (⟨false, depth⟩ : Compiler).clause clause all any = .ok result) :
    result =
      (ClauseTree.clauseSymbols (Condition.comparisons clause all)
        (Condition.comparisons clause any)).map
        fun symbols => Slot.fragment (symbols.flatMap ConditionSymbol.slots) := by
  have compile := clause_leaves compiled
  have spelled := clause_eq_spelled compiled
  rw [map_ownText fun leaf member => compile leaf (List.mem_append_left _ member),
    map_ownText fun leaf member => compile leaf (List.mem_append_right _ member),
    ClauseTree.clauseSymbols_map, Option.map_map] at spelled
  rw [spelled]
  congr 1
  funext symbols
  rw [Function.comp_apply, ConditionSymbol.spell_map]
  exact ConditionSymbol.spell_slots symbols

end Compiler

theorem Condition.clauseSymbols_tests (clause : Clause) (all any : List Condition) :
    ClauseTree.clauseSymbols (Condition.tests clause all) (Condition.tests clause any) =
      (ClauseTree.clauseSymbols (Condition.comparisons clause all)
        (Condition.comparisons clause any)).map
        (List.map (ConditionSymbol.map LeafComparison.test)) :=
  ClauseTree.clauseSymbols_map LeafComparison.test _ _

/-! ## Shapes -/

/-- What the arguments of a field decide about the text of a statement. -/
structure RequestShape where
  rowAll : List (ClauseTree (Option Test))
  rowAny : List (ClauseTree (Option Test))
  groupAll : List (ClauseTree (Option Test))
  groupAny : List (ClauseTree (Option Test))
  columns : List String
  order : List OrderItem
  limit : Option Int64
  offset : Option Int64

/-- What an order item decides; an item without a key orders nothing. -/
def OrderBy.item? (order : OrderBy) : Option OrderItem :=
  match order.direction.getD .ascending, order.key with
  | .random, _ => some .random
  | .ascending, some key => some (.column key false)
  | .descending, some key => some (.column key true)
  | _, none => none

def Arguments.shape (arguments : Arguments) : RequestShape where
  rowAll := Condition.tests .row arguments.conditions.rowAll
  rowAny := Condition.tests .row arguments.conditions.rowAny
  groupAll := Condition.tests .group arguments.conditions.groupAll
  groupAny := Condition.tests .group arguments.conditions.groupAny
  columns := arguments.conditions.groupColumns.filterMap id
  order := arguments.order.filterMap OrderBy.item?
  limit := arguments.pagination.bind fun page => page.limit
  offset := arguments.pagination.bind fun page => page.offset

/-- The statement that a shape makes of a table. -/
def RequestShape.statement (shape : RequestShape) (table : String) : SelectStatement where
  table := table
  rows := ClauseTree.clauseSymbols shape.rowAll shape.rowAny
  columns := shape.columns
  groups := ClauseTree.clauseSymbols shape.groupAll shape.groupAny
  order := shape.order
  limit := shape.limit
  offset := shape.offset

theorem ClauseTree.readable_clauseSymbols {Atom : Type} {all any : List (ClauseTree (Option Atom))}
    {symbols : List (ConditionSymbol Atom)} (present : clauseSymbols all any = some symbols) :
    ∃ formula, ConditionFormula.ofSymbols? symbols = some formula := by
  rcases isReadBy_clauseSymbols all any with ⟨absent, _⟩ | ⟨written, value, same, reads, _⟩
  · rw [show clauseSymbols all any = none from absent] at present
    cases present
  · rw [show clauseSymbols all any = some written from same, Option.some.injEq] at present
    obtain ⟨formula, readAs, _⟩ := reads.ofSymbols?
    exact ⟨formula, present ▸ readAs⟩

theorem RequestShape.isReadable_statement (shape : RequestShape) (table : String) :
    (shape.statement table).IsReadable := by
  intro symbols present
  rcases present with inRows | inGroups
  · exact ClauseTree.readable_clauseSymbols inRows
  · exact ClauseTree.readable_clauseSymbols inGroups

end TableGraph
