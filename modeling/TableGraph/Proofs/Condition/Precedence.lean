import TableGraph.Proofs.Condition.Meaning

/-!
# Compiled conditions mean what their trees mean

The main statement, `clause_reads_as_reference`, is that the expression of a clause
that compiles, read by precedence, is true exactly when the tree of its conditions
is.  It holds however the leaves are labelled and whatever the truth values of the
labels are.
-/

namespace TableGraph

/-! ## Leaves that say nothing -/

/-- A leaf without a column, or one that excludes only null, the empty text and
zero. -/
def ConditionLeaf.saysNothing (leaf : ConditionLeaf) : Bool :=
  leaf.column.isNone ||
    leaf.comparator == some Comparator.notIn.name &&
      leaf.values.all fun value => value == none || value == some "" || value == some "0"

theorem Comparator.read_name (comparator : Comparator) :
    Comparator.read comparator.name = .ok comparator := by
  cases comparator <;> rfl

theorem Comparator.name_eq_of_read {name : String} {comparator : Comparator}
    (found : Comparator.read name = .ok comparator) : comparator.name = name := by
  rw [Comparator.read] at found
  cases looked : Comparator.ofName? name with
  | none => simp [looked] at found
  | some other =>
      simp only [looked, Except.ok.injEq] at found
      rw [← found]
      simpa [Comparator.ofName?] using List.find?_some looked

namespace Compiler

theorem excludedValues_eq_nil_iff (values : List (Option String)) :
    excludedValues values = [] ↔
      (values.all fun value => value == none || value == some "" || value == some "0") = true := by
  induction values with
  | nil => simp [excludedValues]
  | cons head tail inductionHypothesis =>
      cases head with
      | none => simpa [excludedValues] using inductionHypothesis
      | some value =>
          by_cases ignored : value = "" ∨ value = "0"
          · simpa [excludedValues, ignored] using inductionHypothesis
          · simp [excludedValues, ignored]

theorem comparatorOf_eq_notIn_iff {name : Option String} {comparator : Comparator}
    (found : comparatorOf name = .ok comparator) :
    comparator = .notIn ↔ name = some Comparator.notIn.name := by
  cases name with
  | none =>
      simp only [comparatorOf, Except.ok.injEq] at found
      simp [← found]
  | some name =>
      constructor
      · intro same
        rw [same] at found
        rw [← Comparator.name_eq_of_read found]
      · intro same
        rw [Option.some.injEq] at same
        rw [comparatorOf, same, Comparator.read_name, Except.ok.injEq] at found
        exact found.symm

theorem compareSingle_eq_ok {compiler : Compiler} {column fragment : Fragment} {operator : String}
    {values : List (Option String)}
    (compiled : compiler.compareSingle column operator values = .ok fragment) :
    ∃ text parameters, fragment = column.followedBy (" " ++ text) parameters := by
  simp only [compareSingle] at compiled
  cases literal : values.head?.join.bind literal? with
  | none =>
      simp only [literal, Except.ok.injEq] at compiled
      exact ⟨operator ++ " ?", _, by rw [← compiled, String.append_assoc]⟩
  | some literal' =>
      rw [literal] at compiled
      cases trusted : compiler.firstParty with
      | false => simp [trusted] at compiled
      | true =>
          simp only [trusted, if_true, Except.ok.injEq] at compiled
          exact ⟨operator ++ " " ++ literal', [], by simp [← compiled, String.append_assoc]⟩

theorem compare_eq_ok {compiler : Compiler} {comparator : Comparator} {column : Fragment}
    {values : List (Option String)} {result : Option Fragment}
    (compiled : compiler.compare comparator column values = .ok result) :
    (result = none ∧ comparator = .notIn ∧ excludedValues values = []) ∨
      ∃ text parameters, result = some (column.followedBy (" " ++ text) parameters) ∧
        ¬ (comparator = .notIn ∧ excludedValues values = []) := by
  have single :
      ∀ {operator : String}, comparator ≠ .notIn →
        (compiler.compareSingle column operator values).map some = .ok result →
          ∃ text parameters, result = some (column.followedBy (" " ++ text) parameters) ∧
            ¬ (comparator = .notIn ∧ excludedValues values = []) := by
    intro operator other mapped
    cases compared : compiler.compareSingle column operator values with
    | error failure => simp [compared, Except.map] at mapped
    | ok fragment =>
        obtain ⟨text, parameters, same⟩ := compareSingle_eq_ok compared
        simp only [compared, Except.map, Except.ok.injEq] at mapped
        exact ⟨text, parameters, by rw [← mapped, same], fun both => other both.1⟩
  cases comparator with
  | isIn =>
      simp only [compare, Except.ok.injEq] at compiled
      exact Or.inr ⟨"IN (?)", _, by rw [← compiled]; rfl, by simp⟩
  | notIn =>
      cases excluded : excludedValues values with
      | nil =>
          simp only [compare, excluded, List.isEmpty_nil, if_true, Except.ok.injEq] at compiled
          exact Or.inl ⟨compiled.symm, rfl, rfl⟩
      | cons head tail =>
          simp only [compare, excluded, List.isEmpty_cons, Bool.false_eq_true, if_false,
            Except.ok.injEq] at compiled
          exact Or.inr ⟨"NOT IN (?)", _, by rw [← compiled]; rfl, by simp⟩
  | null =>
      simp only [compare, Except.ok.injEq] at compiled
      exact Or.inr ⟨"IS NULL", _, by rw [← compiled]; rfl, by simp⟩
  | notNull =>
      simp only [compare, Except.ok.injEq] at compiled
      exact Or.inr ⟨"IS NOT NULL", _, by rw [← compiled]; rfl, by simp⟩
  | equal | notEqual | lessThan | lessThanEqual | moreThan | moreThanEqual | like | notLike =>
      exact Or.inr (single (by simp) compiled)

/-- A leaf that compiles is written exactly when it says something, and then its
text is no run of parentheses. -/
theorem LeafCompiles.written {compiler : Compiler} {leaf : ConditionLeaf}
    (compiled : compiler.LeafCompiles leaf) :
    (leaf.saysNothing = true ∧ compiler.ownText leaf = none) ∨
      (leaf.saysNothing = false ∧
        ∃ fragment, compiler.ownText leaf = some fragment ∧ ConditionSymbol.IsDistinct fragment) := by
  obtain ⟨column, comparator, values⟩ := leaf
  cases column with
  | none => exact Or.inl ⟨rfl, rfl⟩
  | some column =>
      simp only [LeafCompiles, leafOf, leaf] at compiled
      cases found : comparatorOf comparator with
      | error failure => simp [found, Except.bind] at compiled
      | ok comparing =>
          rw [found] at compiled
          have isNotIn := comparatorOf_eq_notIn_iff found
          rcases compare_eq_ok compiled with
            ⟨absent, same, excluded⟩ | ⟨text, parameters, present, notExcluded⟩
          · refine Or.inl ⟨?_, absent⟩
            have ignored := (excludedValues_eq_nil_iff values).mp excluded
            simpa [ConditionLeaf.saysNothing, isNotIn.mp same] using ignored
          · refine Or.inr ⟨?_, _, present, ' ', ?_, by decide⟩
            · rw [excludedValues_eq_nil_iff, isNotIn] at notExcluded
              simpa [ConditionLeaf.saysNothing] using notExcluded
            · simp [Fragment.followedBy]

end Compiler

/-! ## Labelled trees -/

section Labelled

variable {Label : Type}

/-- The reference meaning of a tree whose leaves are labelled with the truth values
they have. -/
def ClauseTree.reference (truth : Label → Truth) (tree : ClauseTree (Label × ConditionLeaf)) :
    Option Bool :=
  (tree.map fun leaf => if leaf.2.saysNothing then none else some (truth leaf.1).holds).meaning

/-- The leaves of a tree that say something, each with what it is written as. -/
def Compiler.writtenLeaves (compiler : Compiler) (tree : ClauseTree (Label × ConditionLeaf)) :
    List (Label × Fragment) :=
  tree.leaves.filterMap fun leaf => (compiler.ownText leaf.2).map (leaf.1, ·)

def Compiler.writtenTree (compiler : Compiler) (tree : ClauseTree (Label × ConditionLeaf)) :
    ClauseTree (Option (Label × Fragment)) :=
  tree.map fun leaf => (compiler.ownText leaf.2).map (leaf.1, ·)

namespace Compiler

open ConditionSymbol (spell)

variable {compiler : Compiler} {clause : Clause} {all any : List Condition}
  {result : Option Fragment} {tree : ClauseTree (Label × ConditionLeaf)}

theorem leaves_writtenTree : (compiler.writtenTree tree).leaves.filterMap id =
    compiler.writtenLeaves tree := by
  rw [writtenTree, writtenLeaves, ClauseTree.leaves_map, List.filterMap_map]
  rfl

private theorem labelled_leaves (compiled : compiler.clause clause all any = .ok result)
    (labelled : tree.map Prod.snd = ClauseTree.ofConditions clause all any) :
    ∀ leaf ∈ tree.leaves, compiler.LeafCompiles leaf.2 := by
  intro leaf member
  refine clause_leaves compiled leaf.2 ?_
  rw [← labelled, ClauseTree.leaves_map]
  exact List.mem_map_of_mem member

theorem meaningUnder_writtenTree (compile : ∀ leaf ∈ tree.leaves, compiler.LeafCompiles leaf.2)
    (truth : Label → Truth) :
    (compiler.writtenTree tree).meaningUnder (fun atom => truth atom.1) = tree.reference truth := by
  rw [writtenTree, ClauseTree.meaningUnder, ClauseTree.map_map, ClauseTree.reference]
  refine congrArg ClauseTree.meaning (ClauseTree.map_congr_leaves fun leaf member => ?_)
  rcases (compile leaf member).written with ⟨nothing, absent⟩ | ⟨something, fragment, present, _⟩
  · simp [nothing, absent]
  · simp [something, present]

theorem writtenLeaves_isDistinct
    (compile : ∀ leaf ∈ tree.leaves, compiler.LeafCompiles leaf.2) :
    ∀ atom ∈ compiler.writtenLeaves tree, ConditionSymbol.IsDistinct atom.2 := by
  intro atom member
  obtain ⟨leaf, leafMember, made⟩ := List.mem_filterMap.mp member
  obtain ⟨text, own, same⟩ := Option.map_eq_some_iff.mp made
  rcases (compile leaf leafMember).written with ⟨_, absent⟩ | ⟨_, other, present, isDistinct⟩
  · rw [absent] at own
    cases own
  · rw [present, Option.some.injEq] at own
    rw [← same, ← own]
    exact isDistinct

theorem clause_eq_spelled_labelled (compiled : compiler.clause clause all any = .ok result)
    (labelled : tree.map Prod.snd = ClauseTree.ofConditions clause all any) :
    ∃ alls anys, compiler.writtenTree tree = .group alls anys ∧
      result = (ClauseTree.clauseSymbols alls anys).map (spell Prod.snd) := by
  cases tree with
  | leaf content => cases labelled
  | group alls anys =>
      simp only [ClauseTree.map, ClauseTree.ofConditions, ClauseTree.group.injEq,
        ClauseTree.mapList_eq_map] at labelled
      have forget :
          ∀ trees : List (ClauseTree (Label × ConditionLeaf)),
            (trees.map (ClauseTree.map Prod.snd)).map (ClauseTree.map compiler.ownText) =
              (trees.map compiler.writtenTree).map (ClauseTree.map (Option.map Prod.snd)) := by
        intro trees
        simp only [List.map_map]
        refine List.map_congr_left fun tree _ => ?_
        simp only [Function.comp_apply, writtenTree, ClauseTree.map_map]
        refine ClauseTree.map_congr_leaves fun leaf _ => ?_
        cases own : compiler.ownText leaf.2 with
        | none => simp [own]
        | some fragment => simp [own]
      have spelled := clause_eq_spelled compiled
      rw [← labelled.1, ← labelled.2, forget, forget, ClauseTree.clauseSymbols_map,
        Option.map_map] at spelled
      refine ⟨alls.map compiler.writtenTree, anys.map compiler.writtenTree, ?_, ?_⟩
      · simp only [writtenTree, ClauseTree.map, ClauseTree.mapList_eq_map]
        rfl
      · rw [spelled]
        congr 1
        funext symbols
        exact ConditionSymbol.spell_map id Prod.snd symbols

end Compiler

/-- A clause that compiles is absent exactly when nothing of its tree is left.
Else its expression can be read by precedence, each leaf's own text being one atom
that takes its parameters from the left, and what is read is true exactly when
the tree is. -/
theorem clause_reads_as_reference {compiler : Compiler} {clause : Clause}
    {all any : List Condition} {result : Option Fragment}
    (compiled : compiler.clause clause all any = .ok result)
    {tree : ClauseTree (Label × ConditionLeaf)}
    (labelled : tree.map Prod.snd = ClauseTree.ofConditions clause all any) :
    (result = none ↔ ∀ truth : Label → Truth, tree.reference truth = none) ∧
      ∀ fragment, result = some fragment →
        ∃ formula, ConditionFormula.read? Prod.snd (compiler.writtenLeaves tree) fragment =
            some formula ∧
          ∀ truth : Label → Truth,
            tree.reference truth = some (formula.isTrue fun atom => truth atom.1) := by
  obtain ⟨alls, anys, written, spelled⟩ := Compiler.clause_eq_spelled_labelled compiled labelled
  have compile := Compiler.labelled_leaves compiled labelled
  have meaning :
      ∀ truth : Label → Truth,
        (ClauseTree.group alls anys).meaningUnder (fun atom => truth atom.1) =
          tree.reference truth := by
    intro truth
    rw [← written]
    exact Compiler.meaningUnder_writtenTree compile truth
  rcases ClauseTree.isReadBy_clauseSymbols alls anys with
    ⟨absent, meansNothing⟩ | ⟨symbols, value, present, reads, means⟩
  · have isNone : result = none := by
      rw [spelled, show ClauseTree.clauseSymbols alls anys = none from absent]
      rfl
    refine ⟨⟨fun _ truth => ?_, fun _ => isNone⟩, fun fragment isSome => ?_⟩
    · rw [← meaning]
      exact meansNothing _
    · rw [isNone] at isSome
      cases isSome
  · have symbolsPresent : ClauseTree.clauseSymbols alls anys = some symbols := present
    rw [symbolsPresent, Option.map_some] at spelled
    obtain ⟨formula, readAs, isTrue⟩ := reads.ofSymbols?
    have value_eq :
        ∀ truth : Label → Truth,
          tree.reference truth = some (formula.isTrue fun atom => truth atom.1) := by
      intro truth
      rw [← meaning, isTrue]
      exact means _
    refine ⟨⟨fun isNone => ?_, fun meansNothing => ?_⟩, fun fragment isSome => ?_⟩
    · rw [spelled] at isNone
      cases isNone
    · have contradiction := (value_eq fun _ => none).symm.trans (meansNothing fun _ => none)
      cases contradiction
    · rw [spelled, Option.some.injEq] at isSome
      refine ⟨formula, ?_, value_eq⟩
      have atoms : ConditionSymbol.atoms symbols = compiler.writtenLeaves tree := by
        rw [ClauseTree.atoms_clauseSymbols symbolsPresent, ← written, Compiler.leaves_writtenTree]
      rw [← isSome, ← atoms]
      refine ConditionFormula.read?_spell readAs ?_
      rw [atoms]
      exact Compiler.writtenLeaves_isDistinct compile

end Labelled

/-! ## A nested clause -/

private def nullTest (column comparator : String) : Condition :=
  ⟨some column, some comparator, [], [], [], [], []⟩

/-- Nested entries beside one that excludes nothing. -/
private def nestedEntries : List Condition :=
  [⟨none, none, [], [nullTest "age" "NOT_NULL"],
      [nullTest "name" "NULL", nullTest "age" "NULL"], [], []⟩,
    ⟨some "city", some "NOT_IN", [none, some "0"], [], [], [], []⟩]

private def nestedTree : ClauseTree (Nat × ConditionLeaf) :=
  .group
    [.group [.leaf (0, ⟨some "age", some "NOT_NULL", []⟩)]
        [.leaf (1, ⟨some "name", some "NULL", []⟩), .leaf (2, ⟨some "age", some "NULL", []⟩)],
      .leaf (3, ⟨some "city", some "NOT_IN", [none, some "0"]⟩)]
    [.leaf (4, ⟨some "city", some "NULL", []⟩)]

theorem clause_reads_as_reference_nested :
    ∃ formula, ConditionFormula.read? Prod.snd ((Compiler.new false).writtenLeaves nestedTree)
        ⟨"((?name IS NOT NULL) AND (?name IS NULL OR ?name IS NULL)) AND (?name IS NULL)",
          [.identifier "age", .identifier "name", .identifier "age", .identifier "city"]⟩ =
        some formula ∧
      ∀ truth : Nat → Truth,
        nestedTree.reference truth = some (formula.isTrue fun atom => truth atom.1) := by
  have compiled :
      (Compiler.new false).clause .row nestedEntries [nullTest "city" "NULL"] =
        .ok (some
          ⟨"((?name IS NOT NULL) AND (?name IS NULL OR ?name IS NULL)) AND (?name IS NULL)",
            [.identifier "age", .identifier "name", .identifier "age", .identifier "city"]⟩) := rfl
  exact (clause_reads_as_reference compiled rfl).2 _ rfl

end TableGraph
