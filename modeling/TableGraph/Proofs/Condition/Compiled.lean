import TableGraph.Proofs.Condition.Tree

/-!
# Compiled conditions are spelled symbols

Compiling writes the symbols of a tree one behind the other.  The proof follows
the compiler through its entries; the depth on which an entry stands decides only
whether it compiles.
-/

namespace TableGraph

namespace Compiler

open ConditionSymbol (spell join? enclose join?_spell spell_append spell_enclose)

/-- What a leaf is written as, absent when it says nothing or does not compile. -/
def ownText (compiler : Compiler) (leaf : ConditionLeaf) : Option Fragment :=
  (compiler.leafOf leaf.column leaf.comparator leaf.values).toOption.join

/-! ## Joined parts -/

section Joining

variable {Atom : Type} (write : Atom → Fragment)

private theorem written_all :
    ConditionSymbol.all.written write = ⟨" " ++ Connective.all ++ " ", []⟩ := by
  rfl

private theorem written_any :
    ConditionSymbol.any.written write = ⟨" " ++ Connective.any ++ " ", []⟩ := by
  rfl

private theorem filterMap_id_spell (parts : List (Option (List (ConditionSymbol Atom)))) :
    (parts.map (Option.map (spell write))).filterMap id =
      (parts.filterMap id).map (spell write) := by
  rw [List.filterMap_map, List.map_filterMap]
  rfl

theorem joinSiblings_spell {connective : ConditionSymbol Atom} {word : String}
    (writes : connective.written write = ⟨" " ++ word ++ " ", []⟩)
    (parts : List (Option (List (ConditionSymbol Atom)))) :
    joinSiblings word (parts.map (Option.map (spell write))) =
      (join? connective (parts.filterMap id)).map (spell write) := by
  unfold joinSiblings
  rw [filterMap_id_spell]
  exact join?_spell write writes _

theorem joinNested_spell (all any : Option (List (ConditionSymbol Atom))) :
    joinNested (all.map (spell write)) (any.map (spell write)) =
      (join? .all ((all.toList ++ any.toList).map enclose)).map (spell write) := by
  have enclosed :
      ((all.map (spell write)).toList ++ (any.map (spell write)).toList).map Fragment.enclosed =
        ((all.toList ++ any.toList).map enclose).map (spell write) := by
    simp [Option.toList_map, spell_enclose, Function.comp_def]
  unfold joinNested
  rw [enclosed]
  exact join?_spell write (by rfl) _

theorem enclosed_append_spell (all any : List (ConditionSymbol Atom)) :
    Fragment.append " AND " (spell write all).enclosed (spell write any).enclosed =
      spell write (enclose all ++ .all :: enclose any) := by
  rw [spell_append, spell, ← spell_enclose, ← spell_enclose]
  simp only [Fragment.append, Fragment.followedBy, ConditionSymbol.written, List.nil_append,
    String.append_assoc]

end Joining

/-! ## Entries -/

theorem combine_eq_ok_iff {compiler : Compiler} {depth : Nat} {isLeaf : Bool}
    {leaf : Except RequestError (Option Fragment)}
    {all any : Except RequestError (List (Option Fragment))} {result : Option Fragment} :
    compiler.combine depth isLeaf leaf all any = .ok result ↔
      (isLeaf = true ∧ leaf = .ok result) ∨
        (isLeaf = false ∧ depth < compiler.maximumDepth ∧
          ∃ alls anys, all = .ok alls ∧ any = .ok anys ∧
            result = joinNested (joinSiblings Connective.all alls)
              (joinSiblings Connective.any anys)) := by
  cases isLeaf with
  | true =>
      simp [combine]
  | false =>
      by_cases deep : compiler.maximumDepth < depth + 1
      · have shallow : ¬ depth < compiler.maximumDepth := by omega
        simp [combine, deep, shallow]
      · have shallow : depth < compiler.maximumDepth := by omega
        cases all <;> cases any <;> simp [combine, deep, shallow, Except.bind, eq_comm]

theorem entries_cons_eq_ok {compiler : Compiler} {clause : Clause} {depth : Nat}
    {first : Condition} {rest : List Condition} {results : List (Option Fragment)}
    (compiled : compiler.entries clause depth (first :: rest) = .ok results) :
    ∃ head tail, compiler.entry clause depth first = .ok head ∧
      compiler.entries clause depth rest = .ok tail ∧ results = head :: tail := by
  simp only [entries] at compiled
  cases headResult : compiler.entry clause depth first with
  | error failure =>
      simp [headResult, Except.bind] at compiled
  | ok head =>
      cases tailResult : compiler.entries clause depth rest with
      | error failure =>
          simp [headResult, tailResult, Except.bind] at compiled
      | ok tail =>
          simp only [headResult, tailResult, Except.bind, Except.ok.injEq] at compiled
          exact ⟨head, tail, rfl, rfl, compiled.symm⟩

private theorem group_eq_spelled {compiler : Compiler}
    {all any : List (ClauseTree ConditionLeaf)} {alls anys : List (Option Fragment)}
    (allSpelled : alls = (ClauseTree.listSymbols (ClauseTree.mapList compiler.ownText all)).map
      (Option.map (spell id)))
    (anySpelled : anys = (ClauseTree.listSymbols (ClauseTree.mapList compiler.ownText any)).map
      (Option.map (spell id))) :
    joinNested (joinSiblings Connective.all alls) (joinSiblings Connective.any anys) =
      ((ClauseTree.group all any).map compiler.ownText).symbols.map (spell id) := by
  rw [allSpelled, anySpelled, joinSiblings_spell id (written_all id),
    joinSiblings_spell id (written_any id), joinNested_spell]
  rfl

private theorem entry_eq_spelled_of_lists {compiler : Compiler} {depth : Nat} (leaf : ConditionLeaf)
    {allConditions anyConditions : List Condition} {all any : List (ClauseTree ConditionLeaf)}
    {allResult anyResult : Except RequestError (List (Option Fragment))} {result : Option Fragment}
    (allSpelled : ∀ {alls}, allResult = .ok alls →
      alls = (ClauseTree.listSymbols (ClauseTree.mapList compiler.ownText all)).map
        (Option.map (spell id)))
    (anySpelled : ∀ {anys}, anyResult = .ok anys →
      anys = (ClauseTree.listSymbols (ClauseTree.mapList compiler.ownText any)).map
        (Option.map (spell id)))
    (compiled : compiler.combine depth (allConditions.isEmpty && anyConditions.isEmpty)
      (compiler.leafOf leaf.column leaf.comparator leaf.values) allResult anyResult = .ok result) :
    result =
      ((if allConditions.isEmpty && anyConditions.isEmpty then ClauseTree.leaf leaf
        else .group all any).map compiler.ownText).symbols.map (spell id) := by
  rcases combine_eq_ok_iff.mp compiled with
    ⟨isLeaf, leafCompiled⟩ | ⟨isGroup, _, alls, anys, allCompiled, anyCompiled, joined⟩
  · have own : compiler.ownText leaf = result := by
      simp [ownText, leafCompiled, Except.toOption]
    rw [if_pos isLeaf, ClauseTree.map, own, ClauseTree.symbols]
    cases result <;> simp [spell, ConditionSymbol.written, Fragment.followedBy]
  · rw [isGroup, joined]
    exact group_eq_spelled (allSpelled allCompiled) (anySpelled anyCompiled)

mutual

/-- An entry that compiles is its symbols, written. -/
theorem entry_eq_spelled (compiler : Compiler) (clause : Clause) (depth : Nat) :
    ∀ (condition : Condition) {result : Option Fragment},
      compiler.entry clause depth condition = .ok result →
        result = ((condition.seenBy clause).map compiler.ownText).symbols.map (spell id)
  | ⟨column, comparator, values, rowAll, rowAny, groupAll, groupAny⟩, result, compiled => by
      cases clause with
      | row =>
          exact entry_eq_spelled_of_lists ⟨column, comparator, values⟩
            (entries_eq_spelled compiler .row (depth + 1) rowAll)
            (entries_eq_spelled compiler .row (depth + 1) rowAny) compiled
      | group =>
          exact entry_eq_spelled_of_lists ⟨column, comparator, values⟩
            (entries_eq_spelled compiler .group (depth + 1) groupAll)
            (entries_eq_spelled compiler .group (depth + 1) groupAny) compiled

theorem entries_eq_spelled (compiler : Compiler) (clause : Clause) (depth : Nat) :
    ∀ (conditions : List Condition) {results : List (Option Fragment)},
      compiler.entries clause depth conditions = .ok results →
        results = (ClauseTree.listSymbols (ClauseTree.mapList compiler.ownText
          (Condition.listSeenBy clause conditions))).map (Option.map (spell id))
  | [], results, compiled => by
      simp only [entries, Except.ok.injEq] at compiled
      subst compiled
      rfl
  | first :: rest, results, compiled => by
      obtain ⟨head, tail, headCompiled, tailCompiled, same⟩ := entries_cons_eq_ok compiled
      have headSpelled := entry_eq_spelled compiler clause depth first headCompiled
      have tailSpelled := entries_eq_spelled compiler clause depth rest tailCompiled
      simp only [same, headSpelled, tailSpelled, Condition.listSeenBy, ClauseTree.mapList,
        ClauseTree.listSymbols, List.map_cons]

end

/-! ## Leaves -/

/-- A leaf that compiles, to a text or to nothing. -/
def LeafCompiles (compiler : Compiler) (leaf : ConditionLeaf) : Prop :=
  compiler.leafOf leaf.column leaf.comparator leaf.values = .ok (compiler.ownText leaf)

theorem leafCompiles_of_eq_ok {compiler : Compiler} {leaf : ConditionLeaf}
    {result : Option Fragment}
    (compiled : compiler.leafOf leaf.column leaf.comparator leaf.values = .ok result) :
    compiler.LeafCompiles leaf := by
  simp [LeafCompiles, ownText, compiled, Except.toOption]

private theorem entry_leaves_of_lists {compiler : Compiler} {depth : Nat} (leaf : ConditionLeaf)
    {allConditions anyConditions : List Condition} {all any : List (ClauseTree ConditionLeaf)}
    {allResult anyResult : Except RequestError (List (Option Fragment))} {result : Option Fragment}
    (allCompile : ∀ {alls}, allResult = .ok alls →
      ∀ content ∈ ClauseTree.listLeaves all, compiler.LeafCompiles content)
    (anyCompile : ∀ {anys}, anyResult = .ok anys →
      ∀ content ∈ ClauseTree.listLeaves any, compiler.LeafCompiles content)
    (compiled : compiler.combine depth (allConditions.isEmpty && anyConditions.isEmpty)
      (compiler.leafOf leaf.column leaf.comparator leaf.values) allResult anyResult = .ok result) :
    ∀ content ∈ (if allConditions.isEmpty && anyConditions.isEmpty then ClauseTree.leaf leaf
      else .group all any).leaves, compiler.LeafCompiles content := by
  intro content member
  rcases combine_eq_ok_iff.mp compiled with
    ⟨isLeaf, leafCompiled⟩ | ⟨isGroup, _, alls, anys, allCompiled, anyCompiled, _⟩
  · rw [if_pos isLeaf, ClauseTree.leaves, List.mem_singleton] at member
    rw [member]
    exact leafCompiles_of_eq_ok leafCompiled
  · rw [isGroup] at member
    rcases List.mem_append.mp member with inAll | inAny
    · exact allCompile allCompiled content inAll
    · exact anyCompile anyCompiled content inAny

mutual

theorem entry_leaves (compiler : Compiler) (clause : Clause) (depth : Nat) :
    ∀ (condition : Condition) {result : Option Fragment},
      compiler.entry clause depth condition = .ok result →
        ∀ content ∈ (condition.seenBy clause).leaves, compiler.LeafCompiles content
  | ⟨column, comparator, values, rowAll, rowAny, groupAll, groupAny⟩, result, compiled => by
      cases clause with
      | row =>
          exact entry_leaves_of_lists ⟨column, comparator, values⟩
            (entries_leaves compiler .row (depth + 1) rowAll)
            (entries_leaves compiler .row (depth + 1) rowAny) compiled
      | group =>
          exact entry_leaves_of_lists ⟨column, comparator, values⟩
            (entries_leaves compiler .group (depth + 1) groupAll)
            (entries_leaves compiler .group (depth + 1) groupAny) compiled

theorem entries_leaves (compiler : Compiler) (clause : Clause) (depth : Nat) :
    ∀ (conditions : List Condition) {results : List (Option Fragment)},
      compiler.entries clause depth conditions = .ok results →
        ∀ content ∈ ClauseTree.listLeaves (Condition.listSeenBy clause conditions),
          compiler.LeafCompiles content
  | [], results, _ => by
      intro content member
      cases member
  | first :: rest, results, compiled => by
      obtain ⟨head, tail, headCompiled, tailCompiled, _⟩ := entries_cons_eq_ok compiled
      intro content member
      rcases List.mem_append.mp member with inFirst | inRest
      · exact entry_leaves compiler clause depth first headCompiled content inFirst
      · exact entries_leaves compiler clause depth rest tailCompiled content inRest

end

/-! ## Clauses -/

private theorem list_eq_ok {compiler : Compiler} {clause : Clause} {connective : String}
    {conditions : List Condition} {result : Option Fragment}
    (compiled : compiler.list clause connective 0 conditions = .ok result) :
    ∃ results, compiler.entries clause 0 conditions = .ok results ∧
      result = joinSiblings connective results := by
  rw [list, if_neg (Nat.not_lt_zero _)] at compiled
  cases entriesResult : compiler.entries clause 0 conditions with
  | error failure =>
      simp [entriesResult, Except.map] at compiled
  | ok results =>
      exact ⟨results, rfl, by simpa [entriesResult, Except.map] using compiled.symm⟩

/-- The two lists of a clause joined: each in parentheses when both say something. -/
def joinLists (all any : Option Fragment) : Option Fragment :=
  match all, any with
  | some all, some any => some (Fragment.append " AND " all.enclosed any.enclosed)
  | some all, none => some all
  | none, any => any

/-- The two lists of a clause that compiles do, and are joined. -/
theorem clause_eq_ok {compiler : Compiler} {clause : Clause} {all any : List Condition}
    {result : Option Fragment} (compiled : compiler.clause clause all any = .ok result) :
    ∃ alls anys, compiler.entries clause 0 all = .ok alls ∧
      compiler.entries clause 0 any = .ok anys ∧
        result = joinLists (joinSiblings Connective.all alls) (joinSiblings Connective.any anys) := by
  simp only [Compiler.clause] at compiled
  cases allResult : compiler.list clause Connective.all 0 all with
  | error failure =>
      simp [allResult, Except.bind] at compiled
  | ok allPart =>
      cases anyResult : compiler.list clause Connective.any 0 any with
      | error failure =>
          simp [allResult, anyResult, Except.bind] at compiled
      | ok anyPart =>
          obtain ⟨alls, allCompiled, allJoined⟩ := list_eq_ok allResult
          obtain ⟨anys, anyCompiled, anyJoined⟩ := list_eq_ok anyResult
          simp only [allResult, anyResult, Except.bind, Except.ok.injEq] at compiled
          exact ⟨alls, anys, allCompiled, anyCompiled, by rw [← compiled, allJoined, anyJoined]; rfl⟩

theorem clause_leaves {compiler : Compiler} {clause : Clause} {all any : List Condition}
    {result : Option Fragment} (compiled : compiler.clause clause all any = .ok result) :
    ∀ content ∈ (ClauseTree.ofConditions clause all any).leaves, compiler.LeafCompiles content := by
  obtain ⟨alls, anys, allCompiled, anyCompiled, _⟩ := clause_eq_ok compiled
  intro content member
  rcases List.mem_append.mp member with inAll | inAny
  · exact entries_leaves compiler clause 0 all allCompiled content inAll
  · exact entries_leaves compiler clause 0 any anyCompiled content inAny

private theorem joinLists_spell (all any : Option (List (ConditionSymbol Fragment))) :
    joinLists (all.map (spell id)) (any.map (spell id)) =
      (ClauseTree.joinLists all any).map (spell id) := by
  cases all with
  | none => rfl
  | some all =>
      cases any with
      | none => rfl
      | some any => exact congrArg some (enclosed_append_spell id all any)

/-- A clause that compiles is its symbols, written. -/
theorem clause_eq_spelled {compiler : Compiler} {clause : Clause} {all any : List Condition}
    {result : Option Fragment} (compiled : compiler.clause clause all any = .ok result) :
    result =
      (ClauseTree.clauseSymbols
        ((Condition.listSeenBy clause all).map (ClauseTree.map compiler.ownText))
        ((Condition.listSeenBy clause any).map (ClauseTree.map compiler.ownText))).map
        (spell id) := by
  obtain ⟨alls, anys, allCompiled, anyCompiled, joined⟩ := clause_eq_ok compiled
  rw [joined, entries_eq_spelled compiler clause 0 all allCompiled,
    entries_eq_spelled compiler clause 0 any anyCompiled,
    joinSiblings_spell id (written_all id), joinSiblings_spell id (written_any id),
    joinLists_spell]
  simp only [ClauseTree.mapList_eq_map]
  rfl

end Compiler

end TableGraph
