import TableGraph.Proofs.Condition.Precedence

/-!
# Faults of conditions

A clause looks at the entries of its two lists and at those nested in them, each on a level
of its own, the top being level 0.  The main statement, `Compiler.clause_fails_iff`, is that
a clause does not compile exactly when one of the entries it looks at has a fault: it has
nested entries on the deepest level, or it is a leaf whose comparator is none, or one that
compares its column with a literal for a caller who is not trusted.
-/

namespace TableGraph

variable {First Second : Type}

/-! ## Failures -/

def Fails (result : Except RequestError First) : Prop := ∃ failure, result = .error failure

theorem not_fails_ok (answer : First) : ¬ Fails (.ok answer) := by
  rintro ⟨failure, failed⟩
  cases failed

theorem fails_error (failure : RequestError) : Fails (.error failure : Except _ First) :=
  ⟨failure, rfl⟩

theorem fails_map_iff {result : Except RequestError First} {change : First → Second} :
    Fails (result.map change) ↔ Fails result := by
  cases result with
  | ok answer => exact iff_of_false (not_fails_ok _) (not_fails_ok _)
  | error failure => exact iff_of_true (fails_error _) (fails_error _)

theorem fails_bind_bind_iff {Third : Type} {first : Except RequestError First}
    {second : Except RequestError Second} {combine : First → Second → Third} :
    Fails (first.bind fun one => second.bind fun other => .ok (combine one other)) ↔
      Fails first ∨ Fails second := by
  cases first with
  | error failure => exact iff_of_true (fails_error _) (Or.inl (fails_error _))
  | ok one =>
      rw [or_iff_right (not_fails_ok one)]
      cases second with
      | error failure => exact iff_of_true (fails_error _) (fails_error _)
      | ok other => exact iff_of_false (not_fails_ok _) (not_fails_ok _)

/-! ## Entries and their levels -/

namespace Condition

/-- The nested entries of a condition that a clause looks at. -/
def nested (clause : Clause) (condition : Condition) : List Condition :=
  match clause with
  | .row => condition.rowAll ++ condition.rowAny
  | .group => condition.groupAll ++ condition.groupAny

/-- An entry that a clause reaches from some conditions, so many levels below them. -/
inductive StandsAt (clause : Clause) (conditions : List Condition) : Nat → Condition → Prop
  | top {entry : Condition} : entry ∈ conditions → StandsAt clause conditions 0 entry
  | nested {depth : Nat} {outer entry : Condition} :
      StandsAt clause conditions depth outer → entry ∈ outer.nested clause →
        StandsAt clause conditions (depth + 1) entry

namespace StandsAt

variable {clause : Clause} {conditions : List Condition} {depth : Nat} {entry : Condition}

theorem mono {others : List Condition} (stands : StandsAt clause conditions depth entry)
    (among : ∀ condition ∈ conditions, condition ∈ others) :
    StandsAt clause others depth entry := by
  induction stands with
  | top member => exact .top (among _ member)
  | nested _ member reached => exact .nested reached member

theorem append_iff {first second : List Condition} :
    StandsAt clause (first ++ second) depth entry ↔
      StandsAt clause first depth entry ∨ StandsAt clause second depth entry := by
  constructor
  · intro stands
    induction stands with
    | top member => exact (List.mem_append.mp member).imp .top .top
    | nested _ member reached => exact reached.imp (.nested · member) (.nested · member)
  · rintro (inFirst | inSecond)
    · exact inFirst.mono fun _ => List.mem_append_left second
    · exact inSecond.mono fun _ => List.mem_append_right first

theorem lift {outer : Condition} (stands : StandsAt clause (outer.nested clause) depth entry) :
    StandsAt clause [outer] (depth + 1) entry := by
  induction stands with
  | top member => exact .nested (.top List.mem_cons_self) member
  | nested _ member reached => exact .nested reached member

theorem singleton_cases {outer : Condition} (stands : StandsAt clause [outer] depth entry) :
    (depth = 0 ∧ entry = outer) ∨
      ∃ below, depth = below + 1 ∧ StandsAt clause (outer.nested clause) below entry := by
  induction stands with
  | top member => exact Or.inl ⟨rfl, List.mem_singleton.mp member⟩
  | nested _ member reached =>
      rcases reached with ⟨rfl, rfl⟩ | ⟨below, rfl, reached⟩
      · exact Or.inr ⟨0, rfl, .top member⟩
      · exact Or.inr ⟨below + 1, rfl, .nested reached member⟩

theorem not_nil : ¬ StandsAt clause [] depth entry := by
  intro stands
  induction stands with
  | top member => cases member
  | nested _ _ none => exact none

end StandsAt

end Condition

/-! ## Faults -/

namespace Compiler

/-- What is wrong with a leaf: its comparator is none, or a caller who is not trusted has its
column compared with a single value that is a literal. -/
inductive LeafFault (compiler : Compiler) (comparator : Option String)
    (values : List (Option String)) : Prop
  | unknown {name : String} : comparator = some name →
      name ∉ Comparator.all.map Comparator.name → LeafFault compiler comparator values
  | literal {known : Comparator} {value : String} : compiler.firstParty = false →
      comparator.getD Comparator.equal.name = known.name → known.operator?.isSome = true →
      values.head? = some (some value) → literalMark.toList <+: value.toList →
      LeafFault compiler comparator values

/-- What is wrong with an entry on a level: it has nested entries on the deepest level, or is
a faulty leaf on one that is not deeper. -/
inductive EntryFault (compiler : Compiler) (clause : Clause) (depth : Nat) (entry : Condition) :
    Prop
  | tooDeep : depth = compiler.maximumDepth → entry.nested clause ≠ [] →
      EntryFault compiler clause depth entry
  | leaf : depth ≤ compiler.maximumDepth → entry.nested clause = [] →
      entry.column.isSome = true → compiler.LeafFault entry.comparator entry.values →
      EntryFault compiler clause depth entry

/-- Some conditions on a level have an entry with a fault on this level or below. -/
def HasFault (compiler : Compiler) (clause : Clause) (base : Nat) (conditions : List Condition) :
    Prop :=
  ∃ depth entry, Condition.StandsAt clause conditions depth entry ∧
    compiler.EntryFault clause (base + depth) entry

variable {compiler : Compiler} {clause : Clause} {base : Nat}

theorem not_hasFault_nil : ¬ compiler.HasFault clause base [] := by
  rintro ⟨depth, entry, stands, _⟩
  exact stands.not_nil

theorem hasFault_append_iff {first second : List Condition} :
    compiler.HasFault clause base (first ++ second) ↔
      compiler.HasFault clause base first ∨ compiler.HasFault clause base second := by
  constructor
  · rintro ⟨depth, entry, stands, fault⟩
    exact (Condition.StandsAt.append_iff.mp stands).imp
      (fun stands => ⟨depth, entry, stands, fault⟩) fun stands => ⟨depth, entry, stands, fault⟩
  · rintro (⟨depth, entry, stands, fault⟩ | ⟨depth, entry, stands, fault⟩)
    · exact ⟨depth, entry, Condition.StandsAt.append_iff.mpr (Or.inl stands), fault⟩
    · exact ⟨depth, entry, Condition.StandsAt.append_iff.mpr (Or.inr stands), fault⟩

theorem hasFault_singleton_iff {outer : Condition} :
    compiler.HasFault clause base [outer] ↔
      compiler.EntryFault clause base outer ∨
        compiler.HasFault clause (base + 1) (outer.nested clause) := by
  constructor
  · rintro ⟨depth, entry, stands, fault⟩
    rcases stands.singleton_cases with ⟨rfl, rfl⟩ | ⟨below, rfl, reached⟩
    · exact Or.inl fault
    · exact Or.inr ⟨below, entry, reached, by rwa [Nat.add_right_comm, Nat.add_assoc]⟩
  · rintro (fault | ⟨depth, entry, stands, fault⟩)
    · exact ⟨0, outer, .top List.mem_cons_self, fault⟩
    · exact ⟨depth + 1, entry, stands.lift, by rwa [Nat.add_right_comm, Nat.add_assoc] at fault⟩

/-! ## Leaves -/

theorem isSome_literal?_iff (value : String) :
    (literal? value).isSome = true ↔ literalMark.toList <+: value.toList := by
  rw [literal?, ← List.isPrefixOf_iff_prefix]
  split
  · exact iff_of_true rfl ‹_›
  · exact iff_of_false (by simp) ‹_›

theorem compareSingle_fails_iff {column : Fragment} {operator : String}
    {values : List (Option String)} :
    Fails (compiler.compareSingle column operator values) ↔
      compiler.firstParty = false ∧
        ∃ value, values.head? = some (some value) ∧ literalMark.toList <+: value.toList := by
  have given : (values.head?.join.bind literal?).isSome = true ↔
      ∃ value, values.head? = some (some value) ∧ literalMark.toList <+: value.toList := by
    simp only [← isSome_literal?_iff, Option.isSome_bind, Option.any_eq_true,
      Option.join_eq_some_iff]
  rw [← given, compareSingle]
  cases values.head?.join.bind literal? with
  | none => exact iff_of_false (not_fails_ok _) (by simp)
  | some literal =>
      cases trusted : compiler.firstParty with
      | true => exact iff_of_false (by simpa [trusted] using not_fails_ok _) (by simp)
      | false => exact iff_of_true (fails_error _) ⟨rfl, rfl⟩

theorem compare_fails_iff {comparator : Comparator} {column : Fragment}
    {values : List (Option String)} :
    Fails (compiler.compare comparator column values) ↔
      comparator.operator?.isSome = true ∧ compiler.firstParty = false ∧
        ∃ value, values.head? = some (some value) ∧ literalMark.toList <+: value.toList := by
  have single (operator : String) :
      Fails ((compiler.compareSingle column operator values).map some) ↔
        compiler.firstParty = false ∧
          ∃ value, values.head? = some (some value) ∧ literalMark.toList <+: value.toList := by
    rw [fails_map_iff, compareSingle_fails_iff]
  cases comparator with
  | isIn | null | notNull => exact iff_of_false (not_fails_ok _) (by simp [Comparator.operator?])
  | notIn =>
      refine iff_of_false ?_ (by simp [Comparator.operator?])
      rw [compare]
      split <;> exact not_fails_ok _
  | equal | notEqual | lessThan | lessThanEqual | moreThan | moreThanEqual | like | notLike =>
      rw [compare, single]
      simp [Comparator.operator?]

theorem mem_allComparators (known : Comparator) : known ∈ Comparator.all := by
  cases known <;> decide

theorem comparatorOf_eq_read (name : Option String) :
    comparatorOf name = Comparator.read (name.getD Comparator.equal.name) := by
  cases name with
  | none => exact (Comparator.read_name .equal).symm
  | some name => rfl

theorem comparatorOf_eq_ok_iff {name : Option String} {known : Comparator} :
    comparatorOf name = .ok known ↔ name.getD Comparator.equal.name = known.name := by
  rw [comparatorOf_eq_read]
  constructor
  · intro found
    exact (Comparator.name_eq_of_read found).symm
  · intro named
    rw [named, Comparator.read_name]

theorem comparatorOf_fails_iff {name : Option String} :
    Fails (comparatorOf name) ↔
      ∃ text, name = some text ∧ text ∉ Comparator.all.map Comparator.name := by
  constructor
  · rintro ⟨failure, failed⟩
    cases name with
    | none => cases failed
    | some text =>
        refine ⟨text, rfl, fun listed => ?_⟩
        obtain ⟨known, _, rfl⟩ := List.mem_map.mp listed
        cases failed.symm.trans (Comparator.read_name known)
  · rintro ⟨text, rfl, unlisted⟩
    cases found : comparatorOf (some text) with
    | error failure => exact fails_error failure
    | ok known =>
        have named : text = known.name := comparatorOf_eq_ok_iff.mp found
        exact absurd (List.mem_map.mpr ⟨known, mem_allComparators known, named.symm⟩) unlisted

theorem leaf_fails_iff {column : String} {comparator : Option String}
    {values : List (Option String)} :
    Fails (compiler.leaf column comparator values) ↔ compiler.LeafFault comparator values := by
  rw [leaf]
  cases found : comparatorOf comparator with
  | error failure =>
      obtain ⟨name, named, unlisted⟩ := comparatorOf_fails_iff.mp ⟨failure, found⟩
      exact iff_of_true (fails_error failure) (.unknown named unlisted)
  | ok known =>
      have named := comparatorOf_eq_ok_iff.mp found
      refine Iff.trans compare_fails_iff ⟨?_, ?_⟩
      · rintro ⟨single, untrusted, value, first, marked⟩
        exact .literal untrusted named single first marked
      · rintro (⟨given, unlisted⟩ | ⟨untrusted, other, single, first, marked⟩)
        · have failed := comparatorOf_fails_iff.mpr ⟨_, given, unlisted⟩
          rw [found] at failed
          exact absurd failed (not_fails_ok known)
        · obtain rfl := Except.ok.inj (found.symm.trans (comparatorOf_eq_ok_iff.mpr other))
          exact ⟨single, untrusted, _, first, marked⟩

theorem leafOf_fails_iff {column comparator : Option String} {values : List (Option String)} :
    Fails (compiler.leafOf column comparator values) ↔
      column.isSome = true ∧ compiler.LeafFault comparator values := by
  cases column with
  | none => exact iff_of_false (not_fails_ok none) (by simp)
  | some column => exact leaf_fails_iff.trans (by simp)

/-! ## Trees -/

theorem combine_fails_iff {depth : Nat} {isLeaf : Bool}
    {leaf : Except RequestError (Option Fragment)}
    {all any : Except RequestError (List (Option Fragment))} :
    Fails (compiler.combine depth isLeaf leaf all any) ↔
      (isLeaf = true ∧ Fails leaf) ∨
        (isLeaf = false ∧ (compiler.maximumDepth ≤ depth ∨ Fails all ∨ Fails any)) := by
  cases isLeaf with
  | true => simp [combine]
  | false =>
      by_cases deep : compiler.maximumDepth < depth + 1
      · exact iff_of_true ⟨.nestedTooDeep compiler.maximumDepth, by simp [combine, deep]⟩
          (Or.inr ⟨rfl, Or.inl (Nat.le_of_lt_succ deep)⟩)
      · have inside : ¬ compiler.maximumDepth ≤ depth := by omega
        simpa [combine, deep, inside] using fails_bind_bind_iff

/-- An entry that is not too deep itself has a fault, or one of its nested entries has. -/
private theorem combine_fails_iff_hasFault (inside : base ≤ compiler.maximumDepth)
    (entry : Condition) {all any : List Condition} (nested : entry.nested clause = all ++ any)
    {allResult anyResult : Except RequestError (List (Option Fragment))}
    (allFails : base + 1 ≤ compiler.maximumDepth →
      (Fails allResult ↔ compiler.HasFault clause (base + 1) all))
    (anyFails : base + 1 ≤ compiler.maximumDepth →
      (Fails anyResult ↔ compiler.HasFault clause (base + 1) any)) :
    Fails (compiler.combine base (all.isEmpty && any.isEmpty)
        (compiler.leafOf entry.column entry.comparator entry.values) allResult anyResult) ↔
      compiler.HasFault clause base [entry] := by
  have empty : (all.isEmpty && any.isEmpty) = true ↔ entry.nested clause = [] := by
    rw [nested, List.append_eq_nil_iff, Bool.and_eq_true, List.isEmpty_iff, List.isEmpty_iff]
  rw [combine_fails_iff, hasFault_singleton_iff, leafOf_fails_iff]
  by_cases isLeaf : entry.nested clause = []
  · have noneBelow : ¬ compiler.HasFault clause (base + 1) (entry.nested clause) := by
      rw [isLeaf]
      exact not_hasFault_nil
    rw [or_iff_left noneBelow, empty.mpr isLeaf]
    constructor
    · rintro (⟨_, hasColumn, fault⟩ | ⟨absurd, _⟩)
      · exact .leaf inside isLeaf hasColumn fault
      · cases absurd
    · rintro (⟨_, isGroup⟩ | ⟨_, _, hasColumn, fault⟩)
      · exact absurd isLeaf isGroup
      · exact Or.inl ⟨rfl, hasColumn, fault⟩
  · rw [Bool.eq_false_iff.mpr (mt empty.mp isLeaf)]
    by_cases deepest : base = compiler.maximumDepth
    · exact iff_of_true (Or.inr ⟨rfl, Or.inl (Nat.le_of_eq deepest.symm)⟩)
        (Or.inl (.tooDeep deepest isLeaf))
    · have below : base + 1 ≤ compiler.maximumDepth := by omega
      have noFault : ¬ compiler.EntryFault clause base entry := by
        rintro (⟨atDeepest, _⟩ | ⟨_, noneNested, _, _⟩)
        · exact deepest atDeepest
        · exact isLeaf noneNested
      -- The entry itself is sound, so all that can fail is one of its two lists.
      rw [or_iff_right noFault, nested, hasFault_append_iff, ← allFails below, ← anyFails below]
      constructor
      · rintro (⟨absurd, _⟩ | ⟨_, tooDeep | failed⟩)
        · cases absurd
        · omega
        · exact failed
      · exact fun failed => Or.inr ⟨rfl, Or.inr failed⟩

-- On a level below the deepest the nested lists are compiled one level deeper, so `inside`
-- holds for them again; on the deepest level nothing is compiled below.
mutual

theorem entry_fails_iff (compiler : Compiler) (clause : Clause) (base : Nat)
    (inside : base ≤ compiler.maximumDepth) :
    ∀ condition : Condition,
      Fails (compiler.entry clause base condition) ↔ compiler.HasFault clause base [condition]
  | ⟨column, comparator, values, rowAll, rowAny, groupAll, groupAny⟩ => by
      cases clause with
      | row =>
          exact combine_fails_iff_hasFault inside
            ⟨column, comparator, values, rowAll, rowAny, groupAll, groupAny⟩ rfl
            (fun below => entries_fails_iff compiler .row (base + 1) below rowAll)
            (fun below => entries_fails_iff compiler .row (base + 1) below rowAny)
      | group =>
          exact combine_fails_iff_hasFault inside
            ⟨column, comparator, values, rowAll, rowAny, groupAll, groupAny⟩ rfl
            (fun below => entries_fails_iff compiler .group (base + 1) below groupAll)
            (fun below => entries_fails_iff compiler .group (base + 1) below groupAny)

theorem entries_fails_iff (compiler : Compiler) (clause : Clause) (base : Nat)
    (inside : base ≤ compiler.maximumDepth) :
    ∀ conditions : List Condition,
      Fails (compiler.entries clause base conditions) ↔ compiler.HasFault clause base conditions
  | [] => iff_of_false (not_fails_ok []) not_hasFault_nil
  | first :: rest => by
      have firstFails := entry_fails_iff compiler clause base inside first
      have restFails := entries_fails_iff compiler clause base inside rest
      rw [← List.singleton_append, hasFault_append_iff, ← firstFails, ← restFails]
      exact fails_bind_bind_iff

end

/-- A clause does not compile exactly when an entry that it looks at has a fault. -/
theorem clause_fails_iff {all any : List Condition} :
    Fails (compiler.clause clause all any) ↔
      ∃ depth entry, Condition.StandsAt clause (all ++ any) depth entry ∧
        compiler.EntryFault clause depth entry := by
  have list (connective : String) (conditions : List Condition) :
      Fails (compiler.list clause connective 0 conditions) ↔
        compiler.HasFault clause 0 conditions := by
    rw [Compiler.list, if_neg (Nat.not_lt_zero _), fails_map_iff]
    exact entries_fails_iff compiler clause 0 (Nat.zero_le _) conditions
  have faults : compiler.HasFault clause 0 (all ++ any) ↔
      ∃ depth entry, Condition.StandsAt clause (all ++ any) depth entry ∧
        compiler.EntryFault clause depth entry := by
    simp only [HasFault, Nat.zero_add]
  rw [← faults, hasFault_append_iff, ← list Connective.all all, ← list Connective.any any]
  exact fails_bind_bind_iff

end Compiler

end TableGraph
