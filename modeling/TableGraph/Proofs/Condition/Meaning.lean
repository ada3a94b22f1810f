import TableGraph.Proofs.Condition.Compiled
import TableGraph.Proofs.Condition.Reading

/-!
# The meaning of condition trees

The reference meaning of a tree is two-valued: a leaf is true when its truth
value is, a group is true when all entries of one list and some entry of the
other are, and entries that say nothing are left out, as are lists with nothing
left.

The main statement, `isReadBy_clauseSymbols`, is that the symbols of a clause, read
by precedence, are true exactly when its tree is.
-/

namespace TableGraph

/-! ## The reference meaning -/

/-- The entries that say something taken together, absent when there are none. -/
def takeTogether (combine : List Bool → Bool) (entries : List (Option Bool)) : Option Bool :=
  let left := entries.filterMap id
  if left.isEmpty then none else some (combine left)

def allHold (entries : List (Option Bool)) : Option Bool := takeTogether (·.all id) entries

def anyHolds (entries : List (Option Bool)) : Option Bool := takeTogether (·.any id) entries

namespace ClauseTree

variable {Atom : Type}

mutual

/-- The meaning of a tree whose leaves are true or false, or say nothing. -/
def meaning : ClauseTree (Option Bool) → Option Bool
  | .leaf content => content
  | .group all any => allHold [allHold (listMeaning all), anyHolds (listMeaning any)]

def listMeaning : List (ClauseTree (Option Bool)) → List (Option Bool)
  | [] => []
  | first :: rest => first.meaning :: listMeaning rest

end

@[simp]
theorem listMeaning_eq_map (trees : List (ClauseTree (Option Bool))) :
    listMeaning trees = trees.map meaning := by
  induction trees with
  | nil => rfl
  | cons head tail inductionHypothesis =>
      simp [listMeaning, inductionHypothesis]

/-- The meaning of a tree when its atoms have truth values. -/
def meaningUnder (assignment : Atom → Truth) (tree : ClauseTree (Option Atom)) : Option Bool :=
  (tree.map (Option.map fun atom => (assignment atom).holds)).meaning

theorem meaningUnder_group (assignment : Atom → Truth) (all any : List (ClauseTree (Option Atom))) :
    (ClauseTree.group all any).meaningUnder assignment =
      allHold [allHold (all.map (meaningUnder assignment)),
        anyHolds (any.map (meaningUnder assignment))] := by
  simp only [meaningUnder, map, meaning, mapList_eq_map, listMeaning_eq_map, List.map_map]
  rfl

end ClauseTree

/-! ## Reading joined parts -/

namespace ConditionReader

open ConditionSymbol (join?)

variable {Atom : Type}

/-- Symbols with the value they are read as. -/
abbrev ValuedPart (Atom : Type) := List (ConditionSymbol Atom) × ((Atom → Truth) → Bool)

/-- What is read of two parts with a connective between them is read of any
number of parts. -/
theorem reads_join {Reads : List (ConditionSymbol Atom) → ((Atom → Truth) → Bool) → Prop}
    {connective : ConditionSymbol Atom} {combine : Bool → Bool → Bool}
    (pair : ∀ {first second firstValue secondValue}, Reads first firstValue →
      Reads second secondValue →
        Reads (first ++ connective :: second) fun assignment =>
          combine (firstValue assignment) (secondValue assignment)) :
    ∀ (rest : List (ValuedPart Atom)) (first : ValuedPart Atom),
      (∀ part ∈ first :: rest, Reads part.1 part.2) →
        Reads (first.1 ++ (rest.map Prod.fst).flatMap (connective :: ·)) fun assignment =>
          (rest.map fun part => part.2 assignment).foldl combine (first.2 assignment)
  | [], first, reads => by
      simpa using reads first List.mem_cons_self
  | second :: rest, first, reads => by
      have joined := pair (reads first List.mem_cons_self)
        (reads second (List.mem_cons_of_mem first List.mem_cons_self))
      have continued := reads_join pair rest
        (first.1 ++ connective :: second.1,
          fun assignment => combine (first.2 assignment) (second.2 assignment))
        (by
          intro part member
          rcases List.mem_cons.mp member with rfl | later
          · exact joined
          · exact reads part (List.mem_cons_of_mem first (List.mem_cons_of_mem second later)))
      simpa using continued

private theorem foldl_and (values : List Bool) (first : Bool) :
    values.foldl and first = (first && values.all id) := by
  induction values generalizing first with
  | nil => simp
  | cons head tail inductionHypothesis =>
      simp [inductionHypothesis, Bool.and_assoc]

private theorem foldl_or (values : List Bool) (first : Bool) :
    values.foldl or first = (first || values.any id) := by
  induction values generalizing first with
  | nil => simp
  | cons head tail inductionHypothesis =>
      simp [inductionHypothesis, Bool.or_assoc]

/-- Joined factors are true when all of them are. -/
theorem multiplies_join? {parts : List (ValuedPart Atom)} {symbols : List (ConditionSymbol Atom)}
    (joined : join? .all (parts.map Prod.fst) = some symbols)
    (reads : ∀ part ∈ parts, Multiplies part.1 part.2) :
    Multiplies symbols fun assignment => (parts.map fun part => part.2 assignment).all id := by
  cases parts with
  | nil => simp [join?] at joined
  | cons first rest =>
      simp only [List.map_cons, join?, Option.some.injEq] at joined
      rw [← joined]
      simpa [foldl_and] using reads_join Multiplies.and rest first reads

/-- Joined alternatives are true when one of them is. -/
theorem offers_join? {parts : List (ValuedPart Atom)} {symbols : List (ConditionSymbol Atom)}
    (joined : join? .any (parts.map Prod.fst) = some symbols)
    (reads : ∀ part ∈ parts, Offers part.1 part.2) :
    Offers symbols fun assignment => (parts.map fun part => part.2 assignment).any id := by
  cases parts with
  | nil => simp [join?] at joined
  | cons first rest =>
      simp only [List.map_cons, join?, Option.some.injEq] at joined
      rw [← joined]
      simpa [foldl_or] using reads_join Offers.or rest first reads

/-! ## Reading trees -/

/-- Symbols, if there are any, with a meaning that may be absent. -/
abbrev MeantPart (Atom : Type) :=
  Option (List (ConditionSymbol Atom)) × ((Atom → Truth) → Option Bool)

/-- The symbols are read as what is meant, and are absent when nothing is. -/
def IsReadBy (Reads : List (ConditionSymbol Atom) → ((Atom → Truth) → Bool) → Prop)
    (part : MeantPart Atom) : Prop :=
  (part.1 = none ∧ ∀ assignment, part.2 assignment = none) ∨
    ∃ symbols value, part.1 = some symbols ∧ Reads symbols value ∧
      ∀ assignment, part.2 assignment = some (value assignment)

variable {Reads Other : List (ConditionSymbol Atom) → ((Atom → Truth) → Bool) → Prop}

theorem IsReadBy.imp {part : MeantPart Atom} (read : IsReadBy Reads part)
    (change : List (ConditionSymbol Atom) → List (ConditionSymbol Atom))
    (other : ∀ {symbols value}, Reads symbols value → Other (change symbols) value) :
    IsReadBy Other (part.1.map change, part.2) := by
  rcases read with ⟨absent, meansNothing⟩ | ⟨symbols, value, present, reads, means⟩
  · exact Or.inl ⟨by rw [absent]; rfl, meansNothing⟩
  · exact Or.inr ⟨change symbols, value, by rw [present]; rfl, other reads, means⟩

theorem exists_valuedParts :
    ∀ {parts : List (MeantPart Atom)}, (∀ part ∈ parts, IsReadBy Reads part) →
      ∃ valued : List (ValuedPart Atom),
        (parts.map Prod.fst).filterMap id = valued.map Prod.fst ∧
          (∀ part ∈ valued, Reads part.1 part.2) ∧
          ∀ assignment, (parts.map fun part => part.2 assignment).filterMap id =
            valued.map fun part => part.2 assignment
  | [], _ => ⟨[], rfl, by simp, fun _ => rfl⟩
  | head :: tail, each => by
      obtain ⟨valued, symbols, reads, meanings⟩ :=
        exists_valuedParts fun part member => each part (List.mem_cons_of_mem head member)
      rcases each head List.mem_cons_self with
        ⟨absent, meansNothing⟩ | ⟨written, value, present, headReads, means⟩
      · refine ⟨valued, ?_, reads, fun assignment => ?_⟩
        · simpa [absent] using symbols
        · simpa [meansNothing assignment] using meanings assignment
      · refine ⟨(written, value) :: valued, ?_, ?_, fun assignment => ?_⟩
        · simpa [present] using symbols
        · intro part member
          rcases List.mem_cons.mp member with rfl | later
          · exact headReads
          · exact reads part later
        · simpa [means assignment] using meanings assignment

/-- A list whose entries are read is read, joined by its connective. -/
private theorem isReadBy_join? {connective : ConditionSymbol Atom} {combine : List Bool → Bool}
    {parts : List (MeantPart Atom)} (each : ∀ part ∈ parts, IsReadBy Reads part)
    (reads : ∀ {valued : List (ValuedPart Atom)} {symbols}, (∀ part ∈ valued, Reads part.1 part.2) →
      join? connective (valued.map Prod.fst) = some symbols →
        Other symbols fun assignment => combine (valued.map fun part => part.2 assignment)) :
    IsReadBy Other (join? connective ((parts.map Prod.fst).filterMap id),
      fun assignment => takeTogether combine (parts.map fun part => part.2 assignment)) := by
  obtain ⟨valued, symbols, valuedRead, meanings⟩ := exists_valuedParts each
  rw [symbols]
  cases valued with
  | nil =>
      refine Or.inl ⟨rfl, fun assignment => ?_⟩
      simp only [takeTogether, meanings assignment]
      rfl
  | cons first rest =>
      refine Or.inr ⟨_, _, rfl, reads valuedRead rfl, fun assignment => ?_⟩
      simp only [takeTogether, meanings assignment]
      rfl

theorem isReadBy_join?_all {parts : List (MeantPart Atom)}
    (each : ∀ part ∈ parts, IsReadBy Multiplies part) :
    IsReadBy Multiplies (join? .all ((parts.map Prod.fst).filterMap id),
      fun assignment => allHold (parts.map fun part => part.2 assignment)) :=
  isReadBy_join? each fun valuedRead joined => multiplies_join? joined valuedRead

theorem isReadBy_join?_any {parts : List (MeantPart Atom)}
    (each : ∀ part ∈ parts, IsReadBy Multiplies part) :
    IsReadBy Offers (join? .any ((parts.map Prod.fst).filterMap id),
      fun assignment => anyHolds (parts.map fun part => part.2 assignment)) :=
  isReadBy_join? each fun valuedRead joined =>
    offers_join? joined fun part member => (valuedRead part member).offers

end ConditionReader

namespace ClauseTree

open ConditionSymbol (join? enclose)
open ConditionReader

variable {Atom : Type}

/-- The symbols of a tree with its meaning. -/
def meant (tree : ClauseTree (Option Atom)) : MeantPart Atom :=
  (tree.symbols, fun assignment => tree.meaningUnder assignment)

def meantAll (trees : List (ClauseTree (Option Atom))) : MeantPart Atom :=
  (join? .all ((listSymbols trees).filterMap id),
    fun assignment => allHold (trees.map (meaningUnder assignment)))

def meantAny (trees : List (ClauseTree (Option Atom))) : MeantPart Atom :=
  (join? .any ((listSymbols trees).filterMap id),
    fun assignment => anyHolds (trees.map (meaningUnder assignment)))

private theorem isReadBy_map_meant {trees : List (ClauseTree (Option Atom))}
    (each : ∀ tree ∈ trees, IsReadBy Multiplies tree.meant) :
    ∀ part ∈ trees.map meant, IsReadBy Multiplies part := by
  intro part member
  obtain ⟨tree, treeMember, rfl⟩ := List.mem_map.mp member
  exact each tree treeMember

private theorem isReadBy_meantAll {trees : List (ClauseTree (Option Atom))}
    (each : ∀ tree ∈ trees, IsReadBy Multiplies tree.meant) :
    IsReadBy Multiplies (meantAll trees) := by
  have joined := isReadBy_join?_all (isReadBy_map_meant each)
  simpa [meantAll, meant, Function.comp_def] using joined

private theorem isReadBy_meantAny {trees : List (ClauseTree (Option Atom))}
    (each : ∀ tree ∈ trees, IsReadBy Multiplies tree.meant) :
    IsReadBy Offers (meantAny trees) := by
  have joined := isReadBy_join?_any (isReadBy_map_meant each)
  simpa [meantAny, meant, Function.comp_def] using joined

/-- The symbols of a tree are read as a factor that is true when the tree is. -/
theorem isReadBy_meant (tree : ClauseTree (Option Atom)) : IsReadBy Multiplies tree.meant := by
  induction tree with
  | leaf content =>
      cases content with
      | none => exact Or.inl ⟨rfl, fun _ => rfl⟩
      | some atom => exact Or.inr ⟨_, _, rfl, multiplies_atom atom, fun _ => rfl⟩
  | group all any allRead anyRead =>
      have allEnclosed :=
        (isReadBy_meantAll allRead).imp enclose fun reads => reads.offers.enclose
      have anyEnclosed :=
        (isReadBy_meantAny anyRead).imp enclose fun reads => reads.enclose
      have each :
          ∀ part ∈ [((meantAll all).1.map enclose, (meantAll all).2),
              ((meantAny any).1.map enclose, (meantAny any).2)],
            IsReadBy Multiplies part := by
        intro part member
        rcases List.mem_cons.mp member with rfl | later
        · exact allEnclosed
        · rw [List.mem_singleton.mp later]
          exact anyEnclosed
      have joined := isReadBy_join?_all each
      have present :
          ([(meantAll all).1.map enclose, (meantAny any).1.map enclose].filterMap id) =
            ((meantAll all).1.toList ++ (meantAny any).1.toList).map enclose := by
        cases (meantAll all).1 <;> cases (meantAny any).1 <;> rfl
      simp only [List.map_cons, List.map_nil, present] at joined
      simpa [meant, symbols, nestedSymbols, meaningUnder_group, meantAll, meantAny] using joined

/-- The symbols of a clause are read as a formula that is true when its two lists
are, taken as a group. -/
theorem isReadBy_clauseSymbols (all any : List (ClauseTree (Option Atom))) :
    IsReadBy Offers
      (clauseSymbols all any, fun assignment => (group all any).meaningUnder assignment) := by
  have allRead := isReadBy_meantAll fun tree (_ : tree ∈ all) => isReadBy_meant tree
  have anyRead := isReadBy_meantAny fun tree (_ : tree ∈ any) => isReadBy_meant tree
  have together :
      ∀ assignment, (group all any).meaningUnder assignment =
        allHold [(meantAll all).2 assignment, (meantAny any).2 assignment] :=
    fun assignment => meaningUnder_group assignment all any
  have symbols : clauseSymbols all any = joinLists (meantAll all).1 (meantAny any).1 := rfl
  rcases allRead with ⟨noAll, allMeans⟩ | ⟨allSymbols, allValue, someAll, allReads, allMeans⟩
  · rcases anyRead with ⟨noAny, anyMeans⟩ | ⟨anySymbols, anyValue, someAny, anyReads, anyMeans⟩
    · refine Or.inl ⟨by rw [symbols, noAll, noAny]; rfl, fun assignment => ?_⟩
      exact (together assignment).trans (by rw [allMeans, anyMeans]; rfl)
    · refine Or.inr ⟨anySymbols, anyValue, by rw [symbols, noAll, someAny]; rfl, anyReads,
        fun assignment => ?_⟩
      exact (together assignment).trans (by simp [allMeans, anyMeans, allHold, takeTogether])
  · rcases anyRead with ⟨noAny, anyMeans⟩ | ⟨anySymbols, anyValue, someAny, anyReads, anyMeans⟩
    · refine Or.inr ⟨allSymbols, allValue, by rw [symbols, someAll, noAny]; rfl, allReads.offers,
        fun assignment => ?_⟩
      exact (together assignment).trans (by simp [allMeans, anyMeans, allHold, takeTogether])
    · refine Or.inr ⟨_, _, by rw [symbols, someAll, someAny]; rfl,
        (allReads.offers.enclose.and anyReads.enclose).offers, fun assignment => ?_⟩
      exact (together assignment).trans (by simp [allMeans, anyMeans, allHold, takeTogether])

/-- The symbols of a clause can be read. -/
theorem exists_run_of_clauseSymbols {all any : List (ClauseTree (Option Atom))}
    {symbols : List (ConditionSymbol Atom)} (present : clauseSymbols all any = some symbols) :
    ∃ final, ConditionReader.start.run symbols = some final := by
  rcases isReadBy_clauseSymbols all any with ⟨absent, _⟩ | ⟨others, value, same, reads, _⟩
  · rw [present] at absent
    cases absent
  · obtain rfl := Option.some.inj (present.symm.trans same)
    obtain ⟨formula, readAs, _⟩ := reads.ofSymbols?
    obtain ⟨final, reached, _⟩ := ConditionReader.exists_run_of_ofSymbols? readAs
    exact ⟨final, reached⟩

end ClauseTree

end TableGraph
