import TableGraph.Condition.Compiler

/-!
# Condition trees of one clause

A clause sees a condition either as a leaf or as a group of nested entries.
What such a tree compiles to is a sequence of symbols: compiled leaves,
connectives and parentheses.  The sequence depends on which leaves say
something, but not on what they say, so it is defined for leaves of any type.

The main statements are `symbols_map`, that changing the leaves of a tree changes
the atoms among its symbols and nothing else, and `atoms_clauseSymbols`, that those
atoms are the leaves that say something, from left to right.
-/

namespace TableGraph

/-- A condition tree as one clause sees it. -/
inductive ClauseTree (Leaf : Type) where
  | leaf (content : Leaf)
  /-- Nested entries: those of `all` must hold, and one of those of `any`. -/
  | group (all any : List (ClauseTree Leaf))

/-- What a condition compares when it is a leaf. -/
structure ConditionLeaf where
  column : Option String
  comparator : Option String
  values : List (Option String)
  deriving DecidableEq, Repr

inductive ConditionSymbol (Atom : Type) where
  | opening
  | closing
  | all
  | any
  | atom (content : Atom)
  deriving DecidableEq, Repr

/-! ## Views of trees -/

mutual

/-- The condition as a clause sees it: a leaf when it has no nested entries for
the clause, else the group of those entries, whatever it compares itself. -/
def Condition.seenBy (clause : Clause) : Condition → ClauseTree ConditionLeaf
  | ⟨column, comparator, values, rowAll, rowAny, groupAll, groupAny⟩ =>
    match clause with
    | .row =>
      if rowAll.isEmpty && rowAny.isEmpty then .leaf ⟨column, comparator, values⟩
      else .group (Condition.listSeenBy clause rowAll) (Condition.listSeenBy clause rowAny)
    | .group =>
      if groupAll.isEmpty && groupAny.isEmpty then .leaf ⟨column, comparator, values⟩
      else .group (Condition.listSeenBy clause groupAll) (Condition.listSeenBy clause groupAny)

def Condition.listSeenBy (clause : Clause) : List Condition → List (ClauseTree ConditionLeaf)
  | [] => []
  | first :: rest => first.seenBy clause :: Condition.listSeenBy clause rest

end

/-- The two lists of a clause, taken as a group. -/
def ClauseTree.ofConditions (clause : Clause) (all any : List Condition) :
    ClauseTree ConditionLeaf :=
  .group (Condition.listSeenBy clause all) (Condition.listSeenBy clause any)

namespace ClauseTree

variable {Leaf Other Atom : Type}

mutual

def map (change : Leaf → Other) : ClauseTree Leaf → ClauseTree Other
  | .leaf content => .leaf (change content)
  | .group all any => .group (mapList change all) (mapList change any)

def mapList (change : Leaf → Other) : List (ClauseTree Leaf) → List (ClauseTree Other)
  | [] => []
  | first :: rest => first.map change :: mapList change rest

end

mutual

def leaves : ClauseTree Leaf → List Leaf
  | .leaf content => [content]
  | .group all any => listLeaves all ++ listLeaves any

def listLeaves : List (ClauseTree Leaf) → List Leaf
  | [] => []
  | first :: rest => first.leaves ++ listLeaves rest

end

end ClauseTree

/-! ## Symbols -/

namespace ConditionSymbol

variable {Atom Other : Type}

def map (change : Atom → Other) : ConditionSymbol Atom → ConditionSymbol Other
  | .opening => .opening
  | .closing => .closing
  | .all => .all
  | .any => .any
  | .atom content => .atom (change content)

def enclose (symbols : List (ConditionSymbol Atom)) : List (ConditionSymbol Atom) :=
  .opening :: symbols ++ [.closing]

/-- Parts with a connective between them, absent when there are none. -/
def join? (connective : ConditionSymbol Atom) :
    List (List (ConditionSymbol Atom)) → Option (List (ConditionSymbol Atom))
  | [] => none
  | first :: rest => some (first ++ rest.flatMap (connective :: ·))

def written (write : Atom → Fragment) : ConditionSymbol Atom → Fragment
  | .opening => ⟨"(", []⟩
  | .closing => ⟨")", []⟩
  | .all => ⟨" AND ", []⟩
  | .any => ⟨" OR ", []⟩
  | .atom content => write content

def spell (write : Atom → Fragment) : List (ConditionSymbol Atom) → Fragment
  | [] => ⟨"", []⟩
  | symbol :: rest =>
    (symbol.written write).followedBy (spell write rest).expression (spell write rest).parameters

def content? : ConditionSymbol Atom → Option Atom
  | .atom content => some content
  | _ => none

def atoms (symbols : List (ConditionSymbol Atom)) : List Atom := symbols.filterMap content?

end ConditionSymbol

namespace ClauseTree

open ConditionSymbol (join? enclose)

variable {Leaf Other Atom : Type}

/-- The two lists of a group: each is put in parentheses. -/
def nestedSymbols (all any : List (Option (List (ConditionSymbol Atom)))) :
    Option (List (ConditionSymbol Atom)) :=
  join? .all
    (((join? .all (all.filterMap id)).toList ++ (join? .any (any.filterMap id)).toList).map enclose)

mutual

/-- The symbols of a tree whose leaves are atoms, or say nothing. -/
def symbols : ClauseTree (Option Atom) → Option (List (ConditionSymbol Atom))
  | .leaf content => content.map fun atom => [.atom atom]
  | .group all any => nestedSymbols (listSymbols all) (listSymbols any)

def listSymbols : List (ClauseTree (Option Atom)) → List (Option (List (ConditionSymbol Atom)))
  | [] => []
  | first :: rest => first.symbols :: listSymbols rest

end

/-- The two lists of a clause, which are put in parentheses only when both say
something. -/
def joinLists (all any : Option (List (ConditionSymbol Atom))) :
    Option (List (ConditionSymbol Atom)) :=
  match all, any with
  | some all, some any => some (enclose all ++ .all :: enclose any)
  | some all, none => some all
  | none, any => any

/-- The symbols of the two lists of a clause. -/
def clauseSymbols (all any : List (ClauseTree (Option Atom))) :
    Option (List (ConditionSymbol Atom)) :=
  joinLists (join? .all ((listSymbols all).filterMap id))
    (join? .any ((listSymbols any).filterMap id))

/-! ### Small lemmas -/

@[elab_as_elim, induction_eliminator]
theorem induction {motive : ClauseTree Leaf → Prop}
    (leaf : ∀ content, motive (.leaf content))
    (group : ∀ all any, (∀ tree ∈ all, motive tree) → (∀ tree ∈ any, motive tree) →
      motive (.group all any))
    (tree : ClauseTree Leaf) : motive tree := by
  refine @ClauseTree.rec Leaf motive (fun trees => ∀ tree ∈ trees, motive tree)
    leaf (fun all any allHold anyHold => group all any allHold anyHold) ?_ ?_ tree
  · intro tree member
    exact absurd member List.not_mem_nil
  · intro head tail headHolds tailHold tree member
    rcases List.mem_cons.mp member with rfl | later
    · exact headHolds
    · exact tailHold tree later

@[simp]
theorem mapList_eq_map (change : Leaf → Other) (trees : List (ClauseTree Leaf)) :
    mapList change trees = trees.map (map change) := by
  induction trees with
  | nil => rfl
  | cons head tail inductionHypothesis =>
      simp [mapList, inductionHypothesis]

@[simp]
theorem listSymbols_eq_map (trees : List (ClauseTree (Option Atom))) :
    listSymbols trees = trees.map symbols := by
  induction trees with
  | nil => rfl
  | cons head tail inductionHypothesis =>
      simp [listSymbols, inductionHypothesis]

@[simp]
theorem listLeaves_eq_flatMap (trees : List (ClauseTree Leaf)) :
    listLeaves trees = trees.flatMap leaves := by
  induction trees with
  | nil => rfl
  | cons head tail inductionHypothesis =>
      simp [listLeaves, inductionHypothesis]

@[simp]
theorem map_map (first : Leaf → Other) {Last : Type} (second : Other → Last)
    (tree : ClauseTree Leaf) :
    (tree.map first).map second = tree.map (second ∘ first) := by
  induction tree with
  | leaf content => rfl
  | group all any allHold anyHold =>
      simp only [map, mapList_eq_map, List.map_map, group.injEq]
      exact ⟨List.map_congr_left allHold, List.map_congr_left anyHold⟩

end ClauseTree

/-! ## Written symbols -/

namespace ConditionSymbol

variable {Atom Other : Type}

theorem atoms_cons (symbol : ConditionSymbol Atom) (rest : List (ConditionSymbol Atom)) :
    atoms (symbol :: rest) = symbol.content?.toList ++ atoms rest := by
  cases symbol <;> rfl

theorem atoms_append (first second : List (ConditionSymbol Atom)) :
    atoms (first ++ second) = atoms first ++ atoms second :=
  List.filterMap_append

theorem atoms_enclose (symbols : List (ConditionSymbol Atom)) :
    atoms (enclose symbols) = atoms symbols := by
  rw [enclose, List.cons_append, atoms_cons, atoms_append]
  exact List.append_nil _

theorem spell_append (write : Atom → Fragment) (first second : List (ConditionSymbol Atom)) :
    spell write (first ++ second) =
      (spell write first).followedBy (spell write second).expression
        (spell write second).parameters := by
  induction first with
  | nil =>
      simp [spell, Fragment.followedBy]
  | cons head tail inductionHypothesis =>
      simp [spell, Fragment.followedBy, inductionHypothesis, String.append_assoc]

theorem spell_enclose (write : Atom → Fragment) (symbols : List (ConditionSymbol Atom)) :
    spell write (enclose symbols) = (spell write symbols).enclosed := by
  simp [enclose, spell, spell_append, written, Fragment.followedBy, Fragment.enclosed,
    String.append_assoc]

theorem spell_map (write : Other → Fragment) (change : Atom → Other)
    (symbols : List (ConditionSymbol Atom)) :
    spell write (symbols.map (map change)) = spell (write ∘ change) symbols := by
  induction symbols with
  | nil => rfl
  | cons head tail inductionHypothesis =>
      cases head <;> simp [spell, map, written, inductionHypothesis]

/-- Parts that are written with a connective between them are the joined parts,
written. -/
theorem join?_spell (write : Atom → Fragment) {connective : ConditionSymbol Atom}
    {separator : String} (writes : connective.written write = ⟨separator, []⟩)
    (parts : List (List (ConditionSymbol Atom))) :
    Fragment.join? separator (parts.map (spell write)) =
      (join? connective parts).map (spell write) := by
  cases parts with
  | nil => rfl
  | cons first rest =>
      simp only [List.map_cons, Fragment.join?, join?, Option.map_some, Option.some.injEq]
      induction rest generalizing first with
      | nil =>
          simp
      | cons second rest inductionHypothesis =>
          have joined :
              Fragment.append separator (spell write first) (spell write second) =
                spell write (first ++ connective :: second) := by
            simp [spell_append, spell, writes, Fragment.followedBy, Fragment.append,
              String.append_assoc]
          simp only [List.map_cons, List.foldl_cons, joined, inductionHypothesis,
            List.flatMap_cons, List.append_assoc, List.cons_append]

theorem enclose_map (change : Atom → Other) (symbols : List (ConditionSymbol Atom)) :
    enclose (symbols.map (map change)) = (enclose symbols).map (map change) := by
  simp [enclose, map]

theorem join?_map (change : Atom → Other) (connective : ConditionSymbol Atom)
    (parts : List (List (ConditionSymbol Atom))) :
    join? (connective.map change) (parts.map (List.map (map change))) =
      (join? connective parts).map (List.map (map change)) := by
  cases parts with
  | nil => rfl
  | cons first rest =>
      simp [join?, List.flatMap_map, List.map_flatMap]

end ConditionSymbol

/-! ## Changing atoms -/

namespace ClauseTree

open ConditionSymbol (join? enclose join?_map enclose_map)

variable {Atom Other : Type}

private theorem filterMap_id_map {First Second : Type} (change : First → Second)
    (entries : List (Option First)) :
    (entries.map (Option.map change)).filterMap id = (entries.filterMap id).map change := by
  simp [List.filterMap_map, List.map_filterMap]

private theorem listSymbols_map (change : Atom → Other)
    {trees : List (ClauseTree (Option Atom))}
    (each : ∀ tree ∈ trees, (tree.map (Option.map change)).symbols =
      tree.symbols.map (List.map (ConditionSymbol.map change))) :
    (listSymbols (trees.map (map (Option.map change)))).filterMap id =
      ((listSymbols trees).filterMap id).map (List.map (ConditionSymbol.map change)) := by
  rw [← filterMap_id_map, listSymbols_eq_map, listSymbols_eq_map, List.map_map, List.map_map]
  exact congrArg (List.filterMap id) (List.map_congr_left each)

private theorem join?_listSymbols_map (change : Atom → Other)
    (connective : ConditionSymbol Atom) (changed : ConditionSymbol Other)
    (same : connective.map change = changed)
    {trees : List (ClauseTree (Option Atom))}
    (each : ∀ tree ∈ trees, (tree.map (Option.map change)).symbols =
      tree.symbols.map (List.map (ConditionSymbol.map change))) :
    join? changed ((listSymbols (trees.map (map (Option.map change)))).filterMap id) =
      (join? connective ((listSymbols trees).filterMap id)).map
        (List.map (ConditionSymbol.map change)) := by
  rw [listSymbols_map change each, ← same, join?_map]

/-- Changing the atoms of a tree changes those among its symbols. -/
theorem symbols_map (change : Atom → Other) (tree : ClauseTree (Option Atom)) :
    (tree.map (Option.map change)).symbols =
      tree.symbols.map (List.map (ConditionSymbol.map change)) := by
  induction tree with
  | leaf content =>
      cases content <;> rfl
  | group all any allHold anyHold =>
      have enclosed :
          ∀ parts : List (List (ConditionSymbol Atom)),
            (parts.map (List.map (ConditionSymbol.map change))).map enclose =
              (parts.map enclose).map (List.map (ConditionSymbol.map change)) := by
        intro parts
        simp [enclose_map]
      simp only [map, symbols, nestedSymbols, mapList_eq_map]
      rw [join?_listSymbols_map change .all .all rfl allHold,
        join?_listSymbols_map change .any .any rfl anyHold,
        Option.toList_map, Option.toList_map, ← List.map_append, enclosed]
      exact join?_map change .all _

theorem clauseSymbols_map (change : Atom → Other) (all any : List (ClauseTree (Option Atom))) :
    clauseSymbols (all.map (map (Option.map change))) (any.map (map (Option.map change))) =
      (clauseSymbols all any).map (List.map (ConditionSymbol.map change)) := by
  unfold clauseSymbols
  rw [join?_listSymbols_map change .all .all rfl fun tree _ => symbols_map change tree,
    join?_listSymbols_map change .any .any rfl fun tree _ => symbols_map change tree]
  cases join? .all ((listSymbols all).filterMap id) <;>
    cases join? .any ((listSymbols any).filterMap id) <;>
    simp [joinLists, enclose_map, ConditionSymbol.map]

/-! ## Leaves and atoms -/

variable {Leaf : Type}

theorem leaves_map (change : Leaf → Other) (tree : ClauseTree Leaf) :
    (tree.map change).leaves = tree.leaves.map change := by
  induction tree with
  | leaf content => rfl
  | group all any allHold anyHold =>
      have allLeaves :
          all.flatMap (fun tree => (tree.map change).leaves) =
            all.flatMap fun tree => tree.leaves.map change :=
        congrArg List.flatten (List.map_congr_left allHold)
      have anyLeaves :
          any.flatMap (fun tree => (tree.map change).leaves) =
            any.flatMap fun tree => tree.leaves.map change :=
        congrArg List.flatten (List.map_congr_left anyHold)
      simp only [map, leaves, mapList_eq_map, listLeaves_eq_flatMap, List.map_append,
        List.flatMap_map, List.map_flatMap, allLeaves, anyLeaves]

theorem map_congr_leaves {first second : Leaf → Other} {tree : ClauseTree Leaf}
    (same : ∀ content ∈ tree.leaves, first content = second content) :
    tree.map first = tree.map second := by
  induction tree with
  | leaf content =>
      exact congrArg ClauseTree.leaf (same content (List.mem_singleton.mpr rfl))
  | group all any allHold anyHold =>
      simp only [leaves, listLeaves_eq_flatMap, List.mem_append, List.mem_flatMap] at same
      simp only [map, mapList_eq_map, group.injEq]
      constructor
      · exact List.map_congr_left fun tree member =>
          allHold tree member fun content found => same content (Or.inl ⟨tree, member, found⟩)
      · exact List.map_congr_left fun tree member =>
          anyHold tree member fun content found => same content (Or.inr ⟨tree, member, found⟩)

/-- The atoms among symbols that may be absent. -/
def presentAtoms (symbols : Option (List (ConditionSymbol Atom))) : List Atom :=
  (symbols.map ConditionSymbol.atoms).getD []

private theorem atoms_flatMap_cons {connective : ConditionSymbol Atom}
    (noAtom : connective.content? = none) (rest : List (List (ConditionSymbol Atom))) :
    ConditionSymbol.atoms (rest.flatMap (connective :: ·)) =
      rest.flatMap ConditionSymbol.atoms := by
  induction rest with
  | nil => rfl
  | cons head tail inductionHypothesis =>
      simp [ConditionSymbol.atoms_append, ConditionSymbol.atoms_cons, noAtom, inductionHypothesis]

private theorem presentAtoms_join? (connective : ConditionSymbol Atom)
    (noAtom : connective.content? = none) (parts : List (Option (List (ConditionSymbol Atom)))) :
    presentAtoms (join? connective (parts.filterMap id)) = parts.flatMap presentAtoms := by
  have ofPresent :
      ∀ present : List (List (ConditionSymbol Atom)),
        presentAtoms (join? connective present) = present.flatMap ConditionSymbol.atoms := by
    intro present
    cases present with
    | nil => rfl
    | cons first rest =>
        simp [presentAtoms, join?, ConditionSymbol.atoms_append, atoms_flatMap_cons noAtom]
  rw [ofPresent]
  induction parts with
  | nil => rfl
  | cons head tail inductionHypothesis =>
      cases head with
      | none => simpa [presentAtoms] using inductionHypothesis
      | some symbols => simpa [presentAtoms] using inductionHypothesis

private theorem presentAtoms_enclose (symbols : Option (List (ConditionSymbol Atom))) :
    presentAtoms (symbols.map enclose) = presentAtoms symbols := by
  cases symbols with
  | none => rfl
  | some symbols => exact ConditionSymbol.atoms_enclose symbols

private theorem flatMap_presentAtoms {trees : List (ClauseTree (Option Atom))}
    (each : ∀ tree ∈ trees, presentAtoms tree.symbols = tree.leaves.filterMap id) :
    (listSymbols trees).flatMap presentAtoms = (listLeaves trees).filterMap id := by
  rw [listSymbols_eq_map, listLeaves_eq_flatMap, List.flatMap_map, List.filterMap_flatMap]
  exact congrArg List.flatten (List.map_congr_left each)

private theorem presentAtoms_symbols (tree : ClauseTree (Option Atom)) :
    presentAtoms tree.symbols = tree.leaves.filterMap id := by
  induction tree with
  | leaf content =>
      cases content <;> rfl
  | group all any allHold anyHold =>
      have nested :
          ∀ all any : Option (List (ConditionSymbol Atom)),
            (all.toList ++ any.toList).map enclose =
              [all.map enclose, any.map enclose].filterMap id := by
        intro all any
        cases all <;> cases any <;> rfl
      have allAtoms := (presentAtoms_join? .all rfl _).trans
        (flatMap_presentAtoms allHold)
      have anyAtoms := (presentAtoms_join? .any rfl _).trans
        (flatMap_presentAtoms anyHold)
      rw [symbols, nestedSymbols, nested, presentAtoms_join? .all rfl, leaves, List.filterMap_append,
        ← allAtoms, ← anyAtoms]
      simp only [List.flatMap_cons, List.flatMap_nil, List.append_nil, presentAtoms_enclose]

/-- The atoms of a clause are the leaves of its lists that say something. -/
theorem presentAtoms_clauseSymbols (all any : List (ClauseTree (Option Atom))) :
    presentAtoms (clauseSymbols all any) = (group all any).leaves.filterMap id := by
  have nested := presentAtoms_symbols (group all any)
  rw [symbols, nestedSymbols] at nested
  rw [clauseSymbols, ← nested]
  generalize join? .all ((listSymbols all).filterMap id) = allPart
  generalize join? .any ((listSymbols any).filterMap id) = anyPart
  cases allPart <;> cases anyPart <;>
    simp [joinLists, presentAtoms, join?, ConditionSymbol.atoms_append,
      ConditionSymbol.atoms_cons, ConditionSymbol.atoms_enclose]

theorem atoms_clauseSymbols {all any : List (ClauseTree (Option Atom))}
    {written : List (ConditionSymbol Atom)} (present : clauseSymbols all any = some written) :
    ConditionSymbol.atoms written = (group all any).leaves.filterMap id := by
  rw [← presentAtoms_clauseSymbols, present]
  rfl

/-- Leaves that are changed from others leave symbols whose atoms are changed from theirs. -/
theorem clauseSymbols_of_leaves {before : Leaf → Option Atom}
    {after : Leaf → Option Other} {change : Atom → Other} {all any : List (ClauseTree Leaf)}
    (changed : ∀ leaf ∈ (group all any).leaves, (before leaf).map change = after leaf) :
    clauseSymbols (all.map (map after)) (any.map (map after)) =
      (clauseSymbols (all.map (map before)) (any.map (map before))).map
        (List.map (ConditionSymbol.map change)) := by
  simp only [leaves, listLeaves_eq_flatMap, List.mem_append, List.mem_flatMap] at changed
  have trees {trees : List (ClauseTree Leaf)}
      (within : ∀ tree ∈ trees, ∀ leaf ∈ tree.leaves, (before leaf).map change = after leaf) :
      trees.map (map after) = (trees.map (map before)).map (map (Option.map change)) := by
    rw [List.map_map]
    refine List.map_congr_left fun tree member => ?_
    rw [Function.comp_apply, map_map]
    exact map_congr_leaves fun leaf found => (within tree member leaf found).symm
  rw [trees fun tree member leaf found => changed leaf (Or.inl ⟨tree, member, found⟩),
    trees fun tree member leaf found => changed leaf (Or.inr ⟨tree, member, found⟩),
    clauseSymbols_map]

/-- The atoms of a clause are what its leaves are written as, from left to right. -/
theorem atoms_of_leaves {write : Leaf → Option Atom}
    {all any : List (ClauseTree Leaf)} {symbols : List (ConditionSymbol Atom)}
    (present : clauseSymbols (all.map (map write)) (any.map (map write)) = some symbols) :
    ConditionSymbol.atoms symbols = (group all any).leaves.filterMap write := by
  have leaves := leaves_map write (group all any)
  rw [map, mapList_eq_map, mapList_eq_map] at leaves
  rw [atoms_clauseSymbols present, leaves, List.filterMap_map]
  rfl

end ClauseTree

end TableGraph
