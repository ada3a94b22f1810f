import Mathlib
import TableGraph.Proofs.Condition.Meaning
import TableGraph.Proofs.Condition.Trust
import TableGraph.Proofs.Selection.Binding
import TableGraph.Proofs.Selection.QuotedMarks

/-!
# Expressions of trusted callers

The columns and the literals of a trusted caller are joined into one expression, in which they
are read again.  Texts that keep their question marks to themselves stay as they are there, and
the placeholders of the compiler take its values from left to right.
-/

namespace TableGraph

open PlaceholderToken (IsPlain)

/-! ## Fragments behind one another -/

/-- A fragment that expands to a statement, whatever is written behind it that does not go on
with its last placeholder. -/
def Fragment.ExpandsTo (fragment : Fragment) (statement : Statement) : Prop :=
  ∀ ⦃template text : List Char⦄ ⦃parameters : List Parameter⦄ ⦃binds : List Value⦄,
    template.head? ≠ some 'n' → Expands template parameters text binds →
      Expands (fragment.expression.toList ++ template) (fragment.parameters ++ parameters)
        (statement.text.toList ++ text) (statement.binds ++ binds)

namespace Fragment.ExpandsTo

variable {column words : String} {fragment : Fragment} {statement : Statement}

theorem expand (expandsTo : fragment.ExpandsTo statement) : fragment.expand = .ok statement := by
  have alone := (expandsTo (by simp) Expands.nil).expand
  simpa using alone

/-- Fixed words behind a text with its own marks. -/
theorem fixed (owns : OwnsMarks column.toList)
    (plain : ∀ character ∈ words.toList, IsPlain character) :
    ExpandsTo ⟨column ++ words, []⟩ ⟨column ++ words, []⟩ := by
  intro template text parameters binds _ behind
  simpa using owns.expands (behind.plain plain)

theorem literal {written : String} (owns : OwnsMarks column.toList)
    (plain : ∀ character ∈ words.toList, IsPlain character)
    (ownsWritten : OwnsMarks written.toList) :
    ExpandsTo ⟨column ++ (words ++ written), []⟩ ⟨column ++ (words ++ written), []⟩ := by
  intro template text parameters binds _ behind
  simpa using owns.expands ((ownsWritten.expands behind).plain plain)

theorem value (owns : OwnsMarks column.toList)
    (plain : ∀ character ∈ words.toList, IsPlain character) (value : Value) :
    ExpandsTo ⟨column ++ (words ++ "?"), [.value value]⟩ ⟨column ++ (words ++ "?"), [value]⟩ := by
  intro template text parameters binds apart behind
  have notNamed : PlaceholderToken.afterName? template = none := by
    unfold PlaceholderToken.afterName?
    split
    · exact absurd rfl apart
    · rfl
  have placed : Fragment.placed (.value value) = ⟨String.ofList ['?'], [value]⟩ := rfl
  simpa using owns.expands ((behind.value notNamed placed).plain plain)

theorem list (owns : OwnsMarks column.toList)
    (plain : ∀ character ∈ words.toList, IsPlain character) (values : List Value) :
    ExpandsTo ⟨column ++ (words ++ "(?)"), [.list values]⟩
      ⟨column ++ (words ++ "(" ++ Fragment.marks values.length ++ ")"), values⟩ := by
  intro template text parameters binds _ behind
  have opened : ∀ character ∈ words.toList ++ ['('], IsPlain character := by
    simpa [IsPlain, or_imp, forall_and] using plain
  have closed : ∀ character ∈ [')'], IsPlain character := by simp [IsPlain]
  have placed : Fragment.placed (.list values) =
      ⟨String.ofList (Fragment.marks values.length).toList, values⟩ := by
    rw [Fragment.placed, String.ofList_toList]
  have listed := (behind.plain closed).value rfl placed
  simpa using owns.expands (listed.plain opened)

theorem foldl_append {first : Fragment} {rest : List Fragment}
    (firstExpands : first.ExpandsTo ⟨first.expression, []⟩)
    (restExpand : ∀ part ∈ rest, part.ExpandsTo ⟨part.expression, []⟩) :
    ExpandsTo (rest.foldl (Fragment.append ", ") first)
      ⟨(rest.foldl (Fragment.append ", ") first).expression, []⟩ := by
  induction rest generalizing first with
  | nil => exact firstExpands
  | cons next later inductionHypothesis =>
      refine inductionHypothesis ?_ fun part member =>
        restExpand part (List.mem_cons_of_mem next member)
      intro template text parameters binds apart behind
      have nextExpands := restExpand next List.mem_cons_self apart behind
      have plain : ∀ character ∈ ", ".toList, IsPlain character := by simp [IsPlain]
      simpa [Fragment.append] using firstExpands (by simp) (nextExpands.plain plain)

end Fragment.ExpandsTo

/-! ## Leaves -/

namespace Comparator

/-- The literal that a comparison writes as it is given. -/
def literal? (comparator : Comparator) (values : List (Option String)) : Option String :=
  comparator.operator?.bind fun _ => values.head?.join.bind Compiler.literal?

/-- The comparison of a column with a list of values, each of which has a mark. -/
def among (column words : String) (values : List Value) : Statement :=
  ⟨column ++ (words ++ "(" ++ Fragment.marks values.length ++ ")"), values⟩

/-- A comparison as it stands in the statement of a trusted caller, absent when it excludes
nothing: the column and a literal are as they were given, and each value has a mark. -/
def statement? (comparator : Comparator) (column : String) (values : List (Option String)) :
    Option Statement :=
  match comparator.operator?, comparator with
  | some operator, _ =>
    match comparator.literal? values with
    | some literal => some ⟨column ++ (" " ++ operator ++ " " ++ literal), []⟩
    | none => some ⟨column ++ (" " ++ operator ++ " ?"), [Compiler.boundInput values.head?.join]⟩
  | none, .isIn => some (among column " IN " (values.map Compiler.boundInput))
  | none, .notIn =>
    let excluded := Compiler.excludedValues values
    if excluded.isEmpty then none else some (among column " NOT IN " excluded)
  | none, .null => some ⟨column ++ " IS NULL", []⟩
  | none, _ => some ⟨column ++ " IS NOT NULL", []⟩

theorem statement?_of_operator? {comparator : Comparator} {operator : String}
    (compares : comparator.operator? = some operator) (column : String)
    (values : List (Option String)) :
    comparator.statement? column values =
      match comparator.literal? values with
      | some literal => some ⟨column ++ (" " ++ operator ++ " " ++ literal), []⟩
      | none =>
        some ⟨column ++ (" " ++ operator ++ " ?"), [Compiler.boundInput values.head?.join]⟩ := by
  unfold statement?
  rw [compares]

theorem isPlain_operator? {comparator : Comparator} {operator : String}
    (compares : comparator.operator? = some operator) :
    ∀ character ∈ operator.toList, IsPlain character := by
  cases comparator with
  | isIn | notIn | null | notNull => cases compares
  | equal | notEqual | lessThan | lessThanEqual | moreThan | moreThanEqual | like | notLike =>
      obtain rfl := Option.some.inj compares
      simp [IsPlain]

end Comparator

namespace Compiler

variable {maximumDepth : Nat} {column : String} {values : List (Option String)}

theorem compareSingle_expandsTo {comparator : Comparator} {operator : String}
    (compares : comparator.operator? = some operator) (owns : OwnsMarks column.toList)
    (ownsLiteral : ∀ literal ∈ comparator.literal? values, OwnsMarks literal.toList)
    {fragment : Fragment}
    (compiled : (trusted maximumDepth).compareSingle ⟨column, []⟩ operator values = .ok fragment) :
    ∃ statement, comparator.statement? column values = some statement ∧
      fragment.ExpandsTo statement := by
  have given : comparator.literal? values = values.head?.join.bind literal? := by
    rw [Comparator.literal?, compares, Option.bind_some]
  have plain : ∀ character ∈ (" " ++ operator ++ " ").toList, IsPlain character := by
    simpa [IsPlain, or_imp, forall_and] using Comparator.isPlain_operator? compares
  rw [compareSingle, ← given] at compiled
  rw [Comparator.statement?_of_operator? compares]
  cases found : comparator.literal? values with
  | some literal =>
      simp only [found, trusted, if_true, Except.ok.injEq] at compiled
      rw [← compiled]
      exact ⟨_, rfl, .literal owns plain (ownsLiteral literal found)⟩
  | none =>
      simp only [found, Except.ok.injEq] at compiled
      have marked : " " ++ operator ++ " ?" = " " ++ operator ++ " " ++ "?" := by
        simp only [String.append_assoc]
        rfl
      rw [← compiled, marked]
      exact ⟨_, rfl, .value owns plain (boundInput values.head?.join)⟩

/-- A comparison that a trusted caller has compiled expands to what it is in a statement. -/
theorem compare_expandsTo {comparator : Comparator} (owns : OwnsMarks column.toList)
    (ownsLiteral : ∀ literal ∈ comparator.literal? values, OwnsMarks literal.toList)
    {result : Option Fragment}
    (compiled : (trusted maximumDepth).compare comparator ⟨column, []⟩ values = .ok result) :
    Option.Rel Fragment.ExpandsTo result (comparator.statement? column values) := by
  have single {operator : String} (compares : comparator.operator? = some operator)
      (compiled : ((trusted maximumDepth).compareSingle ⟨column, []⟩ operator values).map some =
        .ok result) :
      Option.Rel Fragment.ExpandsTo result (comparator.statement? column values) := by
    cases compared : (trusted maximumDepth).compareSingle ⟨column, []⟩ operator values with
    | error failure => simp [compared, Except.map] at compiled
    | ok fragment =>
        obtain ⟨statement, stated, expandsTo⟩ :=
          compareSingle_expandsTo compares owns ownsLiteral compared
        rw [compared] at compiled
        obtain rfl := Except.ok.inj compiled
        rw [stated]
        exact .some expandsTo
  cases comparator with
  | isIn =>
      obtain rfl := Except.ok.inj compiled
      have plain : ∀ character ∈ " IN ".toList, IsPlain character := by simp [IsPlain]
      exact .some (.list owns plain _)
  | notIn =>
      have plain : ∀ character ∈ " NOT IN ".toList, IsPlain character := by simp [IsPlain]
      change Option.Rel _ result (if (excludedValues values).isEmpty then none
        else some (Comparator.among column " NOT IN " (excludedValues values)))
      rw [compare] at compiled
      split at compiled
      · rename_i nothing
        obtain rfl := Except.ok.inj compiled
        rw [if_pos nothing]
        exact .none
      · rename_i something
        obtain rfl := Except.ok.inj compiled
        rw [if_neg something]
        exact .some (.list owns plain _)
  | null =>
      obtain rfl := Except.ok.inj compiled
      have plain : ∀ character ∈ " IS NULL".toList, IsPlain character := by simp [IsPlain]
      exact .some (.fixed owns plain)
  | notNull =>
      obtain rfl := Except.ok.inj compiled
      have plain : ∀ character ∈ " IS NOT NULL".toList, IsPlain character := by simp [IsPlain]
      exact .some (.fixed owns plain)
  | equal | notEqual | lessThan | lessThanEqual | moreThan | moreThanEqual | like | notLike =>
      exact single rfl compiled

end Compiler

namespace ConditionLeaf

/-- The texts that a leaf writes as a trusted caller gave them. -/
def givenTexts (leaf : ConditionLeaf) : List String :=
  match leaf.column, Compiler.comparatorOf leaf.comparator with
  | some column, .ok comparator => column :: (comparator.literal? leaf.values).toList
  | _, _ => []

/-- A leaf as it stands in the statement of a trusted caller, absent when it says nothing. -/
def statement? (leaf : ConditionLeaf) : Option Statement :=
  match leaf.column, Compiler.comparatorOf leaf.comparator with
  | some column, .ok comparator => comparator.statement? column leaf.values
  | _, _ => none

end ConditionLeaf

theorem Compiler.ownText_expandsTo {maximumDepth : Nat} {leaf : ConditionLeaf}
    (owns : ∀ text ∈ leaf.givenTexts, OwnsMarks text.toList)
    (compiles : (trusted maximumDepth).LeafCompiles leaf) :
    Option.Rel Fragment.ExpandsTo ((trusted maximumDepth).ownText leaf) leaf.statement? := by
  obtain ⟨column, comparator, values⟩ := leaf
  cases column with
  | none => exact .none
  | some column =>
      simp only [LeafCompiles, leafOf, Compiler.leaf] at compiles
      simp only [ConditionLeaf.givenTexts] at owns
      simp only [ConditionLeaf.statement?]
      cases found : comparatorOf comparator with
      | error failure => simp [found, Except.bind] at compiles
      | ok known =>
          rw [found] at compiles
          simp only [found, List.mem_cons, forall_eq_or_imp, Option.mem_toList] at owns
          exact compare_expandsTo owns.1 owns.2 compiles

/-! ## Symbols -/

namespace ConditionSymbol

/-- The statement of symbols: the texts of its atoms between connectives and parentheses, and
what they bind from left to right. -/
def statement (symbols : List (ConditionSymbol Statement)) : Statement :=
  ⟨(spell (fun atom => ⟨atom.text, []⟩) symbols).expression,
    (atoms symbols).flatMap Statement.binds⟩

/-- Connectives and parentheses are plain. -/
theorem isPlain_written {Atom : Type} (write : Atom → Fragment) {symbol : ConditionSymbol Atom}
    (noAtom : symbol.content? = none) :
    ∀ character ∈ (symbol.written write).expression.toList, IsPlain character := by
  cases symbol with
  | opening | closing | all | any => simp [written, IsPlain]
  | atom content => cases noAtom

theorem statement_atom (content : Statement) (rest : List (ConditionSymbol Statement)) :
    statement (.atom content :: rest) = content.append (statement rest) := rfl

variable {symbols : List (ConditionSymbol (Fragment × Statement))}

/-- Behind an operand, nothing goes on with its last placeholder. -/
theorem head?_spell {reader final : ConditionReader (Fragment × Statement)}
    (reached : reader.run symbols = some final) (satisfied : reader.expectsOperand = false) :
    (spell Prod.fst symbols).expression.toList.head? ≠ some 'n' := by
  cases symbols with
  | nil => simp [spell]
  | cons head tail =>
      obtain ⟨next, stepped, _⟩ := Option.bind_eq_some_iff.mp reached
      have expected := (ConditionReader.expectsOperand_of_step stepped).1
      rw [satisfied] at expected
      rw [toList_spell_cons]
      cases head with
      | opening | atom => cases expected
      | closing | all | any => simp [written]

/-- Symbols that can be read expand to the statement of their atoms. -/
theorem expands_spell :
    ∀ {reader final : ConditionReader (Fragment × Statement)}, reader.run symbols = some final →
      (∀ atom ∈ atoms symbols, atom.1.ExpandsTo atom.2) →
        Expands (spell Prod.fst symbols).expression.toList (spell Prod.fst symbols).parameters
          (statement (symbols.map (map Prod.snd))).text.toList
          (statement (symbols.map (map Prod.snd))).binds := by
  induction symbols with
  | nil => exact fun _ _ => Expands.nil
  | cons head tail inductionHypothesis =>
      intro reader final reached expandTo
      obtain ⟨next, stepped, continued⟩ := Option.bind_eq_some_iff.mp reached
      rw [atoms_cons] at expandTo
      have behind := inductionHypothesis continued fun atom member =>
        expandTo atom (List.mem_append_right _ member)
      have fixed (noAtom : head.content? = none) :=
        behind.plain (isPlain_written Prod.fst noAtom)
      cases head with
      | atom content =>
          have apart := head?_spell continued (ConditionReader.expectsOperand_of_step stepped).2
          have headExpands := expandTo content (List.mem_append_left _ List.mem_cons_self)
          rw [List.map_cons, map, statement_atom]
          simpa [spell, written, Fragment.followedBy, Statement.append] using
            headExpands apart behind
      | opening | closing | all | any =>
          simpa [spell, written, Fragment.followedBy, statement, map, atoms_cons, content?] using
            fixed rfl

end ConditionSymbol

/-! ## Clauses -/

namespace ClauseTree

/-- The statement of the two lists of a clause, absent when no leaf says anything. -/
def statement? (all any : List (ClauseTree ConditionLeaf)) : Option Statement :=
  (clauseSymbols (all.map (map ConditionLeaf.statement?))
    (any.map (map ConditionLeaf.statement?))).map ConditionSymbol.statement

/-- A clause binds what its leaves bind, from left to right. -/
theorem binds_statement? {all any : List (ClauseTree ConditionLeaf)} {statement : Statement}
    (stated : statement? all any = some statement) :
    statement.binds =
      ((group all any).leaves.filterMap ConditionLeaf.statement?).flatMap Statement.binds := by
  obtain ⟨symbols, present, rfl⟩ := Option.map_eq_some_iff.mp stated
  rw [ConditionSymbol.statement, atoms_of_leaves present]

end ClauseTree

namespace Compiler

open ConditionSymbol (spell spell_map)

variable {maximumDepth : Nat} {clause : Clause} {all any : List Condition}
  {result : Option Fragment}

/-- A leaf with what it is written as and what that expands to. -/
private def paired (maximumDepth : Nat) (leaf : ConditionLeaf) : Option (Fragment × Statement) :=
  ((trusted maximumDepth).ownText leaf).bind fun fragment => leaf.statement?.map (fragment, ·)

private theorem map_paired {leaf : ConditionLeaf}
    (expandsTo : Option.Rel Fragment.ExpandsTo ((trusted maximumDepth).ownText leaf)
      leaf.statement?) :
    (paired maximumDepth leaf).map Prod.fst = (trusted maximumDepth).ownText leaf ∧
      (paired maximumDepth leaf).map Prod.snd = leaf.statement? ∧
        ∀ atom ∈ paired maximumDepth leaf, atom.1.ExpandsTo atom.2 := by
  unfold paired
  generalize (trusted maximumDepth).ownText leaf = own at expandsTo ⊢
  generalize leaf.statement? = stated at expandsTo ⊢
  cases expandsTo with
  | none => simp
  | some expandsTo => simpa using expandsTo

/-- A clause that is compiled for a trusted caller expands to the statement of its leaves. -/
theorem clause_expand (compiled : (trusted maximumDepth).clause clause all any = .ok result)
    (owns : ∀ leaf ∈ (ClauseTree.ofConditions clause all any).leaves,
      ∀ text ∈ leaf.givenTexts, OwnsMarks text.toList) :
    result.map Fragment.expand =
      (ClauseTree.statement? (Condition.listSeenBy clause all)
        (Condition.listSeenBy clause any)).map Except.ok := by
  have pairs (leaf : ConditionLeaf)
      (member : leaf ∈ (ClauseTree.ofConditions clause all any).leaves) :=
    map_paired (ownText_expandsTo (owns leaf member) (clause_leaves compiled leaf member))
  rw [ClauseTree.statement?, clause_eq_spelled compiled,
    ClauseTree.clauseSymbols_of_leaves fun leaf member => (pairs leaf member).1,
    ClauseTree.clauseSymbols_of_leaves fun leaf member => (pairs leaf member).2.1]
  cases present : ClauseTree.clauseSymbols
      ((Condition.listSeenBy clause all).map (ClauseTree.map (paired maximumDepth)))
      ((Condition.listSeenBy clause any).map (ClauseTree.map (paired maximumDepth))) with
  | none => rfl
  | some symbols =>
      have expandTo : ∀ atom ∈ ConditionSymbol.atoms symbols, atom.1.ExpandsTo atom.2 := by
        intro atom member
        rw [ClauseTree.atoms_of_leaves present] at member
        obtain ⟨leaf, leafMember, made⟩ := List.mem_filterMap.mp member
        exact (pairs leaf leafMember).2.2 atom made
      obtain ⟨final, reached⟩ := ClauseTree.exists_run_of_clauseSymbols present
      have expanded := (ConditionSymbol.expands_spell reached expandTo).expand
      simp only [Option.map_some, spell_map]
      simpa using expanded

/-- Grouping columns of a trusted caller stay as they are. -/
theorem grouping_expand {columns : List (Option String)} {fragment : Fragment}
    (owns : ∀ column ∈ columns.filterMap id, OwnsMarks column.toList)
    (grouped : (trusted maximumDepth).grouping columns = some fragment) :
    fragment.expand = .ok ⟨fragment.expression, []⟩ := by
  have each : ∀ part ∈ (columns.filterMap id).map (trusted maximumDepth).columnReference,
      part.ExpandsTo ⟨part.expression, []⟩ := by
    intro part member
    obtain ⟨column, isColumn, rfl⟩ := List.mem_map.mp member
    intro template text parameters binds _ behind
    exact (owns column isColumn).expands behind
  unfold grouping at grouped
  cases parts : (columns.filterMap id).map (trusted maximumDepth).columnReference with
  | nil =>
      rw [parts] at grouped
      cases grouped
  | cons first rest =>
      rw [parts] at grouped each
      obtain rfl := Option.some.inj grouped
      exact (Fragment.ExpandsTo.foldl_append (each first List.mem_cons_self)
        fun part member => each part (List.mem_cons_of_mem first member)).expand

/-- The placeholders of an expression are the question marks that a lexer of statements sees
outside of quotes, exactly when nothing in quoted names disturbs them.  Clauses and grouping
columns of a trusted caller whose texts have all their marks in quotes, undisturbed, expand to
these texts as they were given, and bind what the leaves bind from left to right. -/
theorem placeholders_are_marks :
    (∀ expression : String,
      PlaceholderToken.positions expression = outsideMarks expression.toList ↔
        IsUndisturbed expression.toList) ∧
    (∀ text : List Char, HasPlainNames text →
      IsUndisturbed text ∧ QuoteState.strays text % 2 = 0) ∧
    (∀ (expression : String) (tokens : List SqlToken), SqlToken.IsSimple expression.toList →
      SqlToken.lex expression = some tokens →
        QuoteState.outside.after expression.toList = .outside ∧
          tokens.count .mark = (outsideMarks expression.toList).length) ∧
    (∀ (maximumDepth : Nat) (clause : Clause) (all any : List Condition) (fragment : Fragment),
      (∀ leaf ∈ (ClauseTree.ofConditions clause all any).leaves,
        ∀ text ∈ leaf.givenTexts, OwnsMarks text.toList) →
      (trusted maximumDepth).clause clause all any = .ok (some fragment) →
        ∃ statement, fragment.expand = .ok statement ∧ statement.binds = fragment.values ∧
          ClauseTree.statement? (Condition.listSeenBy clause all)
            (Condition.listSeenBy clause any) = some statement ∧
          statement.binds = ((ClauseTree.ofConditions clause all any).leaves.filterMap
            ConditionLeaf.statement?).flatMap Statement.binds) ∧
    ∀ (maximumDepth : Nat) (columns : List (Option String)) (fragment : Fragment),
      (∀ column ∈ columns.filterMap id, OwnsMarks column.toList) →
      (trusted maximumDepth).grouping columns = some fragment →
        fragment.expand = .ok ⟨fragment.expression, []⟩ := by
  refine ⟨PlaceholderToken.positions_eq_outsideMarks_iff,
    fun text plain => ⟨plain.isUndisturbed, plain.balanced⟩,
    fun expression tokens => SqlToken.lex_marks,
    fun maximumDepth clause all any fragment owns compiled => ?_,
    fun maximumDepth columns fragment => grouping_expand⟩
  have expanded := clause_expand compiled owns
  obtain ⟨statement, stated, isStatement⟩ := Option.map_eq_some_iff.mp expanded.symm
  have expands : fragment.expand = .ok statement := isStatement.symm
  exact ⟨statement, expands, Fragment.binds_of_expand expands, stated,
    ClauseTree.binds_statement? stated⟩

private def whyIsNull : List Condition :=
  [⟨some "\"why?\"", some "NULL", [], [], [], [], []⟩]

/-- A question mark in a quoted name is taken for a placeholder, so neither are the placeholders
the question marks outside of quotes, nor does every clause of such texts expand. -/
theorem not_placeholders_are_marks :
    (¬ ∀ expression : String, QuoteState.outside.after expression.toList = .outside →
      PlaceholderToken.positions expression = outsideMarks expression.toList) ∧
    ¬ ∀ (maximumDepth : Nat) (clause : Clause) (all any : List Condition) (fragment : Fragment),
      (∀ leaf ∈ (ClauseTree.ofConditions clause all any).leaves, ∀ text ∈ leaf.givenTexts,
        QuoteState.outside.after text.toList = .outside ∧ outsideMarks text.toList = []) →
      (trusted maximumDepth).clause clause all any = .ok (some fragment) →
        ∃ statement, fragment.expand = .ok statement := by
  constructor
  · intro same
    have found := same "\"why?\" = 1" (by decide)
    rw [PlaceholderToken.positions_eq] at found
    exact absurd found (by decide)
  · intro expand
    obtain ⟨statement, expanded⟩ := expand 0 .row whyIsNull [] ⟨"\"why?\" IS NULL", []⟩
      (by decide) rfl
    have counted : (PlaceholderToken.tokens "\"why?\" IS NULL").countP
        PlaceholderToken.isPlaceholder = 1 := by
      rw [← PlaceholderToken.length_positions, PlaceholderToken.positions_eq]
      rfl
    simp [Fragment.expand, counted] at expanded

private def songs : List Condition :=
  [⟨some "\"rock 'n' roll\" || '?'", some "NOT_EQUAL", [some "LITERAL:'why?'"], [], [], [], []⟩,
    ⟨none, none, [], [], [⟨some "title", some "IN", [some "1", some "a"], [], [], [], []⟩,
      ⟨some "length", some "LESS_THAN", [some "5"], [], [], [], []⟩], [], []⟩]

private def writtenSongs : Fragment :=
  ⟨"\"rock 'n' roll\" || '?' != 'why?' AND (title IN (?) OR length < ?)",
    [.list [.integer 1, .text "a"], .value (.integer 5)]⟩

/-- The question marks of a quoted name, of a column and of a literal are left alone. -/
theorem placeholders_are_marks_songs :
    PlaceholderToken.positions "\"who\" = 'why?' OR ?" =
      outsideMarks "\"who\" = 'why?' OR ?".toList ∧
    (SqlToken.lex "\"why?\" = ?" = some [.name "why?", .symbol "=", .mark] ∧
      [SqlToken.name "why?", .symbol "=", .mark].count .mark =
        (outsideMarks "\"why?\" = ?".toList).length) ∧
    ((trusted 1).clause .row songs [] = .ok (some writtenSongs) ∧
      writtenSongs.expand =
        .ok ⟨"\"rock 'n' roll\" || '?' != 'why?' AND (title IN (?, ?) OR length < ?)",
          [.integer 1, .text "a", .integer 5]⟩) ∧
    Fragment.expand ⟨"'?', title", []⟩ = .ok ⟨"'?', title", []⟩ := by
  obtain ⟨agree, undisturbed, seen, expand, group⟩ := placeholders_are_marks
  have lexed : SqlToken.lex "\"why?\" = ?" = some [.name "why?", .symbol "=", .mark] := by cbv
  have simple : SqlToken.IsSimple "\"why?\" = ?".toList := by
    simp [SqlToken.IsSimple, SqlToken.IsSimpleFrom, QuoteState.step, SqlToken.IsKept,
      SqlToken.BeginsComment]
  have compiled : (trusted 1).clause .row songs [] = .ok (some writtenSongs) := rfl
  have grouped : (trusted 1).grouping [some "'?'", none, some "title"] =
      some ⟨"'?', title", []⟩ := rfl
  refine ⟨(agree _).mpr (undisturbed _ (by decide)).1, ⟨lexed, (seen _ _ simple lexed).2⟩,
    ⟨compiled, ?_⟩, group 1 _ _ (by decide) grouped⟩
  obtain ⟨statement, expanded, _, stated, _⟩ := expand 1 .row songs [] _ (by decide) compiled
  rw [expanded]
  exact congrArg Except.ok (Option.some.inj (stated.symm.trans rfl))

end Compiler

end TableGraph
