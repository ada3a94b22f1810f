import TableGraph.Proofs.Condition.Conjunction
import TableGraph.Proofs.Condition.Cutting
import TableGraph.Proofs.Selection.Slotted

/-!
# Restrictions

The condition behind `WHERE` in the statement of a selection, with the values bound, is
read as the conjunction of its filters, each read by itself.  The main statement is
`TableSelection.IsSlotted.restriction?`.
-/

namespace TableGraph

open TableSelection (Piece Head clausePieces pagePieces joined)
open ConditionSymbol (EndsCondition)

/-! ## Operands -/

namespace SqlToken

theorem mem_of_mem_intersperse {token separator : SqlToken} {tokens : List SqlToken}
    (member : token ∈ tokens.intersperse separator) : token = separator ∨ token ∈ tokens := by
  by_cases same : token = separator
  · exact Or.inl same
  · exact Or.inr (Decidable.byContradiction fun absent => not_mem_intersperse same absent member)

theorem role_listTokens (values : List Value) :
    ∀ token ∈ Parameter.listTokens values, token.role = .content := by
  induction values using Parameter.listTokens.induct with
  | case1 => simp [Parameter.listTokens, role, upperCase]
  | case2 only => simp [Parameter.listTokens, role]
  | case3 first rest notEmpty inductionHypothesis =>
      simpa [Parameter.listTokens, role] using inductionHypothesis

theorem role_nameTokens (name : String) :
    ∀ token ∈ Lexeme.nameTokens name, token.role = .content := by
  intro token member
  rcases mem_of_mem_intersperse member with rfl | isPart
  · rfl
  · obtain ⟨part, _, rfl⟩ := List.mem_map.mp isPart
    rfl

end SqlToken

namespace IsOperand

theorem continued {operand plain : List SqlToken} (isOperand : IsOperand operand)
    (isPlain : ∀ token ∈ plain, token.role = .content ∨ token.role = .negation) :
    IsOperand (operand ++ plain) := by
  obtain ⟨begun, cuts⟩ := isOperand
  refine ⟨by simp [begun], fun rest => ?_⟩
  rw [List.append_assoc, cuts, ConditionSymbol.cutFrom_continued begun 0 rest isPlain]

theorem listed {operand elements : List SqlToken} (isOperand : IsOperand operand)
    (isPlain : ∀ token ∈ elements, token.role = .content) :
    IsOperand (operand ++ .symbol "(" :: elements ++ [.symbol ")"]) := by
  obtain ⟨begun, cuts⟩ := isOperand
  refine ⟨by simp, fun rest => ?_⟩
  rw [← ConditionSymbol.cutFrom_listed begun isPlain, ← cuts]
  simp

theorem name (name : String) : IsOperand (Lexeme.nameTokens name) := by
  have content := SqlToken.role_nameTokens name
  cases tokens : Lexeme.nameTokens name with
  | nil =>
      cases parts : Identifier.parts name.toList with
      | nil => exact absurd parts (Identifier.parts_ne_nil _)
      | cons first later => cases later <;> simp [Lexeme.nameTokens, parts] at tokens
  | cons head tail =>
      rw [tokens] at content
      refine ⟨by simp, fun rest => ?_⟩
      have first : ConditionSymbol.cutFrom [] 0 (head :: (tail ++ rest)) =
          ConditionSymbol.cutFrom [head] 0 (tail ++ rest) := by
        simp [ConditionSymbol.cutFrom, content head List.mem_cons_self]
      rw [List.cons_append, first, ConditionSymbol.cutFrom_continued (by simp) 0 rest
        fun token member => Or.inl (content token (List.mem_cons_of_mem head member))]
      rfl

end IsOperand

namespace LeafComparison

def boundTokens (comparison : LeafComparison) : List SqlToken :=
  comparison.slots.flatMap Slot.boundTokens

theorem boundTokens_eq (comparison : LeafComparison) :
    comparison.boundTokens =
      Lexeme.nameTokens comparison.column ++
        (comparison.comparator.pieces.flatMap FixedLexeme.tokens ++
          comparison.valueSlots.flatMap Slot.boundTokens) := by
  rw [boundTokens, slots, List.flatMap_cons, List.flatMap_append, Slot.run, List.flatMap_map]
  rfl

/-- A comparison is one operand, also when its values are in parentheses. -/
theorem isOperand (comparison : LeafComparison) : IsOperand comparison.boundTokens := by
  have isName := IsOperand.name comparison.column
  rw [boundTokens_eq]
  obtain ⟨column, comparator, values⟩ := comparison
  cases comparator with
  | isIn =>
      have isTest : IsOperand
          (Lexeme.nameTokens column ++ (FixedLexeme.keyword .among).tokens) :=
        isName.continued (by simp [FixedLexeme.tokens, Keyword.characters, SqlToken.role,
          SqlToken.upperCase])
      simpa [Comparator.pieces, FixedLexeme.tokens, valueSlots, Slot.boundTokens,
        Parameter.boundTokens] using
        isTest.listed (SqlToken.role_listTokens (listed ⟨column, .isIn, values⟩))
  | notIn =>
      have isTest : IsOperand
          (Lexeme.nameTokens column ++
            [FixedLexeme.keyword .negation, .keyword .among].flatMap FixedLexeme.tokens) :=
        isName.continued (by simp [FixedLexeme.tokens, Keyword.characters, SqlToken.role,
          SqlToken.upperCase])
      simpa [Comparator.pieces, FixedLexeme.tokens, valueSlots, Slot.boundTokens,
        Parameter.boundTokens] using
        isTest.listed (SqlToken.role_listTokens (listed ⟨column, .notIn, values⟩))
  | _ =>
      refine isName.continued ?_
      simp [Comparator.pieces, FixedLexeme.tokens, valueSlots, Slot.boundTokens,
        Parameter.boundTokens, SqlToken.role, SqlToken.upperCase, Keyword.characters,
        Comparison.characters]

end LeafComparison

/-! ## Filters -/

/-- The formula that the condition of a fragment is read as by itself. -/
def Fragment.condition? (fragment : Fragment) : Option (ConditionFormula (List SqlToken)) :=
  ConditionFormula.ofTokens? fragment.boundTokens

/-- The formula that the condition behind `WHERE` is read as, with the values of the
statement bound from left to right. -/
def Statement.restriction? (statement : Statement) :
    Option (ConditionFormula (List SqlToken)) :=
  (SqlToken.lex statement.text).bind fun tokens =>
    (Query.bind tokens (statement.binds.map Cell.ofValue)).bind fun bound =>
      ConditionFormula.ofTokens? (SqlToken.behindWhere bound)

/-- A condition with the symbols it is cut into and what they are read as. -/
structure ReadFilter where
  fragment : Fragment
  symbols : List (ConditionSymbol (List SqlToken))
  formula : ConditionFormula (List SqlToken)
  spelled : fragment.boundTokens = symbols.flatMap ConditionSymbol.tokens
  operands : ∀ content ∈ ConditionSymbol.atoms symbols, IsOperand content
  readAs : ConditionFormula.ofSymbols? symbols = some formula

theorem ReadFilter.condition? (filter : ReadFilter) :
    filter.fragment.condition? = some filter.formula := by
  have noMore : EndsCondition [] := by simp [EndsCondition]
  have read := ConditionFormula.ofTokens?_tokens filter.readAs filter.operands noMore
  rw [List.append_nil, ← filter.spelled] at read
  exact read

namespace ConditionSymbol

theorem atoms_conjoin {Atom : Type} (parts : List (List (ConditionSymbol Atom))) :
    atoms (conjoin parts) = parts.flatMap atoms := by
  have factors :
      ∀ rest : List (List (ConditionSymbol Atom)),
        atoms (rest.flatMap fun part => .all :: enclose part) = rest.flatMap atoms := by
    intro rest
    induction rest with
    | nil => rfl
    | cons head tail inductionHypothesis =>
        rw [List.flatMap_cons, List.flatMap_cons, atoms_append, inductionHypothesis, atoms_cons,
          atoms_enclose]
        rfl
  cases parts with
  | nil => rfl
  | cons first rest =>
      cases rest with
      | nil => simp [conjoin]
      | cons second others =>
          have conjoined :
              conjoin (first :: second :: others) =
                enclose first ++ (second :: others).flatMap fun part => .all :: enclose part := rfl
          rw [conjoined, atoms_append, atoms_enclose, factors]
          rfl

theorem boundTokens_slots (symbols : List (ConditionSymbol LeafComparison)) :
    (symbols.flatMap slots).flatMap Slot.boundTokens =
      (symbols.map (map LeafComparison.boundTokens)).flatMap tokens := by
  rw [List.flatMap_assoc, List.flatMap_map]
  refine congrArg List.flatten (List.map_congr_left fun symbol _ => ?_)
  cases symbol <;> rfl

theorem atoms_map {Atom Other : Type} (change : Atom → Other)
    (symbols : List (ConditionSymbol Atom)) :
    atoms (symbols.map (map change)) = (atoms symbols).map change := by
  induction symbols with
  | nil => rfl
  | cons head tail inductionHypothesis =>
      rw [List.map_cons, atoms_cons, atoms_cons, inductionHypothesis, List.map_append]
      cases head <;> rfl

theorem flatMap_tokens_enclose (symbols : List (ConditionSymbol (List SqlToken))) :
    (enclose symbols).flatMap tokens =
      .symbol "(" :: symbols.flatMap tokens ++ [.symbol ")"] := by
  simp [enclose, tokens]

end ConditionSymbol

namespace TableSelection

theorem boundTokens_joined (filters : List ReadFilter) :
    (joined " AND " true (filters.map ReadFilter.fragment)).flatMap Piece.boundTokens =
      (ConditionSymbol.conjoin (filters.map ReadFilter.symbols)).flatMap
        ConditionSymbol.tokens := by
  cases filters with
  | nil => rfl
  | cons first rest =>
      cases rest with
      | nil => simp [joined, Piece.boundTokens, ConditionSymbol.conjoin, first.spelled]
      | cons second others =>
          have enclosed :
              ∀ filter : ReadFilter,
                [Piece.text "(", .fragment filter.fragment, .text ")"].flatMap Piece.boundTokens =
                  (ConditionSymbol.enclose filter.symbols).flatMap ConditionSymbol.tokens := by
            intro filter
            have opening : SqlToken.ofText "(" = [.symbol "("] :=
              SqlToken.ofText_eq (Lexeme.run [.opening]) rfl ⟨false, rfl⟩
            have closing : SqlToken.ofText ")" = [.symbol ")"] :=
              SqlToken.ofText_eq (Lexeme.run [.closing]) rfl ⟨false, rfl⟩
            rw [ConditionSymbol.flatMap_tokens_enclose, ← filter.spelled]
            simp [Piece.boundTokens, opening, closing]
          have parts :
              joined " AND " true ((first :: second :: others).map ReadFilter.fragment) =
                (((first :: second :: others).map fun filter =>
                  [Piece.text "(", .fragment filter.fragment, .text ")"]).intersperse
                    [.text " AND "]).flatten := by
            have several : 1 < ((first :: second :: others).map ReadFilter.fragment).length := by
              simp
            rw [joined, List.map_map]
            simp only [several, decide_true, Bool.and_self, if_true]
            rfl
          have both : (Piece.text " AND ").boundTokens = ConditionSymbol.all.tokens := rfl
          rw [parts, ConditionSymbol.conjoin_map, List.map_cons, flatMap_separated, enclosed,
            List.flatMap_map, List.flatMap_append, List.flatMap_assoc]
          simp only [enclosed, both, List.flatMap_cons]

/-! ## Statements -/

/-- The pieces of a statement behind its filters. -/
def piecesBehindFilters (selection : TableSelection) (head : Head) : List Piece :=
  clausePieces " GROUP BY " ", " false selection.group.toList ++
    (clausePieces " HAVING " " AND " true selection.havings ++
      ((match head with
        | .rows => selection.arrangingPieces
        | .count _ => []) ++ [.text (selection.closing head)]))

theorem allPieces_eq (selection : TableSelection) (head : Head) :
    selection.allPieces head =
      .text (selection.opening head) ::
        (clausePieces " WHERE " " AND " true selection.filters ++
          selection.piecesBehindFilters head) := by
  cases head <;> simp [allPieces, pieces, restrictingPieces, piecesBehindFilters]

/-- A clause ends the condition before it. -/
theorem ends_clausePieces {keyword : String} {word : SqlToken} {words : List SqlToken}
    (written : SqlToken.ofText keyword = word :: words) (isClause : word.role = .clause)
    (separator : String) (parenthesized : Bool) (fragments : List Fragment) {rest : List Piece}
    (ends : fragments = [] → EndsCondition (rest.flatMap Piece.boundTokens)) :
    EndsCondition
      ((clausePieces keyword separator parenthesized fragments ++ rest).flatMap
        Piece.boundTokens) := by
  cases fragments with
  | nil => exact ends rfl
  | cons first others =>
      rw [clausePieces, if_neg (by simp), List.cons_append, List.flatMap_cons, Piece.boundTokens,
        written]
      simpa [EndsCondition] using isClause

theorem ends_pagePieces (limit offset : Option Int64) :
    EndsCondition ((pagePieces limit offset).flatMap Piece.boundTokens) := by
  have ends :
      ∀ {written : String} {lexemes : List Lexeme} {words : List SqlToken},
        Writes [.text written] lexemes → Lexeme.Follows lexemes →
          lexemes.flatMap Lexeme.tokens = .word "LIMIT" :: words →
            EndsCondition ([Piece.text written].flatMap Piece.boundTokens) := by
    intro written lexemes words writes follows begins
    rw [List.flatMap_singleton, Piece.boundTokens,
      SqlToken.ofText_eq _ (toList_of_writes writes) (follows false), begins]
    simp [EndsCondition, SqlToken.role, SqlToken.upperCase]
  have writes := Writes.pageClause limit offset
  have follows := SelectStatement.follows_pageClause limit offset
  cases limit with
  | none =>
      cases offset with
      | none => simp [pagePieces, EndsCondition]
      | some offset => exact ends writes follows rfl
  | some limit => cases offset <;> exact ends writes follows rfl

theorem ends_behindFilters (selection : TableSelection) {head : Head}
    (isUsual : head ∈ [Head.rows, .count "*"]) :
    EndsCondition ((selection.piecesBehindFilters head).flatMap Piece.boundTokens) := by
  refine ends_clausePieces rfl rfl _ _ _ fun noGroup => ?_
  refine ends_clausePieces rfl rfl _ _ _ fun noHavings => ?_
  have nothing : (Piece.text "").boundTokens = [] := rfl
  rcases List.mem_cons.mp isUsual with rfl | isCount
  · rw [arrangingPieces, List.append_assoc]
    refine ends_clausePieces rfl rfl _ _ _ fun noOrder => ?_
    rw [List.flatMap_append]
    simpa [closing, nothing] using ends_pagePieces selection.limit selection.offset
  · obtain rfl := List.mem_singleton.mp isCount
    have notGrouped : selection.isGrouped = false := by
      simpa [isGrouped, noHavings] using noGroup
    simp [closing, notGrouped, nothing, EndsCondition]

theorem isKeyword_opening (selection : TableSelection) {head : Head}
    (isUsual : head ∈ [Head.rows, .count "*"]) :
    ∀ token ∈ SqlToken.ofText (selection.opening head), token.isKeyword "WHERE" = false := by
  obtain ⟨pieces, same, fits, notWhere⟩ := selection.exists_opening head isUsual
  intro token member
  rw [SqlToken.ofText_eq _ same fits, List.flatMap_append] at member
  rcases List.mem_append.mp member with inPieces | inName
  · rw [Lexeme.run, List.flatMap_map] at inPieces
    obtain ⟨piece, pieceMember, isToken⟩ := List.mem_flatMap.mp inPieces
    have other : piece ≠ .keyword .restrict := fun isWhere => notWhere (isWhere ▸ pieceMember)
    cases piece with
    | keyword word =>
        obtain rfl := List.mem_singleton.mp isToken
        cases word with
        | restrict => exact absurd rfl other
        | _ => rfl
    | blank => cases isToken
    | opening | closing | comma | star | relation =>
        obtain rfl := List.mem_singleton.mp isToken
        rfl
  · rw [List.flatMap_singleton] at inName
    rcases SqlToken.mem_of_mem_intersperse inName with rfl | isPart
    · rfl
    · obtain ⟨part, _, rfl⟩ := List.mem_map.mp isPart
      rfl

/-- Behind `WHERE` stand the filters and the other clauses. -/
theorem behindWhere_boundTokens (selection : TableSelection) {head : Head}
    (isUsual : head ∈ [Head.rows, .count "*"]) (restricted : selection.filters ≠ []) :
    SqlToken.behindWhere (selection.boundTokens head) =
      (joined " AND " true selection.filters).flatMap Piece.boundTokens ++
        (selection.piecesBehindFilters head).flatMap Piece.boundTokens := by
  have others := selection.isKeyword_opening isUsual
  have keyword : (Piece.text " WHERE ").boundTokens = [.word "WHERE"] := rfl
  have isWhere : (SqlToken.word "WHERE").isKeyword "WHERE" = true := rfl
  rw [boundTokens, allPieces_eq, clausePieces, if_neg (by simpa using restricted),
    List.flatMap_cons, List.cons_append, List.flatMap_cons, keyword, List.flatMap_append,
    SqlToken.behindWhere, Piece.boundTokens,
    List.dropWhile_append_of_pos fun token member => by simp [others token member]]
  simp [isWhere]

/-- The condition behind `WHERE` is the conjunction of the filters. -/
theorem ofTokens?_boundTokens {selection : TableSelection} {head : Head}
    (isUsual : head ∈ [Head.rows, .count "*"]) (first : ReadFilter) (rest : List ReadFilter)
    (filters : selection.filters = (first :: rest).map ReadFilter.fragment) :
    ConditionFormula.ofTokens? (SqlToken.behindWhere (selection.boundTokens head)) =
      some ((rest.map ReadFilter.formula).foldl .both first.formula) := by
  have conjoined :
      ConditionFormula.ofSymbols?
          (ConditionSymbol.conjoin ((first :: rest).map ReadFilter.symbols)) =
        some ((rest.map ReadFilter.formula).foldl .both first.formula) :=
    ConditionFormula.ofSymbols?_conjoin fun filter _ => filter.readAs
  rw [behindWhere_boundTokens selection isUsual (by simp [filters]), filters, boundTokens_joined]
  refine ConditionFormula.ofTokens?_tokens ?_ ?_ (ends_behindFilters selection isUsual)
  · exact conjoined
  · intro content member
    rw [ConditionSymbol.atoms_conjoin, List.flatMap_map] at member
    obtain ⟨filter, _, isAtom⟩ := List.mem_flatMap.mp member
    exact filter.operands content isAtom

/-- A rendered selection whose filters can be read restricts its rows by their
conjunction. -/
theorem IsSlotted.restriction? {selection : TableSelection} (slotted : selection.IsSlotted)
    {head : Head} (isUsual : head ∈ [Head.rows, .count "*"]) (first : ReadFilter)
    (rest : List ReadFilter)
    (filters : selection.filters = (first :: rest).map ReadFilter.fragment)
    {statement : Statement} (rendered : selection.render head = .ok statement) :
    statement.restriction? =
      some ((rest.map ReadFilter.formula).foldl .both first.formula) := by
  obtain ⟨other, tokens, otherRendered, lexed, _, _, bound⟩ := slotted.binds isUsual
  obtain rfl : other = statement := Except.ok.inj (otherRendered.symm.trans rendered)
  rw [Statement.restriction?, lexed, Option.bind_some, bound, Option.bind_some,
    ofTokens?_boundTokens isUsual first rest filters]

end TableSelection

end TableGraph
