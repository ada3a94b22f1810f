import TableGraph.Proofs.Database.Lookup
import TableGraph.Proofs.Resolving.RelatedRows
import TableGraph.Proofs.Selection.RegularTokens

/-!
# Statements over named columns

A selection names columns of a kind when its fragments do.  Its statements are then queries
over the rows of its table whose clauses name such columns only (`NamesIn.isOver`).  What
an untrusted caller narrows names the columns that the caller has written
(`Compiler.namesIn_foldl`).
-/

namespace TableGraph

open TableSelection (Piece Head clausePieces pagePieces joined)
open Query (Opens Prolongs EndsList)

variable {named : String → Prop}

theorem Query.Prolongs.equality {condition : String × Value} (isNamed : PartsIn named condition.1) :
    Prolongs named (Fragment.equality condition).boundTokens := by
  rw [Fragment.boundTokens_equality, equalityTokens]
  exact (Prolongs.nameTokens isNamed).append
    ((Prolongs.symbol "=" (by decide)).append (Prolongs.literal _))

/-! ## Clauses -/

namespace TableSelection

theorem prolongs_separated {separator : String}
    (isSeparator : Prolongs named (SqlToken.ofText separator)) {parts : List (List Piece)}
    (prolong : ∀ part ∈ parts, Prolongs named (part.flatMap Piece.boundTokens)) :
    Prolongs named
      ((parts.intersperse [.text separator]).flatten.flatMap Piece.boundTokens) := by
  cases parts with
  | nil => exact Prolongs.nil
  | cons first rest =>
      obtain ⟨own, others⟩ := List.forall_mem_cons.mp prolong
      rw [flatMap_separated]
      refine own.append (Prolongs.flatten fun part member => ?_)
      obtain ⟨other, isOther, rfl⟩ := List.mem_map.mp member
      exact isSeparator.append (others other isOther)

/-- The conditions of a clause prolong what stands behind them. -/
theorem prolongs_conditions {keyword word : String} (written : SqlToken.ofText keyword = [.word word])
    (isKeyword : Prolongs named [.word word]) {fragments : List Fragment}
    (prolong : ∀ fragment ∈ fragments, Prolongs named fragment.boundTokens) :
    Prolongs named ((clausePieces keyword " AND " true fragments).flatMap Piece.boundTokens) := by
  rw [clausePieces]
  split
  · exact Prolongs.nil
  · rw [List.flatMap_cons, Piece.boundTokens, written]
    have both : Prolongs named (SqlToken.ofText " AND ") :=
      Prolongs.word "AND" (by decide +kernel) (by decide +kernel)
    refine isKeyword.append (prolongs_separated both fun part member => ?_)
    obtain ⟨fragment, isFragment, rfl⟩ := List.mem_map.mp member
    have own := prolong fragment isFragment
    split
    · have opening : SqlToken.ofText "(" = [.symbol "("] :=
        SqlToken.ofText_eq (Lexeme.run [.opening]) rfl ⟨false, rfl⟩
      have closing : SqlToken.ofText ")" = [.symbol ")"] :=
        SqlToken.ofText_eq (Lexeme.run [.closing]) rfl ⟨false, rfl⟩
      have enclosed : Prolongs named ([.symbol "("] ++ (fragment.boundTokens ++ [.symbol ")"])) :=
        (Prolongs.symbol "(" (by decide)).append (own.append (Prolongs.symbol ")" (by decide)))
      simpa [Piece.boundTokens, opening, closing] using enclosed
    · simpa [Piece.boundTokens] using own

theorem boundTokens_listed (fragments : List Fragment) :
    (joined ", " false fragments).flatMap Piece.boundTokens =
      Query.separated (fragments.map Fragment.boundTokens) := by
  have parts : joined ", " false fragments =
      ((fragments.map fun fragment => [Piece.fragment fragment]).intersperse
        [.text ", "]).flatten := rfl
  rw [parts]
  clear parts
  induction fragments with
  | nil => rfl
  | cons first rest inductionHypothesis =>
      cases rest with
      | nil => simp [Query.separated, Piece.boundTokens]
      | cons second others =>
          have separated :
              Query.separated ((first :: second :: others).map Fragment.boundTokens) =
                first.boundTokens ++ .symbol "," ::
                  Query.separated ((second :: others).map Fragment.boundTokens) := rfl
          have split :
              (((first :: second :: others).map fun fragment =>
                  [Piece.fragment fragment]).intersperse [.text ", "]).flatten =
                .fragment first :: .text ", " ::
                  (((second :: others).map fun fragment =>
                    [Piece.fragment fragment]).intersperse [.text ", "]).flatten := rfl
          have comma : SqlToken.ofText ", " = [.symbol ","] :=
            SqlToken.ofText_eq (Lexeme.run [.comma, .blank]) (by simp; rfl) ⟨false, rfl⟩
          rw [separated, ← inductionHypothesis, split, List.flatMap_cons, List.flatMap_cons,
            Piece.boundTokens, Piece.boundTokens, comma]
          rfl

theorem boundTokens_pagePieces (limit offset : Option Int64) :
    (pagePieces limit offset).flatMap Piece.boundTokens =
      (SelectStatement.pageClause limit offset).flatMap Lexeme.tokens := by
  have writes := Writes.pageClause limit offset
  have follows := SelectStatement.follows_pageClause limit offset false
  cases limit with
  | none =>
      cases offset with
      | none => rfl
      | some offset =>
          simpa [pagePieces, Piece.boundTokens] using
            SqlToken.ofText_eq _ (toList_of_writes writes) follows
  | some limit =>
      cases offset with
      | none =>
          simpa [pagePieces, Piece.boundTokens] using
            SqlToken.ofText_eq _ (toList_of_writes writes) follows
      | some offset =>
          simpa [pagePieces, Piece.boundTokens] using
            SqlToken.ofText_eq _ (toList_of_writes writes) follows

theorem prolongs_sign (value : Int) :
    Prolongs named (if value < 0 then [.symbol "-"] else []) := by
  split
  · exact Prolongs.symbol "-" (by decide)
  · exact Prolongs.nil

theorem prolongs_number (value : Int) : Prolongs named (Lexeme.number value).tokens :=
  (prolongs_sign value).append (Prolongs.literal _)

theorem prolongs_page (limit offset : Option Int64) :
    Prolongs named ((pagePieces limit offset).flatMap Piece.boundTokens) := by
  have keyword : Prolongs named [.word "LIMIT"] :=
    Prolongs.word "LIMIT" (by decide +kernel) (by decide +kernel)
  -- `OFFSET` may also be a name, but behind a number no operand begins.
  have skipping (value skipped : Int) :
      Prolongs named ((Lexeme.number value).tokens ++
        (.word "OFFSET" :: (Lexeme.number skipped).tokens)) := by
    intro rest opens
    have behind := (prolongs_number skipped rest opens).behindWord "OFFSET" (by decide +kernel)
    rw [Lexeme.tokens, List.append_assoc, List.append_assoc]
    exact prolongs_sign value _ (behind.literal _)
  rw [boundTokens_pagePieces]
  cases limit with
  | none =>
      cases offset with
      | none => exact Prolongs.nil
      | some offset =>
          simpa [SelectStatement.pageClause, SelectStatement.keywords, Lexeme.run, Lexeme.tokens,
            FixedLexeme.tokens, Keyword.characters] using
            keyword.append (skipping (-1) offset.toInt)
  | some limit =>
      cases offset with
      | none =>
          simpa [SelectStatement.pageClause, SelectStatement.keywords, Lexeme.run, Lexeme.tokens,
            FixedLexeme.tokens, Keyword.characters] using
            keyword.append (prolongs_number limit.toInt)
      | some offset =>
          simpa [SelectStatement.pageClause, SelectStatement.keywords, Lexeme.run, Lexeme.tokens,
            FixedLexeme.tokens, Keyword.characters] using
            keyword.append (skipping limit.toInt offset.toInt)

/-! ## Selections -/

/-- A selection whose fragments name columns of a kind. -/
structure NamesIn (named : String → Prop) (selection : TableSelection) : Prop where
  filters : ∀ fragment ∈ selection.filters, Prolongs named fragment.boundTokens
  group : ∀ fragment ∈ selection.group.toList, ∃ first names,
    fragment.boundTokens = Query.separated ((first :: names).map Lexeme.nameTokens) ∧
      ∀ name ∈ first :: names, PartsIn named name
  havings : ∀ fragment ∈ selection.havings, Prolongs named fragment.boundTokens
  orders : ∃ items : List OrderItem, selection.orders.map Fragment.boundTokens = items.map OrderItem.boundTokens ∧
    ∀ name ∈ items.filterMap OrderItem.column?, PartsIn named name

/-- A clause ends a list in front of it. -/
theorem endsList_clausePieces {keyword : String} {word : SqlToken} {words : List SqlToken}
    (written : SqlToken.ofText keyword = word :: words) (closes : word ∈ Query.closers)
    (separator : String) (parenthesized : Bool) (fragments : List Fragment) {rest : List Piece}
    (ends : fragments = [] → EndsList (rest.flatMap Piece.boundTokens)) :
    EndsList
      ((clausePieces keyword separator parenthesized fragments ++ rest).flatMap
        Piece.boundTokens) := by
  cases fragments with
  | nil => exact ends rfl
  | cons first others =>
      rw [clausePieces, if_neg (by simp), List.cons_append, List.flatMap_cons, Piece.boundTokens,
        written]
      exact fun token isHead => Option.some.inj isHead ▸ closes

theorem endsList_pagePieces (limit offset : Option Int64) {rest : List Piece}
    (ends : EndsList (rest.flatMap Piece.boundTokens)) :
    EndsList ((pagePieces limit offset ++ rest).flatMap Piece.boundTokens) := by
  rw [List.flatMap_append, boundTokens_pagePieces]
  have limited (later : List SqlToken) : EndsList (.word "LIMIT" :: later) :=
    fun token isHead => Option.some.inj isHead ▸ (by decide)
  cases limit with
  | none =>
      cases offset with
      | none => exact ends
      | some offset => exact limited _
  | some limit => cases offset <;> exact limited _

/-- The closing is nothing or a parenthesis. -/
theorem boundTokens_closing (selection : TableSelection) (head : Head) :
    [Piece.text (selection.closing head)].flatMap Piece.boundTokens ∈
      [[], [SqlToken.symbol ")"]] := by
  have nothing : SqlToken.ofText "" = [] := rfl
  have closing : SqlToken.ofText ")" = [.symbol ")"] :=
    SqlToken.ofText_eq (Lexeme.run [.closing]) rfl ⟨false, rfl⟩
  cases head with
  | rows => simp [TableSelection.closing, Piece.boundTokens, nothing]
  | count expression =>
      rw [TableSelection.closing]
      split
      · simp [Piece.boundTokens, closing]
      · simp [Piece.boundTokens, nothing]

theorem endsList_closing (selection : TableSelection) (head : Head) :
    EndsList ([Piece.text (selection.closing head)].flatMap Piece.boundTokens) := by
  have closing := selection.boundTokens_closing head
  simp only [List.mem_cons, List.not_mem_nil, or_false] at closing
  rcases closing with same | same
  · rw [same]
    exact fun token isHead => by cases isHead
  · rw [same]
    exact fun token isHead => Option.some.inj isHead ▸ (by decide)

theorem opens_closing (selection : TableSelection) (head : Head) :
    Opens named ([Piece.text (selection.closing head)].flatMap Piece.boundTokens) := by
  have closing := selection.boundTokens_closing head
  simp only [List.mem_cons, List.not_mem_nil, or_false] at closing
  rcases closing with same | same
  · rw [same]
    exact Opens.nil
  · rw [same]
    exact Opens.nil.symbol ")" (by decide)

theorem prolongs_item (item : OrderItem) (isNamed : ∀ name ∈ item.column?, PartsIn named name) :
    Prolongs named item.boundTokens := by
  intro rest opens
  cases item with
  | column name descending =>
      have direction : Query.Regular named
          (.word (if descending then "DESC" else "ASC") :: rest) := by
        cases descending <;> exact opens.behindWord _ (by decide +kernel)
      rw [OrderItem.boundTokens_column, List.append_assoc]
      exact direction.nameTokens (isNamed name rfl)
  | random =>
      have called := (opens.symbol ")" (by decide)).symbol "(" (by decide)
      exact ⟨called.behindWord "RANDOM" (by decide +kernel), by decide +kernel, Or.inr rfl⟩

namespace NamesIn

variable {selection : TableSelection}

theorem opens_orders (names : selection.NamesIn named) {rest : List SqlToken}
    (ends : EndsList rest) (opens : Opens named rest) :
    Opens named
      ((clausePieces " ORDER BY " ", " false selection.orders).flatMap Piece.boundTokens ++ rest) := by
  obtain ⟨items, same, areNamed⟩ := names.orders
  rw [clausePieces]
  cases items with
  | nil =>
      have nothing : selection.orders = [] := List.map_eq_nil_iff.mp same
      rw [nothing]
      exact opens
  | cons first items =>
      have something : selection.orders.isEmpty = false := by
        cases orders : selection.orders with
        | nil => simp [orders] at same
        | cons => rfl
      have keyword : SqlToken.ofText " ORDER BY " = [.word "ORDER", .word "BY"] := rfl
      rw [something, if_neg Bool.false_ne_true, List.flatMap_cons, Piece.boundTokens, keyword,
        boundTokens_listed, same, List.append_assoc]
      refine Opens.orderBy (Prolongs.separated (fun part member => ?_) rest opens) fun read =>
        Query.noNumbers_of_items ends first items read
      obtain ⟨item, isItem, rfl⟩ := List.mem_map.mp member
      exact prolongs_item item fun name isColumn =>
        areNamed name (List.mem_filterMap.mpr ⟨item, isItem, isColumn⟩)

theorem opens_group (names : selection.NamesIn named) {rest : List SqlToken}
    (ends : EndsList rest) (opens : Opens named rest) :
    Opens named
      ((clausePieces " GROUP BY " ", " false selection.group.toList).flatMap Piece.boundTokens ++
        rest) := by
  cases group : selection.group with
  | none => exact opens
  | some fragment =>
      obtain ⟨first, others, same, areNamed⟩ :=
        names.group fragment (Option.mem_toList.mpr group)
      have keyword : SqlToken.ofText " GROUP BY " = [.word "GROUP", .word "BY"] := rfl
      have written :
          (clausePieces " GROUP BY " ", " false (some fragment).toList).flatMap Piece.boundTokens =
            [.word "GROUP", .word "BY"] ++ fragment.boundTokens := by
        simp [clausePieces, joined, Piece.boundTokens, keyword]
      rw [written, same, List.append_assoc]
      refine Opens.groupBy (Prolongs.separated (fun part member => ?_) rest opens) fun read =>
        Query.noNumbers_of_names ends first others read
      obtain ⟨name, isName, rfl⟩ := List.mem_map.mp member
      exact Prolongs.nameTokens (areNamed name isName)

theorem opens_arranging (names : selection.NamesIn named) (head : Head) :
    Opens named
      (((match head with
        | .rows => selection.arrangingPieces
        | .count _ => []) ++ [.text (selection.closing head)]).flatMap Piece.boundTokens) := by
  have closing : Opens named _ := selection.opens_closing head
  cases head with
  | count expression => exact closing
  | rows =>
      have page := prolongs_page selection.limit selection.offset _ closing
      have ends := endsList_pagePieces selection.limit selection.offset
        (selection.endsList_closing .rows)
      rw [List.flatMap_append] at ends
      have ordered := names.opens_orders ends page
      simpa [arrangingPieces] using ordered

theorem opens_behindFilters (names : selection.NamesIn named) (head : Head) :
    Opens named ((selection.piecesBehindFilters head).flatMap Piece.boundTokens) := by
  have keyword : SqlToken.ofText " HAVING " = [.word "HAVING"] := rfl
  have having := prolongs_conditions keyword
    (Prolongs.word "HAVING" (by decide +kernel) (by decide +kernel)) names.havings _
    (names.opens_arranging head)
  rw [← List.flatMap_append] at having
  rw [piecesBehindFilters.eq_def, List.flatMap_append]
  refine names.opens_group (endsList_clausePieces rfl (by decide) _ _ _ fun _ => ?_) having
  cases head with
  | count expression => exact selection.endsList_closing (.count expression)
  | rows =>
      rw [arrangingPieces, List.append_assoc]
      exact endsList_clausePieces rfl (by decide) _ _ _ fun _ =>
        endsList_pagePieces _ _ (selection.endsList_closing .rows)

/-- The tokens behind the name of the table are regular. -/
theorem opens_behindTable (names : selection.NamesIn named) (head : Head) :
    Opens named
      ((clausePieces " WHERE " " AND " true selection.filters ++
        selection.piecesBehindFilters head).flatMap Piece.boundTokens) := by
  have keyword : SqlToken.ofText " WHERE " = [.word "WHERE"] := rfl
  rw [List.flatMap_append]
  exact prolongs_conditions keyword
    (Prolongs.word "WHERE" (by decide +kernel) (by decide +kernel)) names.filters _
    (names.opens_behindFilters head)

end NamesIn

/-! ## Statements -/

theorem ofText_counting (selection : TableSelection) :
    SqlToken.ofText (selection.opening (.count "*")) =
      Query.countTokens ++ (if selection.isGrouped then
        [.symbol "(", .word "SELECT", .symbol "*", .word "FROM"] else []) ++
        Lexeme.nameTokens selection.table := by
  let counted : List FixedLexeme :=
    [.keyword .select, .blank, .keyword .count, .opening, .star, .closing, .blank,
      .keyword .source, .blank]
  cases grouped : selection.isGrouped with
  | true =>
      let pieces : List FixedLexeme := counted ++
        [.opening, .keyword .select, .blank, .star, .blank, .keyword .source, .blank]
      have written :
          (selection.opening (.count "*")).toList =
            (Lexeme.run pieces ++ [Lexeme.name selection.table]).flatMap Lexeme.characters := by
        simp [opening, grouped, pieces, counted, Lexeme.run, Lexeme.characters,
          FixedLexeme.characters, Keyword.characters]
      rw [SqlToken.ofText_eq _ written ⟨true, rfl⟩]
      simp [pieces, counted, Query.countTokens, Lexeme.run, Lexeme.tokens, FixedLexeme.tokens,
        Keyword.characters]
  | false =>
      have written :
          (selection.opening (.count "*")).toList =
            (Lexeme.run counted ++ [Lexeme.name selection.table]).flatMap Lexeme.characters := by
        simp [opening, grouped, counted, Lexeme.run, Lexeme.characters, FixedLexeme.characters,
          Keyword.characters]
      rw [SqlToken.ofText_eq _ written ⟨true, rfl⟩]
      simp [counted, Query.countTokens, Lexeme.run, Lexeme.tokens, FixedLexeme.tokens,
        Keyword.characters]

/-- No token of a lexeme ends a statement. -/
theorem end_not_mem_tokens (lexeme : Lexeme) : SqlToken.symbol ";" ∉ lexeme.tokens := by
  cases lexeme with
  | fixed piece =>
      cases piece with
      | relation symbol => cases symbol <;> simp [Lexeme.tokens, FixedLexeme.tokens, Comparison.characters]
      | _ => simp [Lexeme.tokens, FixedLexeme.tokens]
  | mark => simp [Lexeme.tokens]
  | name text => exact SqlToken.not_mem_intersperse (by decide) (by simp)
  | number value => by_cases negative : value < 0 <;> simp [Lexeme.tokens, Lexeme.wholeLiteral, negative]

/-- A selection made of slots is read from its bound tokens. -/
theorem IsSlotted.ofStatement {selection : TableSelection} (slotted : selection.IsSlotted)
    {head : Head} (isUsual : head ∈ [Head.rows, .count "*"]) :
    ∃ statement, selection.render head = .ok statement ∧
      Query.ofStatement statement.text (statement.binds.map Cell.ofValue) =
        (Query.ofTokens? (selection.boundTokens head)).elim (.error "syntax error") .ok := by
  obtain ⟨lexemes, aligned, behind, ends⟩ := slotted.begins_allPieces isUsual
  refine ⟨_, (render_eq_expandPieces selection head).trans aligned.expands, ?_⟩
  have lexed := SqlToken.lex_characters ends
  have whole : ((lexemes.flatMap Lexeme.tokens).takeWhile fun token => token != .symbol ";") =
      lexemes.flatMap Lexeme.tokens := by
    refine List.takeWhile_eq_self_iff.mpr fun token member => bne_iff_ne.mpr fun isEnd => ?_
    obtain ⟨lexeme, _, isToken⟩ := List.mem_flatMap.mp member
    exact end_not_mem_tokens lexeme (isEnd ▸ isToken)
  rw [Query.ofStatement, lexed]
  simp only [whole, aligned.binds]
  rw [← boundTokens]
  cases Query.ofTokens? (selection.boundTokens head) <;> rfl

/-- The statements of a selection that names columns of a kind are queries whose clauses do
so, over the rows of the table. -/
theorem NamesIn.isOver {selection : TableSelection} (names : selection.NamesIn named)
    (undotted : IsUndotted selection.table) {head : Head} (isUsual : head ∈ [Head.rows, .count "*"])
    {query : Query} (read : Query.ofTokens? (selection.boundTokens head) = some query) :
    query.IsOver named selection.table := by
  have regular := (names.opens_behindTable head).toRegular
  rw [boundTokens, allPieces_eq, List.flatMap_cons, Piece.boundTokens] at read
  rcases List.mem_cons.mp isUsual with rfl | isCount
  · rw [ofText_opening, Lexeme.nameTokens_of_undotted undotted] at read
    exact Query.isOver_rows regular read
  · obtain rfl := List.mem_singleton.mp isCount
    rw [ofText_counting, Lexeme.nameTokens_of_undotted undotted] at read
    split at read
    · exact Query.isOver_rowCount regular (by simpa [Query.rowsTokens] using read)
    · exact Query.isOver_count regular (by simpa using read)

/-- A selection made of slots has a statement, and its clauses mention columns of the kind that
the selection names. -/
theorem IsSlotted.exists_statement {selection : TableSelection} (slotted : selection.IsSlotted)
    (names : selection.NamesIn named) (undotted : IsUndotted selection.table) {head : Head}
    (isUsual : head ∈ [Head.rows, .count "*"]) :
    ∃ statement, selection.render head = .ok statement ∧
      ∀ query, Query.ofStatement statement.text (statement.binds.map Cell.ofValue) = .ok query →
        query.IsOver named selection.table := by
  obtain ⟨statement, rendered, isRead⟩ := slotted.ofStatement isUsual
  refine ⟨statement, rendered, fun query read => ?_⟩
  rw [isRead] at read
  cases tokens : Query.ofTokens? (selection.boundTokens head) with
  | none =>
      rw [tokens] at read
      cases read
  | some found =>
      rw [tokens] at read
      obtain rfl := Except.ok.inj read
      exact names.isOver undotted isUsual tokens

end TableSelection

/-! ## Selections of untrusted callers -/

/-- The columns that a clause tests are those of its conditions. -/
theorem Condition.column_mem_columns {clause : Clause} {all any : List Condition}
    {symbols : List (ConditionSymbol LeafComparison)}
    (present : ClauseTree.clauseSymbols (Condition.comparisons clause all)
      (Condition.comparisons clause any) = some symbols)
    {comparison : LeafComparison} (member : comparison ∈ ConditionSymbol.atoms symbols) :
    comparison.column ∈ Condition.columns clause all ++ Condition.columns clause any := by
  have tests := Condition.clauseSymbols_tests clause all any
  rw [present] at tests
  have tested := Condition.tested_clauseSymbols clause all any
  rw [tests, Option.map_some, SelectStatement.tested, ClauseTree.presentAtoms, Option.map_some,
    Option.getD_some, ConditionSymbol.atoms_map, List.map_map] at tested
  rw [← tested]
  exact List.mem_map_of_mem (f := Test.column ∘ LeafComparison.test) member

theorem Slot.boundTokens_separate :
    ∀ parts : List (List Slot),
      (Slot.separate parts).flatMap Slot.boundTokens =
        Query.separated (parts.map (List.flatMap Slot.boundTokens))
  | [] => rfl
  | [only] => by simp [Slot.separate, Query.separated]
  | first :: second :: rest => by
      rw [Slot.separate_cons, List.flatMap_append, List.flatMap_append,
        boundTokens_separate (second :: rest)]
      rfl

namespace Compiler

variable {depth : Nat} {arguments : Arguments} {calls : List Narrowing}

theorem prolongs_clause {clause : Clause} {all any : List Condition} {fragment : Fragment}
    (compiled : (⟨false, depth⟩ : Compiler).clause clause all any = .ok (some fragment))
    (areNamed : ∀ name ∈ Condition.columns clause all ++ Condition.columns clause any,
      PartsIn named name) : Prolongs named fragment.boundTokens := by
  obtain ⟨symbols, present, rfl, fits⟩ := exists_clauseSlots compiled
  rw [Slot.boundTokens_fragment fits, ConditionSymbol.boundTokens_slots]
  exact Prolongs.condition symbols fun comparison member =>
    areNamed _ (Condition.column_mem_columns present member)

theorem boundTokens_grouping {columns : List (Option String)} {fragment : Fragment}
    (present : (⟨false, depth⟩ : Compiler).grouping columns = some fragment) :
    ∃ first names, columns.filterMap id = first :: names ∧
      fragment.boundTokens = Query.separated ((first :: names).map Lexeme.nameTokens) := by
  rw [grouping_untrusted] at present
  cases columns : columns.filterMap id with
  | nil =>
      rw [columns] at present
      cases present
  | cons first names =>
      rw [columns, List.isEmpty_cons, if_neg Bool.false_ne_true, Option.some.injEq] at present
      have fits : Lexeme.Fits ((Slot.separate ((first :: names).map fun column =>
          [Slot.column column])).flatMap Slot.lexemes) := by
        rw [Slot.lexemes_separate]
        refine Lexeme.fits_separate fun part member => ?_
        rw [List.map_map] at member
        obtain ⟨column, _, rfl⟩ := List.mem_map.mp member
        exact ⟨true, rfl⟩
      refine ⟨first, names, rfl, ?_⟩
      rw [← present, Slot.boundTokens_fragment fits, Slot.boundTokens_separate, List.map_map]
      refine congrArg Query.separated (List.map_congr_left fun column _ => ?_)
      exact List.append_nil _

/-- A selection that an untrusted caller narrows names columns that the caller names. -/
theorem namesIn_foldl (compiled : (⟨false, depth⟩ : Compiler).argumentCalls arguments = .ok calls)
    (areNamed : ∀ name ∈ arguments.restrictingNames ++ arguments.orderNames, PartsIn named name)
    (table : String) :
    (calls.foldl TableSelection.narrow (.ofTable table)).NamesIn named := by
  obtain ⟨filter, having, filterCompiled, havingCompiled, selection⟩ :=
    foldl_argumentCalls compiled table
  rw [selection]
  have among {name : String} (member : name ∈ arguments.restrictingNames) : PartsIn named name :=
    areNamed name (List.mem_append_left _ member)
  constructor
  · intro fragment member
    rw [Option.mem_toList.mp member] at filterCompiled
    exact prolongs_clause filterCompiled fun name isColumn => among (by
      simp only [Arguments.restrictingNames, List.mem_append] at isColumn ⊢
      tauto)
  · intro fragment member
    obtain ⟨first, names, columns, written⟩ := boundTokens_grouping (Option.mem_toList.mp member)
    refine ⟨first, names, written, fun name isColumn => among ?_⟩
    rw [← columns] at isColumn
    simp only [Arguments.restrictingNames, List.mem_append]
    tauto
  · intro fragment member
    rw [Option.mem_toList.mp member] at havingCompiled
    exact prolongs_clause havingCompiled fun name isColumn => among (by
      simp only [Arguments.restrictingNames, List.mem_append] at isColumn ⊢
      tauto)
  · refine ⟨arguments.shape.order, ?_, fun name isColumn =>
      areNamed name (List.mem_append_right _ isColumn)⟩
    rw [List.map_map]
    exact List.map_congr_left fun item _ => Slot.boundTokens_fragment item.fits

end Compiler

theorem TableSelection.NamesIn.behind {selection : TableSelection}
    (names : selection.NamesIn named) {conditions : List (String × Value)}
    (areNamed : ∀ condition ∈ conditions, PartsIn named condition.1) :
    (selection.behind (conditions.map Fragment.equality)).NamesIn named where
  filters fragment member := by
    rcases List.mem_append.mp member with own | behind
    · obtain ⟨condition, isCondition, rfl⟩ := List.mem_map.mp own
      exact Prolongs.equality (areNamed condition isCondition)
    · exact names.filters fragment behind
  group := names.group
  havings := names.havings
  orders := names.orders

end TableGraph
