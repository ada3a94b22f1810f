import TableGraph.Proofs.Selection.Untrusted

/-!
# Rendered statements of callers that are not trusted

The main statement, `untrusted_statements`, is that the statements that fetch and
count are written by the grammar of the shape of the arguments, so that no text of
the caller but the names of columns is in them, and these in quotes.
-/

namespace TableGraph

open Lexeme (Fits)
open TableSelection (Piece expandPieces)

/-! ## Written pieces -/

theorem TableSelection.expandPieces_append {first second : List Piece} {before behind : Statement}
    (firstExpands : expandPieces first = .ok before)
    (secondExpands : expandPieces second = .ok behind) :
    expandPieces (first ++ second) = .ok (before.append behind) := by
  induction first generalizing before with
  | nil =>
      simp only [expandPieces, Except.ok.injEq] at firstExpands
      simp [← firstExpands, secondExpands, Statement.empty, Statement.append]
  | cons head tail inductionHypothesis =>
      simp only [expandPieces] at firstExpands
      cases headExpands : head.expand with
      | error failure => simp [headExpands, Except.bind] at firstExpands
      | ok own =>
          cases tailExpands : expandPieces tail with
          | error failure => simp [headExpands, tailExpands, Except.bind, Except.map] at firstExpands
          | ok later =>
              simp only [headExpands, tailExpands, Except.bind, Except.map, Except.ok.injEq]
                at firstExpands
              simp only [List.cons_append, expandPieces, headExpands,
                inductionHypothesis tailExpands, Except.bind, Except.map, ← firstExpands,
                Statement.append, String.append_assoc, List.append_assoc]

/-- The pieces of a statement expand to some lexemes. -/
def Writes (pieces : List Piece) (lexemes : List Lexeme) : Prop :=
  ∃ binds, expandPieces pieces = .ok ⟨String.ofList (lexemes.flatMap Lexeme.characters), binds⟩

namespace Writes

theorem nil : Writes [] [] := ⟨[], rfl⟩

theorem append {first second : List Piece} {firstLexemes secondLexemes : List Lexeme}
    (firstWrites : Writes first firstLexemes) (secondWrites : Writes second secondLexemes) :
    Writes (first ++ second) (firstLexemes ++ secondLexemes) := by
  obtain ⟨firstBinds, firstExpands⟩ := firstWrites
  obtain ⟨secondBinds, secondExpands⟩ := secondWrites
  refine ⟨firstBinds ++ secondBinds, ?_⟩
  rw [TableSelection.expandPieces_append firstExpands secondExpands, List.flatMap_append,
    String.ofList_append]
  rfl

theorem text {written : String} {lexemes : List Lexeme}
    (same : written.toList = lexemes.flatMap Lexeme.characters) :
    Writes [.text written] lexemes := by
  refine ⟨[], ?_⟩
  simp [expandPieces, Piece.expand, Except.bind, Except.map, Statement.append, Statement.empty,
    ← same]

theorem fragment {slots : List Slot} (fits : Fits (slots.flatMap Slot.lexemes)) :
    Writes [.fragment (Slot.fragment slots)] (slots.flatMap Slot.lexemes) := by
  obtain ⟨behind, ends⟩ := fits
  refine ⟨slots.flatMap Slot.binds, ?_⟩
  simp [expandPieces, Piece.expand, Slot.expand_fragment ends, Except.bind, Except.map,
    Statement.append, Statement.empty, Slot.characters]

/-! ## Clauses -/

open SelectStatement (keywords conditionClause listClause pageClause)
open TableSelection (clausePieces joined)

theorem clause {keyword separator : String} {parenthesized : Bool} {words : List Keyword}
    (same : keyword.toList = (keywords words).flatMap Lexeme.characters) {slots : List Slot}
    (fits : Fits (slots.flatMap Slot.lexemes)) :
    Writes (clausePieces keyword separator parenthesized [Slot.fragment slots])
      (keywords words ++ slots.flatMap Slot.lexemes) := by
  have pieces :
      clausePieces keyword separator parenthesized [Slot.fragment slots] =
        [.text keyword] ++ [.fragment (Slot.fragment slots)] := by
    simp [clausePieces, joined]
  rw [pieces]
  exact (text same).append (fragment fits)

theorem conditionClause {keyword separator : String} {word : Keyword}
    (same : keyword.toList = (keywords [word]).flatMap Lexeme.characters)
    {symbols : Option (List (ConditionSymbol LeafComparison))}
    (fits : ∀ present, symbols = some present →
      Fits ((present.map (ConditionSymbol.map LeafComparison.test)).flatMap
        ConditionSymbol.lexemes)) :
    Writes
      (clausePieces keyword separator true
        (symbols.map fun symbols => Slot.fragment (symbols.flatMap ConditionSymbol.slots)).toList)
      (SelectStatement.conditionClause word
        (symbols.map (List.map (ConditionSymbol.map LeafComparison.test)))) := by
  cases symbols with
  | none => exact nil
  | some symbols =>
      have own := fits symbols rfl
      rw [← ConditionSymbol.lexemes_flatMap_slots] at own
      have written :
          Writes (clausePieces keyword separator true
              [Slot.fragment (symbols.flatMap ConditionSymbol.slots)]) _ :=
        clause same own
      rw [ConditionSymbol.lexemes_flatMap_slots] at written
      exact written

end Writes

/-! ## Listed parts -/

namespace Slot

/-- Slots of several parts with commas between them. -/
def separate (parts : List (List Slot)) : List Slot :=
  (parts.intersperse (Slot.run [.comma, .blank])).flatten

theorem separate_cons (first second : List Slot) (rest : List (List Slot)) :
    separate (first :: second :: rest) =
      first ++ (Slot.run [.comma, .blank] ++ separate (second :: rest)) := rfl

theorem lexemes_separate :
    ∀ parts : List (List Slot),
      (separate parts).flatMap lexemes = Lexeme.separate (parts.map (List.flatMap lexemes))
  | [] => rfl
  | [only] => by simp [separate, Lexeme.separate]
  | first :: second :: rest => by
      rw [separate_cons, List.flatMap_append, List.flatMap_append,
        lexemes_separate (second :: rest)]
      rfl

theorem append_fragment (first second : List Slot) :
    Fragment.append ", " (fragment first) (fragment second) =
      fragment (first ++ (Slot.run [.comma, .blank] ++ second)) := by
  rw [ConditionSymbol.fragment_append, ConditionSymbol.fragment_append]
  simp only [Fragment.append, Fragment.followedBy, String.append_assoc]
  rfl

theorem join?_fragment (first : List Slot) (rest : List (List Slot)) :
    Fragment.join? ", " ((first :: rest).map fragment) =
      some (fragment (separate (first :: rest))) := by
  simp only [List.map_cons, Fragment.join?, Option.some.injEq]
  induction rest generalizing first with
  | nil => simp [separate]
  | cons second rest inductionHypothesis =>
      rw [List.map_cons, List.foldl_cons, append_fragment, inductionHypothesis, separate_cons]
      cases rest with
      | nil => simp [separate]
      | cons third rest => simp only [separate_cons, List.append_assoc]

end Slot

namespace Writes

open TableSelection (clausePieces joined pagePieces)

theorem listed :
    ∀ {parts : List (List Slot)}, (∀ part ∈ parts, Fits (part.flatMap Slot.lexemes)) →
      Writes (joined ", " false (parts.map Slot.fragment))
        (Lexeme.separate (parts.map (List.flatMap Slot.lexemes)))
  | [], _ => nil
  | [only], fits => by
      simpa [joined, Lexeme.separate] using fragment (fits only List.mem_cons_self)
  | first :: second :: rest, fits => by
      have later := listed fun part member => fits part (List.mem_cons_of_mem first member)
      have comma : Writes [.text ", "] (Lexeme.run [.comma, .blank]) := text (by simp; rfl)
      have own := fragment (fits first List.mem_cons_self)
      exact own.append (comma.append later)

theorem listClause {keyword : String} {word : Keyword}
    (same : keyword.toList = (SelectStatement.keywords [word, .along]).flatMap Lexeme.characters)
    {parts : List (List Slot)} (fits : ∀ part ∈ parts, Fits (part.flatMap Slot.lexemes)) :
    Writes (clausePieces keyword ", " false (parts.map Slot.fragment))
      (SelectStatement.listClause word (parts.map (List.flatMap Slot.lexemes))) := by
  cases parts with
  | nil => exact nil
  | cons first rest => exact (text same).append (listed fits)

theorem pageClause (limit offset : Option Int64) :
    Writes (pagePieces limit offset) (SelectStatement.pageClause limit offset) := by
  have unlimited : (decimalText (-1)).toList = ['-', '1'] := rfl
  cases limit with
  | none =>
      cases offset with
      | none => exact nil
      | some offset =>
          refine text ?_
          simp [SelectStatement.pageClause, SelectStatement.keywords, Lexeme.run,
            Lexeme.characters, FixedLexeme.characters, Keyword.characters, unlimited]
  | some limit =>
      cases offset with
      | none =>
          refine text ?_
          simp [SelectStatement.pageClause, SelectStatement.keywords, Lexeme.run,
            Lexeme.characters, FixedLexeme.characters, Keyword.characters]
      | some offset =>
          refine text ?_
          simp [SelectStatement.pageClause, SelectStatement.keywords, Lexeme.run,
            Lexeme.characters, FixedLexeme.characters, Keyword.characters]

end Writes

/-! ## Calls -/

def OrderItem.slots : OrderItem → List Slot
  | .column name false => .column name :: Slot.run [.blank, .keyword .ascending]
  | .column name true => .column name :: Slot.run [.blank, .keyword .descending]
  | .random => Slot.run [.keyword .random, .opening, .closing]

theorem OrderItem.lexemes_slots (item : OrderItem) :
    item.slots.flatMap Slot.lexemes = item.lexemes := by
  cases item with
  | column name descending => cases descending <;> rfl
  | random => rfl

theorem OrderItem.fits (item : OrderItem) : Fits (item.slots.flatMap Slot.lexemes) := by
  cases item with
  | column name descending => cases descending <;> exact ⟨true, rfl⟩
  | random => exact ⟨false, rfl⟩

def OrderItem.call : OrderItem → Narrowing
  | .random => .orderRandom
  | .column name descending => .order (Slot.fragment (OrderItem.column name descending).slots)

theorem OrderItem.narrow_call (selection : TableSelection) (item : OrderItem) :
    selection.narrow item.call =
      { selection with orders := selection.orders ++ [Slot.fragment item.slots] } := by
  cases item <;> rfl

theorem OrderItem.foldl_call (items : List OrderItem) (selection : TableSelection) :
    (items.map OrderItem.call).foldl TableSelection.narrow selection =
      { selection with
        orders := selection.orders ++ items.map fun item => Slot.fragment item.slots } := by
  induction items generalizing selection with
  | nil => simp
  | cons head tail inductionHypothesis =>
      rw [List.map_cons, List.foldl_cons, inductionHypothesis, OrderItem.narrow_call]
      simp

namespace Compiler

variable {depth : Nat}

theorem orderCall?_untrusted (order : OrderBy) :
    (⟨false, depth⟩ : Compiler).orderCall? order = order.item?.map OrderItem.call := by
  obtain ⟨key, direction⟩ := order
  cases direction with
  | none => cases key <;> rfl
  | some direction => cases direction <;> cases key <;> rfl

theorem orderCalls_untrusted (order : List OrderBy) :
    (⟨false, depth⟩ : Compiler).orderCalls order =
      (order.filterMap OrderBy.item?).map OrderItem.call := by
  rw [orderCalls, List.map_filterMap]
  exact congrArg (order.filterMap ·) (funext orderCall?_untrusted)

/-- The grouping of an untrusted caller is made of slots. -/
theorem grouping_untrusted (columns : List (Option String)) :
    (⟨false, depth⟩ : Compiler).grouping columns =
      if (columns.filterMap id).isEmpty then none
      else some (Slot.fragment (Slot.separate ((columns.filterMap id).map fun column =>
        [.column column]))) := by
  cases present : columns.filterMap id with
  | nil =>
      rw [grouping, present]
      rfl
  | cons first rest =>
      have made :
          (first :: rest).map (⟨false, depth⟩ : Compiler).columnReference =
            ((first :: rest).map fun column => [Slot.column column]).map Slot.fragment := by
        rw [List.map_map]
        rfl
      rw [grouping, present, made]
      exact Slot.join?_fragment _ _

/-- The selection that the calls of an untrusted caller make of a table. -/
theorem foldl_argumentCalls {arguments : Arguments} {calls : List Narrowing}
    (compiled : (⟨false, depth⟩ : Compiler).argumentCalls arguments = .ok calls) (table : String) :
    ∃ filter having,
      (⟨false, depth⟩ : Compiler).clause .row arguments.conditions.rowAll
          arguments.conditions.rowAny = .ok filter ∧
        (⟨false, depth⟩ : Compiler).clause .group arguments.conditions.groupAll
          arguments.conditions.groupAny = .ok having ∧
        calls.foldl TableSelection.narrow (.ofTable table) =
          { table := table
            filters := filter.toList
            group := (⟨false, depth⟩ : Compiler).grouping arguments.conditions.groupColumns
            havings := having.toList
            orders := arguments.shape.order.map fun item => Slot.fragment item.slots
            limit := arguments.shape.limit
            offset := arguments.shape.offset
            shown := "" } := by
  simp only [argumentCalls, conditionCalls] at compiled
  cases filterCompiled : (⟨false, depth⟩ : Compiler).clause .row arguments.conditions.rowAll
      arguments.conditions.rowAny with
  | error failure => simp [filterCompiled, Except.bind, Except.map] at compiled
  | ok filter =>
      cases havingCompiled : (⟨false, depth⟩ : Compiler).clause .group
          arguments.conditions.groupAll arguments.conditions.groupAny with
      | error failure =>
          simp [filterCompiled, havingCompiled, Except.bind, Except.map] at compiled
      | ok having =>
          simp only [filterCompiled, havingCompiled, Except.bind, Except.map, Except.ok.injEq]
            at compiled
          refine ⟨filter, having, rfl, rfl, ?_⟩
          rw [← compiled, orderCalls_untrusted]
          simp only [List.foldl_append, OrderItem.foldl_call]
          cases filter <;> cases having <;>
            cases (⟨false, depth⟩ : Compiler).grouping arguments.conditions.groupColumns <;>
            cases present : arguments.pagination <;>
            simp [paginationCalls, Arguments.shape, TableSelection.ofTable, TableSelection.narrow,
              present]

end Compiler

/-! ## Statements -/

/-- A rendered statement has the text of some lexemes, which is cut into their
tokens. -/
def IsWrittenBy (rendered : Except StoreFailure Statement) (lexemes : List Lexeme) : Prop :=
  ∃ statement, rendered = .ok statement ∧
    statement.text = String.ofList (lexemes.flatMap Lexeme.characters) ∧
      SqlToken.lex statement.text = some (lexemes.flatMap Lexeme.tokens)

theorem IsWrittenBy.map_text {rendered : Except StoreFailure Statement} {lexemes : List Lexeme}
    (written : IsWrittenBy rendered lexemes) :
    rendered.map Statement.text = .ok (String.ofList (lexemes.flatMap Lexeme.characters)) := by
  obtain ⟨statement, ok, text, _⟩ := written
  rw [ok, ← text]
  rfl

theorem Writes.isWrittenBy {selection : TableSelection} {head : TableSelection.Head}
    {lexemes closing : List Lexeme} (writes : Writes (selection.pieces head) lexemes)
    (closes : (selection.closing head).toList = closing.flatMap Lexeme.characters)
    (fits : Fits (lexemes ++ closing)) :
    IsWrittenBy (selection.render head) (lexemes ++ closing) := by
  obtain ⟨binds, expands⟩ := writes
  obtain ⟨behind, ends⟩ := fits
  have written :
      String.ofList (lexemes.flatMap Lexeme.characters) ++ selection.closing head =
        String.ofList ((lexemes ++ closing).flatMap Lexeme.characters) := by
    rw [List.flatMap_append, String.ofList_append, ← closes, String.ofList_toList]
  refine ⟨⟨_, binds ++ []⟩, ?_, written, ?_⟩
  · rw [TableSelection.render, expands]
    rfl
  · exact (congrArg SqlToken.lex written).trans (SqlToken.lex_characters ends)

/-- The columns that some conditions test, from left to right. -/
def Condition.columns (clause : Clause) (conditions : List Condition) : List String :=
  (ClauseTree.listLeaves (Condition.listSeenBy clause conditions)).filterMap fun leaf =>
    leaf.comparison?.map LeafComparison.column

/-- The names that decide which rows or groups are selected, from left to right. -/
def Arguments.restrictingNames (arguments : Arguments) : List String :=
  Condition.columns .row arguments.conditions.rowAll ++
    Condition.columns .row arguments.conditions.rowAny ++
    arguments.conditions.groupColumns.filterMap id ++
    Condition.columns .group arguments.conditions.groupAll ++
    Condition.columns .group arguments.conditions.groupAny

/-- The names that order the rows, from left to right. -/
def Arguments.orderNames (arguments : Arguments) : List String :=
  (arguments.order.filterMap OrderBy.item?).filterMap OrderItem.column?

theorem Condition.tested_clauseSymbols (clause : Clause) (all any : List Condition) :
    SelectStatement.tested
        (ClauseTree.clauseSymbols (Condition.tests clause all) (Condition.tests clause any)) =
      Condition.columns clause all ++ Condition.columns clause any := by
  have columns :
      ∀ conditions : List Condition,
        ((ClauseTree.listLeaves (Condition.tests clause conditions)).filterMap id).map
            Test.column =
          Condition.columns clause conditions := by
    intro conditions
    simp only [Condition.columns, Condition.tests, Condition.comparisons,
      ClauseTree.listLeaves_eq_flatMap, List.map_map, List.flatMap_map, List.filterMap_flatMap,
      List.map_flatMap, Function.comp_apply, ClauseTree.map_map, ClauseTree.leaves_map,
      List.filterMap_map, List.map_filterMap]
    refine congrArg List.flatten (List.map_congr_left fun tree _ => ?_)
    refine congrArg (tree.leaves.filterMap ·) (funext fun leaf => ?_)
    cases leaf.comparison? <;> rfl
  rw [SelectStatement.tested, ClauseTree.presentAtoms_clauseSymbols, ClauseTree.leaves,
    List.filterMap_append, List.map_append, columns, columns]

theorem Arguments.names_restricting (arguments : Arguments) (table : String) :
    SelectStatement.tested (arguments.shape.statement table).rows ++
        (arguments.shape.statement table).columns ++
        SelectStatement.tested (arguments.shape.statement table).groups =
      arguments.restrictingNames := by
  have rows := Condition.tested_clauseSymbols .row arguments.conditions.rowAll
    arguments.conditions.rowAny
  have groups := Condition.tested_clauseSymbols .group arguments.conditions.groupAll
    arguments.conditions.groupAny
  simp only [RequestShape.statement, Arguments.shape, rows, groups, Arguments.restrictingNames,
    List.append_assoc]

namespace Compiler

variable {depth : Nat} {arguments : Arguments} {calls : List Narrowing}

/-- The filter of an untrusted caller is written as a clause of the statement. -/
theorem writes_condition {clause : Clause} {all any : List Condition} {result : Option Fragment}
    (compiled : (⟨false, depth⟩ : Compiler).clause clause all any = .ok result)
    {keyword : String} {word : Keyword}
    (same : keyword.toList = (SelectStatement.keywords [word]).flatMap Lexeme.characters) :
    Writes (TableSelection.clausePieces keyword " AND " true result.toList)
      (SelectStatement.conditionClause word
        (ClauseTree.clauseSymbols (Condition.tests clause all) (Condition.tests clause any))) := by
  rw [clause_untrusted compiled, Condition.clauseSymbols_tests]
  refine Writes.conditionClause same fun symbols present => ?_
  have tests := Condition.clauseSymbols_tests clause all any
  rw [present] at tests
  obtain ⟨formula, readAs⟩ := ClauseTree.readable_clauseSymbols tests
  exact ConditionFormula.fits_of_ofSymbols? readAs

theorem writes_grouping (columns : List (Option String)) :
    Writes (TableSelection.clausePieces " GROUP BY " ", " false
        ((⟨false, depth⟩ : Compiler).grouping columns).toList)
      (SelectStatement.listClause .group
        ((columns.filterMap id).map fun column => [.name column])) := by
  rw [grouping_untrusted]
  cases present : columns.filterMap id with
  | nil => exact Writes.nil
  | cons first rest =>
      have lexemes :
          (Slot.separate ((first :: rest).map fun column => [.column column])).flatMap
              Slot.lexemes =
            Lexeme.separate ((first :: rest).map fun column => [.name column]) := by
        rw [Slot.lexemes_separate, List.map_map]
        rfl
      have fits :
          Fits ((Slot.separate ((first :: rest).map fun column => [.column column])).flatMap
            Slot.lexemes) := by
        rw [lexemes]
        refine Lexeme.fits_separate fun part member => ?_
        obtain ⟨column, _, rfl⟩ := List.mem_map.mp member
        exact ⟨true, rfl⟩
      have keyword :
          " GROUP BY ".toList =
            (SelectStatement.keywords [.group, .along]).flatMap Lexeme.characters := by
        simp
        rfl
      have written :
          Writes (TableSelection.clausePieces " GROUP BY " ", " false
            [Slot.fragment (Slot.separate ((first :: rest).map fun column => [.column column]))]) _ :=
        Writes.clause keyword fits
      rw [lexemes] at written
      exact written

theorem writes_restricting
    (compiled : (⟨false, depth⟩ : Compiler).argumentCalls arguments = .ok calls) (table : String) :
    Writes (calls.foldl TableSelection.narrow (.ofTable table)).restrictingPieces
      (arguments.shape.statement table).restricting := by
  obtain ⟨filter, having, filterCompiled, havingCompiled, selection⟩ :=
    foldl_argumentCalls compiled table
  rw [selection, TableSelection.restrictingPieces, SelectStatement.restricting]
  have restrict :
      " WHERE ".toList = (SelectStatement.keywords [.restrict]).flatMap Lexeme.characters := by
    simp
    rfl
  have having :
      " HAVING ".toList = (SelectStatement.keywords [.having]).flatMap Lexeme.characters := by
    simp
    rfl
  have filters := writes_condition filterCompiled restrict
  exact (filters.append (writes_grouping _)).append (writes_condition havingCompiled having)

theorem writes_arranging
    (compiled : (⟨false, depth⟩ : Compiler).argumentCalls arguments = .ok calls) (table : String) :
    Writes (calls.foldl TableSelection.narrow (.ofTable table)).arrangingPieces
      (arguments.shape.statement table).arranging := by
  obtain ⟨filter, having, _, _, selection⟩ := foldl_argumentCalls compiled table
  rw [selection, TableSelection.arrangingPieces, SelectStatement.arranging]
  refine Writes.append ?_ (Writes.pageClause _ _)
  have lexemes :
      (arguments.shape.statement table).order.map OrderItem.lexemes =
        (arguments.shape.order.map OrderItem.slots).map (List.flatMap Slot.lexemes) := by
    rw [List.map_map]
    exact List.map_congr_left fun item _ => item.lexemes_slots.symm
  have slots :
      (arguments.shape.order.map fun item => Slot.fragment item.slots) =
        (arguments.shape.order.map OrderItem.slots).map Slot.fragment := by
    rw [List.map_map]
    rfl
  rw [lexemes, slots]
  refine Writes.listClause (by simp; rfl) fun part member => ?_
  obtain ⟨item, _, rfl⟩ := List.mem_map.mp member
  exact item.fits

theorem isGrouped_statement
    (compiled : (⟨false, depth⟩ : Compiler).argumentCalls arguments = .ok calls) (table : String) :
    (calls.foldl TableSelection.narrow (.ofTable table)).isGrouped =
      (arguments.shape.statement table).isGrouped := by
  obtain ⟨filter, having, _, havingCompiled, selection⟩ := foldl_argumentCalls compiled table
  have columns :
      ((⟨false, depth⟩ : Compiler).grouping arguments.conditions.groupColumns).isSome =
        !(arguments.conditions.groupColumns.filterMap id).isEmpty := by
    rw [grouping_untrusted]
    cases arguments.conditions.groupColumns.filterMap id <;> rfl
  have groups :
      (!having.toList.isEmpty) = (arguments.shape.statement table).groups.isSome := by
    have symbols := Condition.clauseSymbols_tests .group arguments.conditions.groupAll
      arguments.conditions.groupAny
    have statementGroups :
        (arguments.shape.statement table).groups = ClauseTree.clauseSymbols
          (Condition.tests .group arguments.conditions.groupAll)
          (Condition.tests .group arguments.conditions.groupAny) := rfl
    rw [statementGroups, symbols, clause_untrusted havingCompiled]
    cases ClauseTree.clauseSymbols
      (Condition.comparisons .group arguments.conditions.groupAll)
      (Condition.comparisons .group arguments.conditions.groupAny) <;> rfl
  rw [selection, TableSelection.isGrouped, SelectStatement.isGrouped, columns, groups]
  rfl

theorem table_narrowed
    (compiled : (⟨false, depth⟩ : Compiler).argumentCalls arguments = .ok calls) (table : String) :
    (calls.foldl TableSelection.narrow (.ofTable table)).table = table := by
  obtain ⟨filter, having, _, _, selection⟩ := foldl_argumentCalls compiled table
  rw [selection]

theorem isWrittenBy_fetching
    (compiled : (⟨false, depth⟩ : Compiler).argumentCalls arguments = .ok calls) (table : String) :
    IsWrittenBy ((calls.foldl TableSelection.narrow (.ofTable table)).render .rows)
      (arguments.shape.statement table).fetching := by
  have fits :=
    SelectStatement.fits_fetching (arguments.shape.isReadable_statement table)
  have restricting := writes_restricting compiled table
  have arranging := writes_arranging compiled table
  have sameTable := table_narrowed compiled table
  generalize calls.foldl TableSelection.narrow (.ofTable table) = selection at *
  have opening :
      Writes [.text (selection.opening .rows)] (arguments.shape.statement table).everything := by
    refine Writes.text ?_
    simp [TableSelection.opening, sameTable, SelectStatement.everything, RequestShape.statement,
      Lexeme.run, Lexeme.characters, FixedLexeme.characters, Keyword.characters]
  have writes : Writes (selection.pieces .rows) (arguments.shape.statement table).fetching :=
    (opening.append restricting).append arranging
  have closing : (selection.closing .rows).toList = [].flatMap Lexeme.characters := rfl
  simpa using writes.isWrittenBy closing (by simpa using fits)

/-! ## Counting -/

private theorem toList_counter :
    SelectStatement.counter.flatMap Lexeme.characters = "SELECT COUNT(*) FROM ".toList := by
  simp
  rfl

section

variable {selection : TableSelection} {statement : SelectStatement}

private theorem writes_countedGroups (sameTable : selection.table = statement.table)
    (grouped : selection.isGrouped = true) :
    Writes [.text (selection.opening (.count "*"))]
      (SelectStatement.counter ++ Lexeme.run [.opening] ++ statement.everything) := by
  refine Writes.text ?_
  simp [TableSelection.opening, sameTable, grouped, toList_counter, SelectStatement.everything,
    Lexeme.run, Lexeme.characters, FixedLexeme.characters, Keyword.characters]

private theorem writes_countedRows (sameTable : selection.table = statement.table)
    (ungrouped : selection.isGrouped = false) :
    Writes [.text (selection.opening (.count "*"))]
      (SelectStatement.counter ++ [.name statement.table]) := by
  refine Writes.text ?_
  simp [TableSelection.opening, sameTable, ungrouped, toList_counter, Lexeme.characters]

end

private theorem pieces_counting (selection : TableSelection) :
    selection.pieces (.count "*") =
      .text (selection.opening (.count "*")) :: selection.restrictingPieces := by
  simp [TableSelection.pieces]

theorem isWrittenBy_counting
    (compiled : (⟨false, depth⟩ : Compiler).argumentCalls arguments = .ok calls) (table : String) :
    IsWrittenBy ((calls.foldl TableSelection.narrow (.ofTable table)).render (.count "*"))
      (arguments.shape.statement table).counting := by
  have fits :=
    SelectStatement.fits_counting (arguments.shape.isReadable_statement table)
  have restricting := writes_restricting compiled table
  have sameTable : _ = (arguments.shape.statement table).table := table_narrowed compiled table
  have sameGrouped := isGrouped_statement compiled table
  generalize calls.foldl TableSelection.narrow (.ofTable table) = selection at *
  cases grouped : (arguments.shape.statement table).isGrouped with
  | true =>
      rw [grouped] at sameGrouped
      have closing :
          (selection.closing (.count "*")).toList =
            (Lexeme.run [.closing]).flatMap Lexeme.characters := by
        simp [TableSelection.closing, sameGrouped]
        rfl
      have writes := (writes_countedGroups sameTable sameGrouped).append restricting
      rw [List.singleton_append, ← pieces_counting] at writes
      rw [SelectStatement.counting, if_pos grouped] at fits ⊢
      exact writes.isWrittenBy closing fits
  | false =>
      rw [grouped] at sameGrouped
      have closing :
          (selection.closing (.count "*")).toList = [].flatMap Lexeme.characters := by
        simp [TableSelection.closing, sameGrouped]
      have writes := (writes_countedRows sameTable sameGrouped).append restricting
      rw [List.singleton_append, ← pieces_counting] at writes
      rw [SelectStatement.counting, if_neg (by simp [grouped])] at fits ⊢
      simpa using writes.isWrittenBy closing (by simpa using fits)

end Compiler

/-- The statements of an untrusted caller are written by the shape of the arguments.
Their conditions can be read by precedence, the only text of the caller in them are
the names of columns, each in quotes, and arguments of one shape make one text. -/
theorem untrusted_statements {depth : Nat} {arguments : Arguments} {calls : List Narrowing}
    (compiled : (⟨false, depth⟩ : Compiler).argumentCalls arguments = .ok calls)
    (table : String) :
    let selection := calls.foldl TableSelection.narrow (.ofTable table)
    let statement := arguments.shape.statement table
    IsWrittenBy (selection.render .rows) statement.fetching ∧
      IsWrittenBy (selection.render (.count "*")) statement.counting ∧
      statement.IsReadable ∧
      Lexeme.names statement.fetching =
        table :: (arguments.restrictingNames ++ arguments.orderNames) ∧
      Lexeme.names statement.counting = table :: arguments.restrictingNames ∧
      ∀ {other : Arguments} {otherDepth : Nat} {otherCalls : List Narrowing},
        (⟨false, otherDepth⟩ : Compiler).argumentCalls other = .ok otherCalls →
          other.shape = arguments.shape →
            ∀ head ∈ [TableSelection.Head.rows, .count "*"],
              ((otherCalls.foldl TableSelection.narrow (.ofTable table)).render head).map
                  Statement.text =
                (selection.render head).map Statement.text := by
  have fetching := Compiler.isWrittenBy_fetching compiled table
  have counting := Compiler.isWrittenBy_counting compiled table
  refine ⟨fetching, counting, arguments.shape.isReadable_statement table, ?_, ?_, ?_⟩
  · rw [SelectStatement.names_fetching, arguments.names_restricting table]
    rfl
  · rw [SelectStatement.names_counting, arguments.names_restricting table]
    rfl
  · intro other otherDepth otherCalls otherCompiled sameShape head headMember
    have otherFetching := Compiler.isWrittenBy_fetching otherCompiled table
    have otherCounting := Compiler.isWrittenBy_counting otherCompiled table
    rw [sameShape] at otherFetching otherCounting
    rcases List.mem_cons.mp headMember with rfl | isCount
    · rw [otherFetching.map_text, fetching.map_text]
    · rw [List.mem_singleton.mp isCount, otherCounting.map_text, counting.map_text]

/-- Arguments whose columns hold quotes, dots and question marks. -/
private def quotedArguments : Arguments where
  pagination := some ⟨some 10, none⟩
  order := [⟨some "d?name", some .descending⟩]
  conditions :=
    { Conditions.blank with
      rowAll := [⟨some "a\"b.c'?", some "IN", [none, none], [], [], [], []⟩] }

theorem untrusted_statements_quoted :
    ∃ calls, (Compiler.new false).argumentCalls quotedArguments = .ok calls ∧
      IsWrittenBy ((calls.foldl TableSelection.narrow (.ofTable "people")).render .rows)
        (quotedArguments.shape.statement "people").fetching ∧
      Lexeme.names (quotedArguments.shape.statement "people").fetching =
        ["people", "a\"b.c'?", "d?name"] := by
  have compiled :
      (⟨false, 32⟩ : Compiler).argumentCalls quotedArguments =
        .ok [.filter ⟨"?name IN (?)", [.identifier "a\"b.c'?", .list [.null, .null]]⟩,
          .order ⟨"?name DESC", [.identifier "d?name"]⟩, .limit (some 10) none] := rfl
  obtain ⟨fetching, _, _, names, _⟩ := untrusted_statements compiled "people"
  exact ⟨_, compiled, fetching, names⟩

end TableGraph
