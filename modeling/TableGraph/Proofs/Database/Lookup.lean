import TableGraph.Proofs.Database.VisitOrder
import TableGraph.Proofs.Json.SortedMap
import TableGraph.Proofs.Resolving.Counting
import TableGraph.Proofs.Resolving.RelatedRows

/-!
# Looking up rows

A relation asks for the rows where one column equals a value.  The statement is read as
this one comparison and evaluated on the rows of the table: `fetch_wherever` says which
rows are fetched, as long as the names hold no dots, which would make several names of
one.
-/

namespace TableGraph

/-! ## Comparing a column with a bound cell -/

/-- Whether a cell of a column equals a bound cell, as the engine compares them: both are
converted as the column prefers, texts are compared by the collation of the column, and null
equals nothing. -/
def ColumnDefinition.equals (column : ColumnDefinition) (cell bound : Cell) : Bool :=
  let (left, right) := Affinity.align (some column.affinity) cell bound
  !left.isNull && !right.isNull && column.collation.same left right

theorem Term.holds_equality (column : ColumnDefinition) (position : Nat) (bound : Cell)
    (row aggregates : Cells) :
    Term.holds row aggregates
        (.binary (.compare .equal) (.column position column.kind) (.literal bound)) =
      column.equals (row[position]?.getD .null) bound := by
  have evaluated :
      Term.evaluate row aggregates
          (.binary (.compare .equal) (.column position column.kind) (.literal bound)) =
        Term.evaluateBinary (.compare .equal) (some column.affinity) column.collation
          (row[position]?.getD .null) bound := by
    simp [Term.evaluate, Term.affinity?, Term.collation?, Term.collationOf, Affinity.ofComparison,
      ColumnDefinition.kind, List.findSome?]
  rw [Term.holds, evaluated, Term.evaluateBinary, ColumnDefinition.equals]
  obtain ⟨left, right⟩ :=
    Affinity.align (some column.affinity) (row[position]?.getD .null) bound
  simp only [Term.comparison, Term.compareCells, Collation.same]
  cases left.isNull <;> cases right.isNull <;>
    cases column.collation.order left right == .eq <;> rfl

/-! ## Names without dots -/

/-- Whether a name is quoted as one name. -/
def IsUndotted (name : String) : Prop := '.' ∉ name.toList

instance (name : String) : Decidable (IsUndotted name) :=
  inferInstanceAs (Decidable ('.' ∉ name.toList))

theorem Identifier.parts_eq_singleton {name : List Char} (undotted : '.' ∉ name) :
    parts name = [name] := by
  induction name with
  | nil => rfl
  | cons head tail inductionHypothesis =>
      obtain ⟨isOther, later⟩ := List.ne_and_not_mem_of_not_mem_cons undotted
      rw [parts, if_neg fun isDot => isOther isDot.symm, inductionHypothesis later]

theorem Lexeme.nameTokens_of_undotted {name : String} (undotted : IsUndotted name) :
    nameTokens name = [.name name] := by
  rw [nameTokens, Identifier.parts_eq_singleton undotted, List.map_singleton,
    List.intersperse_singleton, String.ofList_toList]

/-- A name that holds a dot is quoted as several names. -/
theorem Lexeme.nameTokens_of_dotted {name : String} (dotted : ¬ IsUndotted name) :
    ∃ first rest, nameTokens name = .name first :: .symbol "." :: rest := by
  cases parts : Identifier.parts name.toList with
  | nil => exact absurd parts (Identifier.parts_ne_nil _)
  | cons first later =>
      cases later with
      | nil =>
          have whole : name.toList = first := by
            rw [← Identifier.joinParts_parts name.toList, parts, Identifier.joinParts]
          have isPart : name.toList ∈ Identifier.parts name.toList := by
            rw [parts, whole]
            exact List.mem_singleton.mpr rfl
          exact absurd (Identifier.dot_not_mem_parts _ _ isPart) dotted
      | cons second others =>
          rw [nameTokens, parts]
          exact ⟨_, _, rfl⟩

/-! ## The statement -/

namespace TableSelection

/-- The rows of a table where a column equals a value, or the first of them. -/
def wherever (table : String) (condition : String × Value) (limited : Bool) : TableSelection :=
  { (ofTable table).behind [Fragment.equality condition] with
    limit := if limited then some 1 else none }

/-- The tokens of the page that is one row. -/
def limitTokens (limited : Bool) : List SqlToken :=
  if limited then [.word "LIMIT", .literal (.integer 1)] else []

theorem ofText_opening (selection : TableSelection) :
    SqlToken.ofText (selection.opening .rows) =
      [.word "SELECT", .symbol "*", .word "FROM"] ++ Lexeme.nameTokens selection.table := by
  let pieces : List FixedLexeme :=
    [.keyword .select, .blank, .star, .blank, .keyword .source, .blank]
  have written :
      (selection.opening .rows).toList =
        (Lexeme.run pieces ++ [Lexeme.name selection.table]).flatMap Lexeme.characters := by
    simp [opening, pieces, Lexeme.run, Lexeme.characters, FixedLexeme.characters,
      Keyword.characters]
  rw [SqlToken.ofText_eq _ written ⟨true, rfl⟩]
  simp [pieces, Lexeme.run, Lexeme.tokens, FixedLexeme.tokens, Keyword.characters]

theorem boundTokens_wherever (table : String) (condition : String × Value) (limited : Bool) :
    (wherever table condition limited).boundTokens .rows =
      [.word "SELECT", .symbol "*", .word "FROM"] ++ Lexeme.nameTokens table ++
        (.word "WHERE" :: equalityTokens condition) ++ limitTokens limited := by
  have page :
      (pagePieces (if limited then some 1 else none) none).flatMap Piece.boundTokens =
        limitTokens limited := by
    cases limited with
    | false => rfl
    | true => cbv
  have filters : (wherever table condition limited).filters = [Fragment.equality condition] := rfl
  have keyword : SqlToken.ofText " WHERE " = [.word "WHERE"] := rfl
  have nothing : SqlToken.ofText "" = [] := rfl
  rw [boundTokens, allPieces_eq, List.flatMap_cons, Piece.boundTokens, ofText_opening,
    List.flatMap_append, clausePieces, filters, if_neg (by simp), List.flatMap_cons,
    Piece.boundTokens, keyword, piecesBehindFilters]
  simp [clausePieces, wherever, ofTable, behind, arrangingPieces, Piece.boundTokens, closing, page,
    joined, Fragment.boundTokens_equality, nothing]

theorem isSlotted_wherever (table : String) (condition : String × Value) (limited : Bool) :
    (wherever table condition limited).IsSlotted where
  filters := by
    intro fragment member
    obtain rfl := List.mem_singleton.mp member
    exact Fragment.isSlotted_equality condition
  group := fun _ member => absurd member List.not_mem_nil
  havings := fun _ member => absurd member List.not_mem_nil
  orders := fun _ member => absurd member List.not_mem_nil

end TableSelection

/-! ## Reading the statement -/

/-- The clauses that select the rows where a column equals a bound cell, or the first of
them. -/
def SelectClauses.equality (table column : String) (bound : Cell) (limited : Bool) :
    SelectClauses where
  table := table
  filter := some (.binary (.compare .equal) (.column none column) (.literal bound))
  groups := []
  having := none
  orders := []
  limit := if limited then some (.literal (.integer 1)) else none
  offset := none

namespace Query

/-- Binding keeps every token but the marks. -/
theorem mem_of_bind {tokens bound : List SqlToken} {cells : List Cell} {token : SqlToken}
    (binds : bind tokens cells = some bound) (member : token ∈ tokens) (other : token ≠ .mark) :
    token ∈ bound := by
  induction tokens generalizing cells bound with
  | nil => cases member
  | cons head tail inductionHypothesis =>
      by_cases isMark : head = .mark
      · subst isMark
        cases cells with
        | nil => cases binds
        | cons cell rest =>
            obtain ⟨later, tailBinds, rfl⟩ := Option.map_eq_some_iff.mp binds
            have behind := (List.mem_cons.mp member).resolve_left other
            exact List.mem_cons_of_mem _ (inductionHypothesis tailBinds behind)
      · rw [bind_cons isMark] at binds
        obtain ⟨later, tailBinds, rfl⟩ := Option.map_eq_some_iff.mp binds
        rcases List.mem_cons.mp member with rfl | behind
        · exact List.mem_cons_self
        · exact List.mem_cons_of_mem _ (inductionHypothesis tailBinds behind)

/-- A statement is read from its bound tokens when it is the only one of its text. -/
theorem ofStatement_of_bind {text : String} {cells : List Cell} {tokens bound : List SqlToken}
    (lexed : SqlToken.lex text = some tokens) (binds : bind tokens cells = some bound)
    (single : SqlToken.symbol ";" ∉ bound) :
    ofStatement text cells = (ofTokens? bound).elim (.error "syntax error") .ok := by
  have whole : (tokens.takeWhile fun token => token != .symbol ";") = tokens := by
    refine List.takeWhile_eq_self_iff.mpr fun token member => bne_iff_ne.mpr fun isEnd => ?_
    exact single (mem_of_bind binds (isEnd ▸ member) (by decide))
  rw [ofStatement, lexed]
  simp only [whole, binds]
  cases ofTokens? bound <;> rfl

theorem ofTokens?_equality (table column : String) (bound : Cell) (limited : Bool) :
    ofTokens? ([.word "SELECT", .symbol "*", .word "FROM", .name table, .word "WHERE",
        .name column, .symbol "=", .literal bound] ++ TableSelection.limitTokens limited) =
      some (.rows (.equality table column bound limited)) := by
  cases limited with
  | false => rfl
  | true => rfl

/-- A table behind a dot is left over. -/
theorem ofTokens?_dotted (first : String) (rest : List SqlToken) :
    ofTokens? ([.word "SELECT", .symbol "*", .word "FROM", .name first, .symbol "."] ++ rest) =
      none :=
  rfl

end Query

/-! ## Evaluating the statement -/

/-- The rows of a table where a column equals a bound cell. -/
def StoredTable.equals (table : StoredTable) (column : String) (bound : Cell) (row : StoredRow) :
    Bool :=
  (table.definition.position? column).any fun position =>
    (table.definition.columns[position]?).any fun definition =>
      definition.equals (row.visible[position]?.getD .null) bound

/-- A row as it is fetched from a table under some name of the table. -/
def StoredTable.fetched (table : StoredTable) (name : String) (row : StoredRow) : Row :=
  .ofValues name ((table.definition.columns.map ColumnDefinition.name).zip
    ((row.visible.take table.definition.columns.length).map Cell.toValue))

namespace Database

/-- All of some rows, or only the first. -/
def firstOf {α : Type} (limited : Bool) (rows : List α) : List α :=
  if limited then rows.take 1 else rows

theorem firstOf_map {α β : Type} (change : α → β) (limited : Bool) (rows : List α) :
    firstOf limited (rows.map change) = (firstOf limited rows).map change := by
  cases limited with
  | false => rfl
  | true => exact List.map_take.symm

theorem arrange_nil (rows : List SelectedRow) : arrange [] rows = rows :=
  List.mergeSort_of_pairwise (List.pairwise_of_forall fun _ _ => rfl)

theorem pageNumber_limit (scope : Scope) (limited : Bool) :
    pageNumber scope (if limited then some (.literal (.integer 1)) else none) =
      .ok (if limited then some 1 else none) := by
  cases limited with
  | false => rfl
  | true => rfl

theorem cut_limit {α : Type} (limited : Bool) (rows : List α) :
    cut (if limited then some 1 else none) none rows = firstOf limited rows := by
  cases limited with
  | false => rfl
  | true => rfl

variable {database : Database} {stored : StoredTable} {table column : String} {position : Nat}
  {definition : ColumnDefinition}

theorem column?_scope (known : stored.definition.position? column = some position)
    (isColumn : stored.definition.columns[position]? = some definition) :
    stored.definition.scope.column? column = some (.column position definition.kind) := by
  have same : (stored.definition.scope.columns.findIdx? fun entry =>
      SqlToken.sameName entry.1 column) = some position := by
    rw [TableDefinition.scope, List.findIdx?_map]
    exact known
  rw [Scope.column?, same]
  simp [TableDefinition.scope, isColumn]

theorem resolveClauses_equality (table : String)
    (known : stored.definition.position? column = some position)
    (isColumn : stored.definition.columns[position]? = some definition) (bound : Cell)
    (limited : Bool) :
    resolveClauses stored.definition.scope (.equality table column bound limited) none =
      .ok ⟨some (.binary (.compare .equal) (.column position definition.kind) (.literal bound)),
        [], none, [], none, [], false⟩ := by
  simp only [resolveClauses, resolveOptional, SelectClauses.equality, Term.resolve,
    column?_scope known isColumn]
  rfl

theorem select_equality (found : database.table? table = some stored)
    (known : stored.definition.position? column = some position)
    (isColumn : stored.definition.columns[position]? = some definition) (bound : Cell)
    (limited : Bool) :
    ∃ visited : List StoredRow, visited.Perm stored.rows ∧
      database.select (.equality table column bound limited) none =
        .ok ((firstOf limited (visited.filter (stored.equals column bound))).map fun row =>
          row.visible.take stored.definition.columns.length) := by
  let clauses := SelectClauses.equality table column bound limited
  have source : database.source? clauses.table =
      some (stored.definition.scope, stored.rows.map StoredRow.visible) := by
    rw [source?, show database.table? clauses.table = some stored from found]
  have resolved := resolveClauses_equality table known isColumn bound limited
  have limit : pageNumber stored.definition.scope clauses.limit = _ :=
    pageNumber_limit stored.definition.scope limited
  have offset : pageNumber stored.definition.scope clauses.offset = .ok none := rfl
  have width : stored.definition.scope.columns.length = stored.definition.columns.length :=
    List.length_map _
  have keeps : stored.equals column bound =
      fun row => definition.equals (row.visible[position]?.getD .null) bound := by
    funext row
    simp [StoredTable.equals, known, isColumn]
  obtain ⟨visited, perm, visits⟩ :=
    exists_visited (show database.table? clauses.table = some stored from found) none
  refine ⟨visited, perm, ?_⟩
  rw [select, source]
  simp only [clauses] at visits
  simp only [resolved, clauses, limit, offset, visits, bind, Except.bind, pure, Except.pure,
    formGroups]
  simp [cut_limit, arrange_nil, passes, Term.holds_equality, width, keeps,
    List.filter_map, firstOf_map, Function.comp_def, project]

/-- What fetching a rendered selection comes down to. -/
theorem fetch_of_render {selection : TableSelection} {statement : Statement}
    (rendered : selection.render .rows = .ok statement) :
    (datastore.fetch selection database).1.1 =
      (database.fetchRows selection.table statement).mapError .engine := by
  have fetched :
      (datastore.fetch selection database).1 =
        runSelection selection .rows (database.fetchRows selection.table) := rfl
  rw [fetched, runSelection, TableSelection.execute, rendered]
  cases ran : database.fetchRows selection.table statement <;> simp only [ran] <;> rfl

/-- The query of a look-up is read from its tokens. -/
theorem exists_statement_wherever (table : String) (condition : String × Value) (limited : Bool) :
    ∃ statement,
      (TableSelection.wherever table condition limited).render .rows = .ok statement ∧
        Query.ofStatement statement.text (statement.binds.map Cell.ofValue) =
          (Query.ofTokens?
            ((TableSelection.wherever table condition limited).boundTokens .rows)).elim
            (.error "syntax error") .ok := by
  let selection := TableSelection.wherever table condition limited
  obtain ⟨statement, tokens, rendered, lexed, _, _, bound⟩ :=
    (TableSelection.isSlotted_wherever table condition limited).binds List.mem_cons_self
  have single : SqlToken.symbol ";" ∉ selection.boundTokens .rows := by
    have unnamed : ∀ name, SqlToken.symbol ";" ∉ Lexeme.nameTokens name := fun name =>
      SqlToken.not_mem_intersperse (by decide) (by simp)
    rw [TableSelection.boundTokens_wherever]
    cases limited <;>
      simp [equalityTokens, TableSelection.limitTokens, unnamed]
  exact ⟨statement, rendered, Query.ofStatement_of_bind lexed bound single⟩

/-- The rows where a column equals a value are fetched in the order in which they are found,
or only the first of them. -/
theorem fetch_wherever (found : database.table? table = some stored)
    (undottedTable : IsUndotted table) (undottedColumn : IsUndotted column)
    (known : (stored.definition.position? column).isSome = true) (value : Value) (limited : Bool) :
    ∃ visited : List StoredRow, visited.Perm stored.rows ∧
      (datastore.fetch (.wherever table (column, value) limited) database).1.1 =
        .ok ((firstOf limited (visited.filter (stored.equals column (Cell.ofValue value)))).map
          (stored.fetched table)) := by
  obtain ⟨position, isPosition⟩ := Option.isSome_iff_exists.mp known
  have inside : position < stored.definition.columns.length :=
    (List.findIdx?_eq_some_iff_getElem.mp isPosition).1
  obtain ⟨statement, rendered, read⟩ := exists_statement_wherever table (column, value) limited
  have names : database.columnNames table =
      stored.definition.columns.map ColumnDefinition.name := by
    rw [columnNames, source?, found]
    simp [TableDefinition.scope]
  obtain ⟨visited, perm, selected⟩ := select_equality found isPosition
    (List.getElem?_eq_getElem inside) (Cell.ofValue value) limited
  have tokens : (TableSelection.wherever table (column, value) limited).boundTokens .rows =
      [.word "SELECT", .symbol "*", .word "FROM", .name table, .word "WHERE", .name column,
        .symbol "=", .literal (Cell.ofValue value)] ++ TableSelection.limitTokens limited := by
    rw [TableSelection.boundTokens_wherever, equalityTokens,
      Lexeme.nameTokens_of_undotted undottedTable, Lexeme.nameTokens_of_undotted undottedColumn]
    rfl
  have queried : database.queryRows (.rows (.equality table column (Cell.ofValue value) limited)) =
      .ok (stored.definition.columns.map ColumnDefinition.name,
        (firstOf limited (visited.filter (stored.equals column (Cell.ofValue value)))).map
          fun row => row.visible.take stored.definition.columns.length) := by
    simp only [queryRows, selected]
    rw [show (SelectClauses.equality table column (Cell.ofValue value) limited).table = table from
      rfl, names]
    rfl
  rw [tokens, Query.ofTokens?_equality, Option.elim_some] at read
  refine ⟨visited, perm, ?_⟩
  rw [fetch_of_render rendered, fetchRows, read]
  simp only [bind, Except.bind, queried]
  simp [Except.mapError, pure, Except.pure, StoredTable.fetched, TableSelection.wherever,
    TableSelection.ofTable, TableSelection.behind]

/-- A row that is the only one with a value is fetched, in whatever order rows are found. -/
theorem fetch_wherever_of_only (found : database.table? table = some stored)
    (undottedTable : IsUndotted table) (undottedColumn : IsUndotted column)
    (known : (stored.definition.position? column).isSome = true) {value : Value} {row : StoredRow}
    (only : stored.rows.filter (stored.equals column (Cell.ofValue value)) = [row]) :
    (datastore.fetch (.wherever table (column, value) true) database).1.1 =
      .ok [stored.fetched table row] := by
  obtain ⟨visited, perm, fetched⟩ :=
    fetch_wherever found undottedTable undottedColumn known value true
  have alone := perm.filter (stored.equals column (Cell.ofValue value))
  rw [only, List.perm_singleton] at alone
  rw [fetched, alone]
  rfl

/-- A table whose name holds a dot cannot be looked up. -/
theorem fetch_wherever_dotted (dotted : ¬ IsUndotted table) (condition : String × Value)
    (limited : Bool) :
    (datastore.fetch (.wherever table condition limited) database).1.1 =
      .error (.engine "syntax error") := by
  obtain ⟨statement, rendered, read⟩ := exists_statement_wherever table condition limited
  obtain ⟨first, rest, named⟩ := Lexeme.nameTokens_of_dotted dotted
  have tokens : (TableSelection.wherever table condition limited).boundTokens .rows =
      [.word "SELECT", .symbol "*", .word "FROM", .name first, .symbol "."] ++
        (rest ++ (.word "WHERE" :: equalityTokens condition) ++
          TableSelection.limitTokens limited) := by
    rw [TableSelection.boundTokens_wherever, named]
    simp
  rw [tokens, Query.ofTokens?_dotted, Option.elim_none] at read
  rw [fetch_of_render rendered, fetchRows, read]
  rfl

end Database

end TableGraph
