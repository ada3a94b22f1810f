import TableGraph.Database.Selection
import TableGraph.Proofs.Sql.ColumnNames

/-!
# Columns of read clauses

The clauses behind the name of a table are read from one end of the tokens to the other.
When the tokens are orderly, their quoted names are of a kind and their lists are free of
numbers, every column that the clauses filter, group or order by has a name of this kind
(`Query.columnsIn_of_readClauses`).
-/

namespace TableGraph

open SqlToken (NamesIn StartsOperand)

variable {named : String → Prop}

/-! ## Clauses -/

/-- Whether an expression is a number, which a list of terms takes for the place of a
column. -/
def SqlExpression.IsNumber : SqlExpression → Prop
  | .literal (.integer _) => True
  | _ => False

theorem Database.positional_eq (scope : Scope) {expression : SqlExpression}
    (noNumber : ¬ expression.IsNumber) : positional scope expression = .ok expression := by
  unfold positional
  split
  · exact absurd trivial noNumber
  · rfl

/-- Clauses all of whose columns have names of a kind, none given by its place. -/
structure SelectClauses.ColumnsIn (named : String → Prop) (clauses : SelectClauses) : Prop where
  filter : ∀ expression ∈ clauses.filter, expression.ColumnsIn named
  groups : ∀ expression ∈ clauses.groups, expression.ColumnsIn named ∧ ¬ expression.IsNumber
  having : ∀ expression ∈ clauses.having, expression.ColumnsIn named
  orders : ∀ order ∈ clauses.orders,
    order.expression.ColumnsIn named ∧ ¬ order.expression.IsNumber

namespace Query

/-- Whatever is read behind `GROUP BY` and `ORDER BY` is no number. -/
structure ListsNoNumbers (tokens : List SqlToken) : Prop where
  groups : ∀ {rest behind}, rest <:+ tokens → skipKeywords? ["GROUP", "BY"] rest = some behind →
    ∀ {fuel groups last}, readExpressions fuel behind = some (groups, last) →
      ∀ group ∈ groups, ¬ group.IsNumber
  orders : ∀ {rest behind}, rest <:+ tokens → skipKeywords? ["ORDER", "BY"] rest = some behind →
    ∀ {fuel orders last}, readOrders fuel behind = some (orders, last) →
      ∀ order ∈ orders, ¬ order.expression.IsNumber

/-- Tokens from which clauses over columns of a kind are read. -/
structure Regular (named : String → Prop) (tokens : List SqlToken) : Prop
    extends NamesIn named tokens, ListsNoNumbers tokens

variable {tokens rest behind : List SqlToken} {keywords : List String}

/-! ## Reading -/

theorem skipKeywords?_suffix (skipped : skipKeywords? keywords tokens = some behind) :
    behind <:+ tokens := by
  induction keywords generalizing tokens with
  | nil =>
      cases skipped
      exact List.suffix_rfl
  | cons keyword keywords inductionHypothesis =>
      cases tokens with
      | nil => cases skipped
      | cons token later =>
          rw [skipKeywords?] at skipped
          split at skipped
          · exact (inductionHypothesis skipped).trans (List.suffix_cons ..)
          · cases skipped

/-- What stands behind the last keyword may begin an operand. -/
theorem skipKeywords?_starts (names : NamesIn named tokens) (keywords : List String)
    {keyword : String} (opens : keyword ∈ SqlToken.openers)
    (skipped : skipKeywords? (keywords ++ [keyword]) tokens = some behind) :
    StartsOperand behind := by
  induction keywords generalizing tokens with
  | nil =>
      cases tokens with
      | nil => cases skipped
      | cons token later =>
          rw [List.nil_append, skipKeywords?] at skipped
          split at skipped
          · next isKeyword =>
              obtain rfl := Option.some.inj skipped
              exact names.head.keyword (SqlToken.isKeyword_iff.mp isKeyword) opens
          · cases skipped
  | cons first keywords inductionHypothesis =>
      cases tokens with
      | nil => cases skipped
      | cons token later =>
          rw [List.cons_append, skipKeywords?] at skipped
          split at skipped
          · exact inductionHypothesis names.tail skipped
          · cases skipped

theorem readClause_columnsIn (names : NamesIn named tokens) {keyword : String}
    (opens : keyword ∈ SqlToken.openers) {result : Option SqlExpression}
    (read : readClause [keyword] tokens = some (result, rest)) :
    (∀ expression ∈ result, expression.ColumnsIn named) ∧ rest <:+ tokens := by
  rw [readClause] at read
  split at read
  · cases read
    exact ⟨fun _ member => absurd member (by simp), List.suffix_rfl⟩
  · next skipped =>
      obtain ⟨⟨expression, last⟩, isRead, same⟩ := Option.map_eq_some_iff.mp read
      cases same
      have suffix := skipKeywords?_suffix skipped
      have starts := skipKeywords?_starts names [] opens skipped
      have reading := SqlExpression.readIn_of_ofTokens? (names.suffix suffix) starts isRead
      refine ⟨fun other member => ?_, reading.suffix.trans suffix⟩
      obtain rfl := Option.some.inj member
      exact reading.columns

theorem readExpressions_columnsIn {fuel : Nat} (names : NamesIn named tokens)
    (starts : StartsOperand tokens) {expressions : List SqlExpression}
    (read : readExpressions fuel tokens = some (expressions, rest)) :
    (∀ expression ∈ expressions, expression.ColumnsIn named) ∧ rest <:+ tokens := by
  induction fuel generalizing tokens expressions with
  | zero => cases read
  | succ fuel inductionHypothesis =>
      rw [readExpressions] at read
      obtain ⟨⟨first, behind⟩, isFirst, read⟩ := Option.bind_eq_some_iff.mp read
      have reading := SqlExpression.readIn_of_ofTokens? names starts isFirst
      have inBehind := names.suffix reading.suffix
      split at read
      · next isBehind =>
          cases isBehind
          obtain ⟨⟨later, last⟩, isLater, read⟩ := Option.bind_eq_some_iff.mp read
          cases read
          obtain ⟨columns, suffix⟩ :=
            inductionHypothesis inBehind.tail (inBehind.head.symbol (by decide)) isLater
          exact ⟨List.forall_mem_cons.mpr ⟨reading.columns, columns⟩,
            suffix.trans ((List.suffix_cons ..).trans reading.suffix)⟩
      · next isBehind =>
          cases isBehind
          cases read
          exact ⟨List.forall_mem_singleton.mpr reading.columns, reading.suffix⟩

theorem readDirection_suffix (tokens : List SqlToken) : (readDirection tokens).2 <:+ tokens := by
  cases tokens with
  | nil => exact List.suffix_rfl
  | cons token later =>
      rw [readDirection]
      split
      · exact List.suffix_cons ..
      · split
        · exact List.suffix_cons ..
        · exact List.suffix_rfl

theorem readOrders_columnsIn {fuel : Nat} (names : NamesIn named tokens)
    (starts : StartsOperand tokens) {orders : List OrderTerm}
    (read : readOrders fuel tokens = some (orders, rest)) :
    (∀ order ∈ orders, order.expression.ColumnsIn named) ∧ rest <:+ tokens := by
  induction fuel generalizing tokens orders with
  | zero => cases read
  | succ fuel inductionHypothesis =>
      rw [readOrders] at read
      obtain ⟨⟨first, behind⟩, isFirst, read⟩ := Option.bind_eq_some_iff.mp read
      have reading := SqlExpression.readIn_of_ofTokens? names starts isFirst
      have suffix := (readDirection_suffix behind).trans reading.suffix
      have inBehind := names.suffix suffix
      dsimp only at read
      split at read
      · next isBehind =>
          rw [isBehind] at inBehind suffix
          obtain ⟨⟨later, last⟩, isLater, read⟩ := Option.bind_eq_some_iff.mp read
          cases read
          obtain ⟨columns, laterSuffix⟩ :=
            inductionHypothesis inBehind.tail (inBehind.head.symbol (by decide)) isLater
          exact ⟨List.forall_mem_cons.mpr ⟨reading.columns, columns⟩,
            laterSuffix.trans ((List.suffix_cons ..).trans suffix)⟩
      · cases read
        exact ⟨List.forall_mem_singleton.mpr reading.columns, suffix⟩

/-! ## Clauses over a table -/

/-- Read on behind a grouping that may be absent. -/
theorem columnsIn_groups {Answer : Type} {answer : Answer} (regular : Regular named tokens)
    {next : List SqlExpression × List SqlToken → Option Answer}
    (read : (match skipKeywords? ["GROUP", "BY"] tokens with
      | some behind => (readExpressions behind.length behind).bind next
      | none => (some ([], tokens)).bind next) = some answer) :
    ∃ groups rest, (∀ group ∈ groups, group.ColumnsIn named ∧ ¬ group.IsNumber) ∧
      rest <:+ tokens ∧ next (groups, rest) = some answer := by
  split at read
  · next skipped =>
      obtain ⟨⟨groups, rest⟩, isRead, read⟩ := Option.bind_eq_some_iff.mp read
      have suffix := skipKeywords?_suffix skipped
      have starts :=
        skipKeywords?_starts regular.toNamesIn ["GROUP"] (by decide) skipped
      obtain ⟨columns, restSuffix⟩ :=
        readExpressions_columnsIn (regular.toNamesIn.suffix suffix) starts isRead
      exact ⟨groups, rest, fun group member => ⟨columns group member,
        regular.groups List.suffix_rfl skipped isRead group member⟩, restSuffix.trans suffix, read⟩
  · exact ⟨[], tokens, fun group member => absurd member List.not_mem_nil, List.suffix_rfl, read⟩

/-- Read on behind an order that may be absent. -/
theorem columnsIn_orders {Answer : Type} {answer : Answer} (regular : Regular named tokens)
    {next : List OrderTerm × List SqlToken → Option Answer}
    (read : (match skipKeywords? ["ORDER", "BY"] tokens with
      | some behind => (readOrders behind.length behind).bind next
      | none => (some ([], tokens)).bind next) = some answer) :
    ∃ orders rest,
      (∀ order ∈ orders, order.expression.ColumnsIn named ∧ ¬ order.expression.IsNumber) ∧
        next (orders, rest) = some answer := by
  split at read
  · next skipped =>
      obtain ⟨⟨orders, rest⟩, isRead, read⟩ := Option.bind_eq_some_iff.mp read
      have starts :=
        skipKeywords?_starts regular.toNamesIn ["ORDER"] (by decide) skipped
      obtain ⟨columns, _⟩ :=
        readOrders_columnsIn (regular.toNamesIn.suffix (skipKeywords?_suffix skipped)) starts isRead
      exact ⟨orders, rest, fun order member => ⟨columns order member,
        regular.orders List.suffix_rfl skipped isRead order member⟩, read⟩
  · exact ⟨[], tokens, fun order member => absurd member List.not_mem_nil, read⟩

theorem Regular.suffix (regular : Regular named tokens) (behind : rest <:+ tokens) :
    Regular named rest where
  toNamesIn := regular.toNamesIn.suffix behind
  groups within := regular.groups (within.trans behind)
  orders within := regular.orders (within.trans behind)

/-- The columns of the clauses behind the name of a table were written as quoted names. -/
theorem columnsIn_of_readClauses (regular : Regular named tokens) {table : String}
    {clauses : SelectClauses}
    (read : readClauses (.name table :: tokens) = some (clauses, rest)) :
    clauses.table = table ∧ clauses.ColumnsIn named := by
  rw [readClauses] at read
  obtain ⟨_, isTable, read⟩ := Option.bind_eq_some_iff.mp read
  obtain rfl := Option.some.inj isTable
  obtain ⟨⟨filter, behindFilter⟩, isFilter, read⟩ := Option.bind_eq_some_iff.mp read
  obtain ⟨filterColumns, filterSuffix⟩ :=
    readClause_columnsIn regular.toNamesIn (by decide) isFilter
  have regular := regular.suffix filterSuffix
  obtain ⟨groups, behindGroups, groupColumns, groupSuffix, read⟩ := columnsIn_groups regular read
  have regular := regular.suffix groupSuffix
  obtain ⟨⟨having, behindHaving⟩, isHaving, read⟩ := Option.bind_eq_some_iff.mp read
  obtain ⟨havingColumns, havingSuffix⟩ :=
    readClause_columnsIn regular.toNamesIn (by decide) isHaving
  have regular := regular.suffix havingSuffix
  obtain ⟨orders, behindOrders, orderColumns, read⟩ := columnsIn_orders regular read
  obtain ⟨⟨limit, offset, last⟩, _, read⟩ := Option.bind_eq_some_iff.mp read
  cases read
  exact ⟨rfl, filterColumns, groupColumns, havingColumns, orderColumns⟩

/-! ## Statements -/

/-- The tokens that a selection of all columns of a table begins with. -/
def rowsTokens (table : String) : List SqlToken :=
  [.word "SELECT", .symbol "*", .word "FROM", .name table]

/-- The tokens that a count begins with. -/
def countTokens : List SqlToken :=
  [.word "SELECT", .word "COUNT", .symbol "(", .symbol "*", .symbol ")", .word "FROM"]

theorem ofTokens?_rows (table : String) (rest : List SqlToken) {query : Query}
    (read : ofTokens? (rowsTokens table ++ rest) = some query) :
    ∃ clauses, readClauses (.name table :: rest) = some (clauses, []) ∧ query = .rows clauses := by
  have rows : readRows (rowsTokens table ++ rest) = readClauses (.name table :: rest) := rfl
  have noValue : readValue (rowsTokens table ++ rest) = none := rfl
  rw [ofTokens?, rows, noValue, Option.or_none] at read
  split at read
  · next isRead =>
      cases read
      obtain ⟨⟨clauses, last⟩, readsClauses, same⟩ := Option.map_eq_some_iff.mp isRead
      cases same
      exact ⟨clauses, readsClauses, rfl⟩
  · cases read

theorem ofTokens?_count (table : String) (rest : List SqlToken) {query : Query}
    (read : ofTokens? (countTokens ++ .name table :: rest) = some query) :
    ∃ clauses, readClauses (.name table :: rest) = some (clauses, []) ∧
      query = .value .countAll clauses := by
  have noRows : readRows (countTokens ++ .name table :: rest) = none := rfl
  have value : readValue (countTokens ++ .name table :: rest) =
      (readClauses (.name table :: rest)).bind fun found =>
        some (.value .countAll found.1, found.2) := rfl
  rw [ofTokens?, noRows, value, Option.map_none, Option.none_or] at read
  split at read
  · next isRead =>
      cases read
      obtain ⟨⟨clauses, last⟩, readsClauses, same⟩ := Option.bind_eq_some_iff.mp isRead
      cases same
      exact ⟨clauses, readsClauses, rfl⟩
  · cases read

theorem ofTokens?_rowCount (table : String) (rest : List SqlToken) {query : Query}
    (read : ofTokens? (countTokens ++ .symbol "(" :: rowsTokens table ++ rest) = some query) :
    ∃ clauses, readClauses (.name table :: rest) = some (clauses, [.symbol ")"]) ∧
      query = .rowCount clauses := by
  have noRows : readRows (countTokens ++ .symbol "(" :: rowsTokens table ++ rest) = none := rfl
  have value : readValue (countTokens ++ .symbol "(" :: rowsTokens table ++ rest) =
      (readClauses (.name table :: rest)).bind _ := rfl
  rw [ofTokens?, noRows, value, Option.map_none, Option.none_or] at read
  split at read
  · next isRead =>
      cases read
      obtain ⟨⟨clauses, last⟩, readsClauses, same⟩ := Option.bind_eq_some_iff.mp isRead
      split at same
      · next isFound =>
          cases isFound
          cases same
          exact ⟨clauses, readsClauses, rfl⟩
      · cases same
  · cases read

/-- A query of the rows of a table, or of their number, whose clauses name columns of a
kind. -/
inductive IsOver (named : String → Prop) (table : String) : Query → Prop where
  | rows {clauses : SelectClauses} (isTable : clauses.table = table)
      (columns : clauses.ColumnsIn named) : IsOver named table (.rows clauses)
  | count {clauses : SelectClauses} (isTable : clauses.table = table)
      (columns : clauses.ColumnsIn named) : IsOver named table (.value .countAll clauses)
  | rowCount {clauses : SelectClauses} (isTable : clauses.table = table)
      (columns : clauses.ColumnsIn named) : IsOver named table (.rowCount clauses)

section

variable {table : String} {query : Query} (regular : Regular named rest)

include regular

theorem isOver_rows (read : ofTokens? (rowsTokens table ++ rest) = some query) :
    query.IsOver named table := by
  obtain ⟨clauses, readsClauses, rfl⟩ := ofTokens?_rows table rest read
  obtain ⟨isTable, columns⟩ := columnsIn_of_readClauses regular readsClauses
  exact .rows isTable columns

theorem isOver_count (read : ofTokens? (countTokens ++ .name table :: rest) = some query) :
    query.IsOver named table := by
  obtain ⟨clauses, readsClauses, rfl⟩ := ofTokens?_count table rest read
  obtain ⟨isTable, columns⟩ := columnsIn_of_readClauses regular readsClauses
  exact .count isTable columns

theorem isOver_rowCount
    (read : ofTokens? (countTokens ++ .symbol "(" :: rowsTokens table ++ rest) = some query) :
    query.IsOver named table := by
  obtain ⟨clauses, readsClauses, rfl⟩ := ofTokens?_rowCount table rest read
  obtain ⟨isTable, columns⟩ := columnsIn_of_readClauses regular readsClauses
  exact .rowCount isTable columns

end

end Query

end TableGraph
