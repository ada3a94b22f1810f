import TableGraph.Sql.Aggregation

/-!
# Queries

A query selects rows of one table: it filters them, forms groups, filters the
groups, orders the outcome and cuts a page out of it.  It asks for the rows, for
one expression over them, or for their number.
-/

namespace TableGraph

/-- An expression that rows are ordered by. -/
structure OrderTerm where
  expression : SqlExpression
  descending : Bool
  deriving Repr

/-- The clauses of a query over one table. -/
structure SelectClauses where
  table : String
  filter : Option SqlExpression
  groups : List SqlExpression
  having : Option SqlExpression
  orders : List OrderTerm
  limit : Option SqlExpression
  offset : Option SqlExpression
  deriving Repr

/-- A query. -/
inductive Query where
  /-- The rows. -/
  | rows (clauses : SelectClauses)
  /-- One expression over the rows. -/
  | value (result : SqlExpression) (clauses : SelectClauses)
  /-- How many rows there are. -/
  | rowCount (clauses : SelectClauses)
  deriving Repr

namespace Query

/-! ## Reading -/

/-- The tokens behind some keywords, if they stand in front. -/
def skipKeywords? : List String → List SqlToken → Option (List SqlToken)
  | [], tokens => some tokens
  | keyword :: keywords, token :: rest =>
    if token.isKeyword keyword then skipKeywords? keywords rest else none
  | _ :: _, [] => none

/-- An expression behind some keywords, if they stand in front. -/
def readClause (keywords : List String) (tokens : List SqlToken) :
    Option (Option SqlExpression × List SqlToken) :=
  match skipKeywords? keywords tokens with
  | none => some (none, tokens)
  | some rest => (SqlExpression.ofTokens? rest).map fun (expression, rest) => (some expression, rest)

/-- Expressions with commas between them; `fuel` bounds their number. -/
def readExpressions : Nat → List SqlToken → Option (List SqlExpression × List SqlToken)
  | 0, _ => none
  | fuel + 1, tokens => do
    match ← SqlExpression.ofTokens? tokens with
    | (first, .symbol "," :: rest) =>
      let (later, rest) ← readExpressions fuel rest
      return (first :: later, rest)
    | (first, rest) => return ([first], rest)

/-- The direction behind an expression. -/
def readDirection (tokens : List SqlToken) : Bool × List SqlToken :=
  match tokens with
  | token :: rest =>
    if token.isKeyword "DESC" then (true, rest)
    else if token.isKeyword "ASC" then (false, rest)
    else (false, tokens)
  | [] => (false, [])

/-- Order terms with commas between them; `fuel` bounds their number. -/
def readOrders : Nat → List SqlToken → Option (List OrderTerm × List SqlToken)
  | 0, _ => none
  | fuel + 1, tokens => do
    let (expression, rest) ← SqlExpression.ofTokens? tokens
    let (descending, rest) := readDirection rest
    match rest with
    | .symbol "," :: rest =>
      let (later, rest) ← readOrders fuel rest
      return (⟨expression, descending⟩ :: later, rest)
    | rest => return ([⟨expression, descending⟩], rest)

/-- The page: a limit with an offset behind it, or the offset in front of a comma. -/
def readPage (tokens : List SqlToken) :
    Option (Option SqlExpression × Option SqlExpression × List SqlToken) := do
  let (limit, rest) ← readClause ["LIMIT"] tokens
  match limit, rest with
  | some first, .symbol "," :: rest =>
    let (second, rest) ← SqlExpression.ofTokens? rest
    return (some second, some first, rest)
  | some _, rest =>
    let (offset, rest) ← readClause ["OFFSET"] rest
    return (limit, offset, rest)
  | none, rest => return (none, none, rest)

/-- The clauses behind `FROM`. -/
def readClauses (tokens : List SqlToken) : Option (SelectClauses × List SqlToken) := do
  match tokens with
  | token :: rest =>
    let table ← token.name?
    let (filter, rest) ← readClause ["WHERE"] rest
    let (groups, rest) ←
      match skipKeywords? ["GROUP", "BY"] rest with
      | some behind => readExpressions behind.length behind
      | none => some ([], rest)
    let (having, rest) ← readClause ["HAVING"] rest
    let (orders, rest) ←
      match skipKeywords? ["ORDER", "BY"] rest with
      | some behind => readOrders behind.length behind
      | none => some ([], rest)
    let (limit, offset, rest) ← readPage rest
    return (⟨table, filter, groups, having, orders, limit, offset⟩, rest)
  | [] => none

/-- The clauses of a selection of all columns. -/
def readRows (tokens : List SqlToken) : Option (SelectClauses × List SqlToken) := do
  match ← skipKeywords? ["SELECT"] tokens with
  | .symbol "*" :: rest => readClauses (← skipKeywords? ["FROM"] rest)
  | _ => none

/-- A single expression that is selected from rows or from a selection of rows. -/
def readValue (tokens : List SqlToken) : Option (Query × List SqlToken) := do
  let (result, rest) ← SqlExpression.ofTokens? (← skipKeywords? ["SELECT"] tokens)
  match result, ← skipKeywords? ["FROM"] rest with
  | .countAll, .symbol "(" :: rest =>
    match ← readRows rest with
    | (clauses, .symbol ")" :: rest) => return (.rowCount clauses, rest)
    | _ => none
  | result, rest =>
    let (clauses, rest) ← readClauses rest
    return (.value result clauses, rest)

/-- The query that some tokens are as a whole. -/
def ofTokens? (tokens : List SqlToken) : Option Query :=
  let rows := (readRows tokens).map fun (clauses, rest) => (Query.rows clauses, rest)
  match rows.or (readValue tokens) with
  | some (query, []) => some query
  | _ => none

/-- Put values in place of the parameter marks; absent unless there are as many. -/
def bind : List SqlToken → List Cell → Option (List SqlToken)
  | [], [] => some []
  | [], _ :: _ => none
  | .mark :: rest, cell :: cells => (bind rest cells).map fun later => .literal cell :: later
  | .mark :: _, [] => none
  | token :: rest, cells => (bind rest cells).map fun later => token :: later

/-- The query of a statement text with its bound values.  Only the first
statement of the text counts. -/
def ofStatement (text : String) (cells : List Cell) : Except String Query :=
  match SqlToken.lex text with
  | none => .error "unrecognized token"
  | some tokens =>
    match bind (tokens.takeWhile fun token => token != .symbol ";") cells with
    | none => .error "wrong number of bound values"
    | some bound =>
      match ofTokens? bound with
      | some query => .ok query
      | none => .error "syntax error"

end Query

end TableGraph
