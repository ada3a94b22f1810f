import TableGraph.Database.Catalog

/-!
# Selecting rows

A query is evaluated clause by clause: names are resolved, rows filtered and
grouped, groups filtered, the outcome ordered and cut to its page.  Rows that
are equal in the order keep the order in which the engine finds them.
-/

namespace TableGraph.Database

/-- The clauses of a query with their names resolved. -/
structure ResolvedClauses where
  filter : Option Term
  groups : List Term
  having : Option Term
  /-- The terms of the order, and whether each is descending. -/
  orders : List (Term × Bool)
  /-- The expression that is selected; without one all columns are. -/
  result : Option Term
  aggregates : List Aggregate
  /-- Whether rows are taken together in groups. -/
  isGrouped : Bool

/-- A row of the table, or one that stands for a group with its aggregates. -/
structure SelectedRow where
  cells : Cells
  aggregates : Cells

/-! ## Resolution -/

/-- A number among the terms of an order or a grouping stands for a column. -/
def positional (scope : Scope) (expression : SqlExpression) : Except String SqlExpression :=
  match expression with
  | .literal (.integer number) =>
    if number ≤ 0 then .error "term out of range"
    else
      match scope.columns[number.toInt.toNat - 1]? with
      | some (name, _) => .ok (.column none name)
      | none => .error "term out of range"
  | expression => .ok expression

/-- Resolve an expression that may be absent. -/
def resolveOptional (scope : Scope) (grouped : Bool) (expression : Option SqlExpression) :
    Term.Resolution (Option Term) :=
  match expression with
  | some expression => do return some (← Term.resolve scope grouped expression)
  | none => return none

/-- Resolve the terms of an order. -/
def resolveOrders (scope : Scope) (grouped : Bool) (orders : List OrderTerm) :
    Term.Resolution (List (Term × Bool)) :=
  orders.mapM fun order => do
    let expression ← positional scope order.expression
    return (← Term.resolve scope grouped expression, order.descending)

/-- Resolve the clauses of a query.  Rows are grouped when the query says so or
selects an aggregate; only then can groups be filtered.  The aggregates of the order
are collected before those of the filter of groups. -/
def resolveClauses (scope : Scope) (clauses : SelectClauses) (result : Option SqlExpression) :
    Except String ResolvedClauses := do
  let resolution : Term.Resolution ResolvedClauses := do
    let result ← resolveOptional scope true result
    let filter ← resolveOptional scope false clauses.filter
    let groups ← clauses.groups.mapM fun group => do
      Term.resolve scope false (← positional scope group)
    let grouped := !groups.isEmpty || !(← get).isEmpty
    if clauses.having.isSome && !grouped then throw "HAVING clause on a non-aggregate query"
    let orders ← resolveOrders scope grouped clauses.orders
    let having ← resolveOptional scope true clauses.having
    return ⟨filter, groups, having, orders, result, [], grouped⟩
  let (resolved, aggregates) ← resolution.run []
  return { resolved with aggregates := aggregates }

/-! ## Evaluation -/

/-- Compute a group: the row that stands for it and its aggregates. -/
def computeGroup (width : Nat) (aggregates : List Aggregate) (rows : List Cells) :
    Except String SelectedRow := do
  let cells ← aggregates.mapM fun aggregate => aggregate.compute rows
  let shown := (Aggregate.representative aggregates rows).getD (List.replicate width .null)
  return ⟨shown, cells⟩

/-- The rows of a query before they are ordered.  Without keys all rows are one
group, even when there are none. -/
def formGroups (width : Nat) (clauses : ResolvedClauses) (rows : List Cells) :
    Except String (List SelectedRow) :=
  if !clauses.isGrouped then .ok (rows.map fun row => ⟨row, []⟩)
  else if clauses.groups.isEmpty then
    (computeGroup width clauses.aggregates rows).map fun group => [group]
  else
    (Group.ofRows clauses.groups rows).mapM fun group =>
      computeGroup width clauses.aggregates group.rows

/-- Whether a row passes a filter that may be absent. -/
def passes (filter : Option Term) (row : SelectedRow) : Bool :=
  filter.all (Term.holds row.cells row.aggregates)

/-- The order of two rows by some terms. -/
def orderOf (orders : List (Term × Bool)) (left right : SelectedRow) : Ordering :=
  match orders with
  | [] => .eq
  | (term, descending) :: rest =>
    let first := (term.evaluateKey left.cells left.aggregates).order
      (term.evaluateKey right.cells right.aggregates)
    (if descending then first.swap else first).then (orderOf rest left right)

/-- The rows in order; equal rows keep their places. -/
def arrange (orders : List (Term × Bool)) (rows : List SelectedRow) : List SelectedRow :=
  rows.mergeSort fun left right => orderOf orders left right != .gt

/-- The whole number of a limit or offset. -/
def pageNumber (scope : Scope) (expression : Option SqlExpression) : Except String (Option Int) :=
  match expression with
  | none => .ok none
  | some expression => do
    let (term, _) ← (Term.resolve { scope with columns := [], hasRowid := false } false expression).run []
    match Affinity.store .integer (term.evaluate [] []) with
    | .integer number => .ok (some number.toInt)
    | _ => .error "datatype mismatch"

/-- Cut a page out of some rows; a negative limit is none. -/
def cut {α : Type} (limit offset : Option Int) (rows : List α) : List α :=
  let behind := rows.drop (offset.getD 0).toNat
  match limit with
  | some limit => if limit < 0 then behind else behind.take limit.toNat
  | none => behind

/-- The cells of a row that a query selects. -/
def project (width : Nat) (result : Option Term) (row : SelectedRow) : Cells :=
  match result with
  | some term => [term.evaluate row.cells row.aggregates]
  | none => row.cells.take width

/-- The rows of a table or view as the engine finds them. -/
def visited (database : Database) (clauses : SelectClauses) (result : Option SqlExpression)
    (rows : List Cells) : List Cells :=
  match database.table? clauses.table with
  | some table => database.rowOrder.arrange table.definition clauses result id rows
  | none => rows

/-- The groups of a table or view as the engine finds them. -/
def visitedGroups (database : Database) (clauses : SelectClauses) (result : Option SqlExpression)
    (groups : List SelectedRow) : List SelectedRow :=
  match database.table? clauses.table with
  | some table =>
    database.groupOrder.arrange table.definition clauses result SelectedRow.cells groups
  | none => groups

/-- The rows that the clauses of a query select. -/
def select (database : Database) (clauses : SelectClauses) (result : Option SqlExpression) :
    Except String (List Cells) := do
  match database.source? clauses.table with
  | none => throw ("no such table: " ++ clauses.table)
  | some (scope, rows) =>
    let resolved ← resolveClauses scope clauses result
    let limit ← pageNumber scope clauses.limit
    let offset ← pageNumber scope clauses.offset
    let width := scope.columns.length
    let filtered :=
      (database.visited clauses result rows).filter fun row => passes resolved.filter ⟨row, []⟩
    let formed ← formGroups width resolved filtered
    let grouped := if resolved.isGrouped then database.visitedGroups clauses result formed else formed
    let ordered := arrange resolved.orders (grouped.filter (passes resolved.having))
    return (cut limit offset ordered).map (project width resolved.result)

/-- The names of the columns of a table or view. -/
def columnNames (database : Database) (table : String) : List String :=
  ((database.source? table).map fun source => source.1.columns.map Prod.fst).getD []

/-- The rows of a query that asks for rows, with the names of their columns. -/
def queryRows (database : Database) (query : Query) : Except String (List String × List Cells) := do
  match query with
  | .rows clauses => return (database.columnNames clauses.table, ← database.select clauses none)
  | _ => throw "the query selects no rows"

/-- The number that a query asks for. -/
def queryNumber (database : Database) (query : Query) : Except String Int64 := do
  match query with
  | .rows _ => throw "the query selects no number"
  | .rowCount clauses => return Int64.ofNat (← database.select clauses none).length
  | .value result clauses =>
    match (← database.select clauses (some result)) with
    | [.integer number] :: _ => return number
    | _ => throw "the query selects no number"

end TableGraph.Database
