import TableGraph.Selection.Narrowing
import TableGraph.Selection.Placeholder

/-!
# Selections

A selection over one table and its statement.  Fetching renders all clauses;
counting leaves out order and page, and counts the rows of the grouped selection
when there are groups.  A statement that cannot be rendered is shown as its
template, the text with the placeholders left as they are.
-/

namespace TableGraph

/-- A selection over the rows of a table. -/
structure TableSelection where
  table : String
  filters : List Fragment
  group : Option Fragment
  havings : List Fragment
  orders : List Fragment
  limit : Option Int64
  offset : Option Int64
  /-- The statement shown last, empty before anything was executed. -/
  shown : String
  deriving DecidableEq, Repr

namespace TableSelection

/-- All rows of a table. -/
def ofTable (table : String) : TableSelection := ⟨table, [], none, [], [], none, none, ""⟩

/-- The order that shuffles the rows. -/
def randomOrder : Fragment := ⟨"RANDOM()", []⟩

/-- Apply a call.  A second page or group replaces the first. -/
def narrow (selection : TableSelection) : Narrowing → TableSelection
  | .limit limit offset => { selection with limit := limit, offset := offset }
  | .order fragment => { selection with orders := selection.orders ++ [fragment] }
  | .orderRandom => { selection with orders := selection.orders ++ [randomOrder] }
  | .filter fragment => { selection with filters := selection.filters ++ [fragment] }
  | .having fragment => { selection with havings := selection.havings ++ [fragment] }
  | .group fragment => { selection with group := some fragment }

/-- Whether the selection is over groups of rows. -/
def isGrouped (selection : TableSelection) : Bool :=
  selection.group.isSome || !selection.havings.isEmpty

/-- What is read from a selection. -/
inductive Head where
  | rows
  | count (expression : String)
  deriving DecidableEq, Repr

/-- A piece of a statement that is being rendered. -/
inductive Piece where
  | text (text : String)
  | fragment (fragment : Fragment)
  deriving DecidableEq, Repr

namespace Piece

/-- The piece with its placeholders left as they are. -/
def template : Piece → String
  | .text written => written
  | .fragment part => part.expression

/-- The piece with its parameters in place. -/
def expand : Piece → Except StoreFailure Statement
  | .text written => .ok ⟨written, []⟩
  | .fragment part => part.expand

end Piece

/-- Fragments with a separator between them, each in parentheses when there are
several and they ask for it. -/
def joined (separator : String) (parenthesized : Bool) (fragments : List Fragment) : List Piece :=
  let enclose (fragment : Fragment) : List Piece :=
    if parenthesized && 1 < fragments.length then [.text "(", .fragment fragment, .text ")"]
    else [.fragment fragment]
  (fragments.map enclose).intersperse [.text separator] |>.flatten

/-- A clause of several fragments behind its keyword, if there are any. -/
def clausePieces (keyword separator : String) (parenthesized : Bool) (fragments : List Fragment) :
    List Piece :=
  if fragments.isEmpty then [] else .text keyword :: joined separator parenthesized fragments

/-- The clause of the page. -/
def pagePieces (limit offset : Option Int64) : List Piece :=
  match limit, offset with
  | some limit, some offset =>
    [.text (" LIMIT " ++ decimalText limit.toInt ++ " OFFSET " ++ decimalText offset.toInt)]
  | some limit, none => [.text (" LIMIT " ++ decimalText limit.toInt)]
  | none, some offset => [.text (" LIMIT -1 OFFSET " ++ decimalText offset.toInt)]
  | none, none => []

/-- The clauses that decide which rows or groups are selected. -/
def restrictingPieces (selection : TableSelection) : List Piece :=
  clausePieces " WHERE " " AND " true selection.filters ++
    clausePieces " GROUP BY " ", " false selection.group.toList ++
    clausePieces " HAVING " " AND " true selection.havings

/-- The clauses that order the rows and cut them to a page. -/
def arrangingPieces (selection : TableSelection) : List Piece :=
  clausePieces " ORDER BY " ", " false selection.orders ++ pagePieces selection.limit selection.offset

/-- The statement text in front of the clauses. -/
def opening (selection : TableSelection) (head : Head) : String :=
  let source := String.ofList (Identifier.quote selection.table.toList)
  match head with
  | .rows => "SELECT * FROM " ++ source
  | .count expression =>
    if selection.isGrouped then "SELECT COUNT(*) FROM (SELECT * FROM " ++ source
    else "SELECT COUNT(" ++ expression ++ ") FROM " ++ source

/-- The statement text behind the clauses. -/
def closing (selection : TableSelection) : Head → String
  | .rows => ""
  | .count _ => if selection.isGrouped then ")" else ""

/-- The pieces of a statement but for its closing. -/
def pieces (selection : TableSelection) (head : Head) : List Piece :=
  .text (selection.opening head) :: selection.restrictingPieces ++
    match head with
    | .rows => selection.arrangingPieces
    | .count _ => []

/-- Pieces with their parameters in place. -/
def expandPieces : List Piece → Except StoreFailure Statement
  | [] => .ok .empty
  | piece :: rest =>
    piece.expand.bind fun first => (expandPieces rest).map (Statement.append first)

/-- The template of the pieces up to the first one that does not expand. -/
def templateUntilFailure : List Piece → String
  | [] => ""
  | piece :: rest =>
    match piece.expand with
    | .ok _ => piece.template ++ templateUntilFailure rest
    | .error _ => piece.template

/-- The statement of a selection. -/
def render (selection : TableSelection) (head : Head) : Except StoreFailure Statement :=
  (expandPieces (selection.pieces head)).map fun statement =>
    statement.append ⟨selection.closing head, []⟩

/-- The text that is shown for a statement: its own, or its template when it
cannot be rendered. -/
def shownText (selection : TableSelection) (head : Head) : String :=
  match selection.render head with
  | .ok statement => statement.text
  | .error _ => templateUntilFailure (selection.pieces head) ++ selection.closing head

/-- Render a statement and remember the text shown for it. -/
def execute (selection : TableSelection) (head : Head) :
    Except StoreFailure Statement × TableSelection :=
  (selection.render head, { selection with shown := selection.shownText head })

end TableSelection

end TableGraph
