import Mathlib.Data.List.Basic
import TableGraph.Database.Selection

/-!
# Orders of rows

An engine visits each row once, whatever the order (`VisitOrder.arrange_perm`), and the order
depends on the cells that it uses only: rows that are changed elsewhere are visited in the
same order (`VisitOrder.arrange_map`).  So a query over a table is one over its rows in some
order (`Database.exists_visited`).
-/

namespace TableGraph

namespace VisitOrder

variable {α β : Type} {order : VisitOrder} {table : TableDefinition} {clauses : SelectClauses}
  {result : Option SqlExpression}

theorem filterMap_range_getElem? (rows : List α) :
    ((List.range rows.length).filterMap fun place => rows[place]?) = rows := by
  induction rows with
  | nil => rfl
  | cons first rest inductionHypothesis =>
      rw [List.length_cons, List.range_succ_eq_map, List.filterMap_cons_some List.getElem?_cons_zero,
        List.filterMap_map]
      exact congrArg (first :: ·) inductionHypothesis

/-- Every row is visited once. -/
theorem arrange_perm (cellsOf : α → Cells) (rows : List α) :
    (order.arrange table clauses result cellsOf rows).Perm rows := by
  have places := order.perm table clauses result
    (rows.map fun row => StoredTable.cellsAt (order.positions table) (cellsOf row))
  rw [List.length_map] at places
  have visited := places.filterMap fun place => rows[place]?
  rwa [filterMap_range_getElem?] at visited

/-- The order depends on the cells that the engine uses only. -/
theorem arrange_map {cellsOf : α → Cells} {otherCells : β → Cells} {change : α → β} {rows : List α}
    (same : ∀ row ∈ rows, StoredTable.cellsAt (order.positions table) (otherCells (change row)) =
      StoredTable.cellsAt (order.positions table) (cellsOf row)) :
    order.arrange table clauses result otherCells (rows.map change) =
      (order.arrange table clauses result cellsOf rows).map change := by
  have used :
      ((rows.map change).map fun row =>
          StoredTable.cellsAt (order.positions table) (otherCells row)) =
        rows.map fun row => StoredTable.cellsAt (order.positions table) (cellsOf row) := by
    rw [List.map_map]
    exact List.map_congr_left same
  rw [arrange, arrange, used, List.map_filterMap]
  exact List.filterMap_congr fun place _ => List.getElem?_map

end VisitOrder

namespace Database

variable {database : Database} {clauses : SelectClauses} {stored : StoredTable}

/-- The rows of a table are found in some order. -/
theorem exists_visited (found : database.table? clauses.table = some stored)
    (result : Option SqlExpression) :
    ∃ visited : List StoredRow, visited.Perm stored.rows ∧
      database.visited clauses result (stored.rows.map StoredRow.visible) =
        visited.map StoredRow.visible := by
  refine ⟨database.rowOrder.arrange stored.definition clauses result StoredRow.visible stored.rows,
    VisitOrder.arrange_perm _ _, ?_⟩
  rw [Database.visited, found]
  exact VisitOrder.arrange_map fun _ _ => rfl

end Database

end TableGraph
