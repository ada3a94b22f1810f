import TableGraph.Proofs.Sql.Equality
import TableGraph.Sql.Collation

/-!
# Equality by a collation

A collation compares what it folds cells to, so it is an equivalence as equality of cells is
one.  Folding leaves everything but texts as it is, and cells of the same content stay of the
same content.
-/

namespace TableGraph

namespace Cell

theorem isOrdered_storable (cell : Cell) : cell.storable.isOrdered = true := by
  cases cell with
  | real value =>
      rw [storable, ofDouble]
      split
      · rfl
      · next isNumber => simpa [isOrdered] using isNumber
  | _ => rfl

/-- Whatever has a place in the order can be stored as it is. -/
theorem storable_of_isOrdered {cell : Cell} (ordered : cell.isOrdered = true) :
    cell.storable = cell := by
  cases cell with
  | real value =>
      have isNumber : value.isNaN = false := by simpa [isOrdered] using ordered
      rw [storable, ofDouble, isNumber]
      rfl
  | _ => rfl

end Cell

namespace Collation

variable (collation : Collation) {left right : Cell}

@[simp]
theorem isNull_fold (cell : Cell) : (collation.fold cell).isNull = cell.isNull := by
  cases cell <;> rfl

theorem isOrdered_fold (cell : Cell) : (collation.fold cell).isOrdered = cell.isOrdered := by
  cases cell <;> rfl

/-- Cells of the same content are folded to the same content. -/
theorem content_fold_congr (same : left.content = right.content) :
    (collation.fold left).content = (collation.fold right).content := by
  cases left with
  | text bytes =>
      cases right <;> cases same
      rfl
  | _ => cases right <;> first | exact same | cases same

/-- Cells are equal by a collation when they are folded to the same content. -/
theorem order_eq_iff (leftOrdered : left.isOrdered = true) (rightOrdered : right.isOrdered = true) :
    collation.order left right = .eq ↔
      (collation.fold left).content = (collation.fold right).content :=
  Cell.order_eq_iff ((collation.isOrdered_fold left).trans leftOrdered)
    ((collation.isOrdered_fold right).trans rightOrdered)

end Collation

end TableGraph
