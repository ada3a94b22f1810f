import TableGraph.Selection.Fragment

/-!
# Narrowing a selection

A selection over one table is narrowed by calls: filters, groups, orders and a
page.  The calls are data, so that compiling a condition and applying it are
two separate steps.
-/

namespace TableGraph

/-- A call that narrows a selection. -/
inductive Narrowing where
  | limit (limit offset : Option Int64)
  | order (fragment : Fragment)
  | orderRandom
  /-- A filter on rows; several are combined by `AND`. -/
  | filter (fragment : Fragment)
  /-- A filter on groups of rows; several are combined by `AND`. -/
  | having (fragment : Fragment)
  | group (fragment : Fragment)
  deriving DecidableEq, Repr

end TableGraph
