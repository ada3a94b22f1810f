import TableGraph.Failure
import TableGraph.Selection.Narrowing
import TableGraph.Structure.Basic

/-!
# Datastores

A datastore describes its tables and hands out selections, which are narrowed
and then executed.  Its calls act on a state of its own; a selection is a value,
which a narrowing or an execution replaces by another.
-/

namespace TableGraph

/-- The calls of a datastore over its states and selections. -/
structure Datastore (State Selection : Type) where
  /-- The tables, columns and references of the database. -/
  readStructure : StateM State (Except StoreFailure Structure)
  /-- A number that changes whenever the structure does. -/
  readVersion : StateM State (Except StoreFailure Int64)
  /-- All rows of a table. -/
  openTable : (table : String) → StateM State Selection
  /-- The rows of a table whose column references the key of a row. -/
  openRelated : (row : Row) → (table column : String) → StateM State (Except StoreFailure Selection)
  /-- The row of a table whose key a column of a row holds; none when it holds nothing. -/
  openReferenced : (row : Row) → (table column : String) →
    StateM State (Except StoreFailure (Option Selection))
  narrow : Selection → Narrowing → StateM State Selection
  fetch : Selection → StateM State (Except StoreFailure (List Row) × Selection)
  count : Selection → (expression : String) → StateM State (Except StoreFailure Int64 × Selection)
  /-- The statement a selection executed last. -/
  statement : Selection → String
  /-- How many nanoseconds the last execution took. -/
  elapsed : State → Nat

namespace Datastore

/-- Apply narrowing calls one after the other. -/
def narrowAll {State Selection : Type} (datastore : Datastore State Selection)
    (selection : Selection) (calls : List Narrowing) : StateM State Selection :=
  calls.foldlM datastore.narrow selection

end Datastore

end TableGraph
