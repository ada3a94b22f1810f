import TableGraph.Proofs.Database.Consistency
import TableGraph.Proofs.Sql.ReadPositions

/-!
# Veiled rows

Cells at hidden positions are replaced by null.  A query that reads no hidden position
selects the same rows before and after when it goes through them in the same order: filters,
groups, orders and pages are decided by the cells that are read, and only the cells that are
shown differ (`select_veiled`).
-/

namespace TableGraph

/-- Cells with null in place of the hidden ones. -/
def Cells.veiled (hides : Nat → Bool) (cells : Cells) : Cells :=
  cells.mapIdx fun position cell => if hides position then .null else cell

variable {hides : Nat → Bool}

namespace Cells

theorem getElem?_veiled (cells : Cells) (position : Nat) :
    (cells.veiled hides)[position]? =
      cells[position]?.map fun cell => if hides position then .null else cell :=
  List.getElem?_mapIdx

theorem veiled_replicate (width : Nat) :
    veiled hides (List.replicate width .null) = List.replicate width .null := by
  refine List.ext_getElem? fun position => ?_
  rw [getElem?_veiled]
  by_cases inside : position < width
  · simp [inside]
  · simp [inside]

/-- The cells at positions that are not hidden are the same ones. -/
theorem cellsAt_veiled {positions : List Nat} (shown : ∀ position ∈ positions, hides position = false)
    (cells : Cells) :
    StoredTable.cellsAt positions (cells.veiled hides) = StoredTable.cellsAt positions cells := by
  refine List.map_congr_left fun position member => ?_
  rw [getElem?_veiled]
  simp [shown position member]

theorem veiled_take (cells : Cells) (width : Nat) :
    veiled hides (cells.take width) = (cells.veiled hides).take width := by
  refine List.ext_getElem? fun position => ?_
  rw [getElem?_veiled, List.getElem?_take, List.getElem?_take, getElem?_veiled]
  by_cases inside : position < width
  · rw [if_pos inside, if_pos inside]
  · rw [if_neg inside, if_neg inside]
    rfl

end Cells

/-! ## Terms -/

namespace Term

/-- A term that reads no hidden position. -/
abbrev ReadsShown (hides : Nat → Bool) (term : Term) : Prop :=
  term.Reads fun position => hides position = false

theorem evaluateAll_congr {row other aggregates : Cells} {terms : List Term}
    (same : ∀ term ∈ terms, term.evaluate row aggregates = term.evaluate other aggregates) :
    evaluateAll row aggregates terms = evaluateAll other aggregates terms := by
  induction terms with
  | nil => rfl
  | cons first rest inductionHypothesis =>
      obtain ⟨own, others⟩ := List.forall_mem_cons.mp same
      rw [evaluateAll, evaluateAll, own, inductionHypothesis others]

theorem evaluate_veiled {term : Term} (reads : term.ReadsShown hides) (row aggregates : Cells) :
    term.evaluate (row.veiled hides) aggregates = term.evaluate row aggregates := by
  induction reads with
  | literal value => rfl
  | @column position affinity shown =>
      rw [evaluate, evaluate, Cells.getElem?_veiled]
      simp [shown]
  | aggregate position => rfl
  | unary operator _ inductionHypothesis => rw [evaluate, evaluate, inductionHypothesis]
  | binary operator _ _ leftSame rightSame => rw [evaluate, evaluate, leftSame, rightSame]
  | isNull _ inductionHypothesis => rw [evaluate, evaluate, inductionHypothesis]
  | among _ _ operandSame elementsSame =>
      rw [evaluate, evaluate, operandSame, evaluateAll_congr elementsSame]
  | call function _ argumentsSame => rw [evaluate, evaluate, evaluateAll_congr argumentsSame]

theorem evaluateKey_veiled {term : Term} (reads : term.ReadsShown hides) (row aggregates : Cells) :
    term.evaluateKey (row.veiled hides) aggregates = term.evaluateKey row aggregates := by
  rw [evaluateKey, evaluate_veiled reads, evaluateKey]

end Term

/-! ## Aggregates -/

namespace Aggregate

theorem cellsOf_veiled (aggregate : Aggregate) {argument : Term}
    (reads : argument.ReadsShown hides) (rows : List Cells) :
    aggregate.cellsOf argument (rows.map (Cells.veiled hides)) = aggregate.cellsOf argument rows := by
  have same : ((rows.map (Cells.veiled hides)).map fun row => argument.evaluate row []) =
      rows.map fun row => argument.evaluate row [] := by
    rw [List.map_map]
    exact List.map_congr_left fun row _ => Term.evaluate_veiled reads row []
  rw [cellsOf, same, ← cellsOf]

theorem compute_veiled {aggregate : Aggregate}
    (reads : aggregate.Reads fun position => hides position = false) (rows : List Cells) :
    aggregate.compute (rows.map (Cells.veiled hides)) = aggregate.compute rows := by
  cases argument : aggregate.argument with
  | none => simp [compute, argument]
  | some term =>
      simp only [compute, argument, cellsOf_veiled aggregate (reads term argument)]

theorem extremeRow_veiled {argument : Term} (reads : argument.ReadsShown hides)
    (better : Ordering) (rows : List Cells) :
    extremeRow argument better (rows.map (Cells.veiled hides)) =
      (extremeRow argument better rows).map (Cells.veiled hides) := by
  cases rows with
  | nil => rfl
  | cons first rest =>
      rw [List.map_cons, extremeRow, extremeRow, Option.map_some, List.foldl_map]
      refine congrArg some ?_
      induction rest generalizing first with
      | nil => rfl
      | cons second others inductionHypothesis =>
          rw [List.foldl_cons, List.foldl_cons, ← inductionHypothesis]
          simp only [Term.evaluate_veiled reads]
          split <;> rfl

theorem representative_veiled {aggregates : List Aggregate}
    (read : ∀ aggregate ∈ aggregates, aggregate.Reads fun position => hides position = false)
    (rows : List Cells) :
    representative aggregates (rows.map (Cells.veiled hides)) =
      (representative aggregates rows).map (Cells.veiled hides) := by
  rw [representative, representative]
  split
  · next isLast =>
      obtain ⟨aggregate, member, isExtreme⟩ :=
        List.mem_filterMap.mp (List.mem_of_mem_getLast? isLast)
      split at isExtreme
      · next isArgument =>
          cases isExtreme
          exact extremeRow_veiled (read aggregate member _ isArgument) _ rows
      · cases isExtreme
  · exact List.head?_map

end Aggregate

/-! ## Groups -/

namespace Group

def veiled (hides : Nat → Bool) (group : Group) : Group :=
  { group with rows := group.rows.map (Cells.veiled hides) }

theorem insert_veiled (key row : Cells) (groups : List Group) :
    insert key (row.veiled hides) (groups.map (veiled hides)) =
      (insert key row groups).map (veiled hides) := by
  induction groups with
  | nil => rfl
  | cons group rest inductionHypothesis =>
      have sameKey : (group.veiled hides).key = group.key := rfl
      rw [List.map_cons, insert, insert, sameKey]
      split
      · rfl
      · simp [veiled]
      · rw [inductionHypothesis]
        rfl

theorem ofRows_veiled {keys : List Term} (read : ∀ term ∈ keys, term.ReadsShown hides)
    (rows : List Cells) :
    ofRows keys (rows.map (Cells.veiled hides)) = (ofRows keys rows).map (veiled hides) := by
  rw [ofRows, ofRows, List.foldl_map]
  have inserted (groups : List Group) :
      rows.foldl (fun groups row => insert
          (keys.map (Term.evaluateKey (row.veiled hides) [])) (row.veiled hides) groups)
          (groups.map (veiled hides)) =
        (rows.foldl (fun groups row => insert (keys.map (Term.evaluateKey row [])) row groups)
          groups).map (veiled hides) := by
    induction rows generalizing groups with
    | nil => rfl
    | cons row rest inductionHypothesis =>
        have sameKeys : keys.map (Term.evaluateKey (row.veiled hides) []) =
            keys.map (Term.evaluateKey row []) :=
          List.map_congr_left fun term member => Term.evaluateKey_veiled (read term member) row []
        rw [List.foldl_cons, List.foldl_cons, sameKeys, insert_veiled, inductionHypothesis]
  exact inserted []

end Group

/-! ## Clauses -/

namespace Database

def SelectedRow.veiled (hides : Nat → Bool) (row : SelectedRow) : SelectedRow :=
  { row with cells := row.cells.veiled hides }

variable {resolved : ResolvedClauses}

theorem mapM_congr {Item Found : Type} {first second : Item → Except String Found}
    {items : List Item} (same : ∀ item ∈ items, first item = second item) :
    items.mapM first = items.mapM second := by
  induction items with
  | nil => rfl
  | cons item rest inductionHypothesis =>
      obtain ⟨own, others⟩ := List.forall_mem_cons.mp same
      rw [List.mapM_cons, List.mapM_cons, own, inductionHypothesis others]

theorem passes_veiled {filter : Option Term} (reads : ∀ term ∈ filter, term.ReadsShown hides)
    (row : SelectedRow) : passes filter (row.veiled hides) = passes filter row := by
  cases filter with
  | none => rfl
  | some term =>
      have same := Term.evaluate_veiled (reads term rfl) row.cells row.aggregates
      simp only [passes, Option.all_some, Term.holds, SelectedRow.veiled, same]

theorem computeGroup_veiled (width : Nat) {aggregates : List Aggregate}
    (read : ∀ aggregate ∈ aggregates, aggregate.Reads fun position => hides position = false)
    (rows : List Cells) :
    computeGroup width aggregates (rows.map (Cells.veiled hides)) =
      (computeGroup width aggregates rows).map (SelectedRow.veiled hides) := by
  have computed :
      (aggregates.mapM fun aggregate => aggregate.compute (rows.map (Cells.veiled hides))) =
        aggregates.mapM fun aggregate => aggregate.compute rows :=
    mapM_congr fun aggregate member => Aggregate.compute_veiled (read aggregate member) rows
  have shown :
      (Aggregate.representative aggregates (rows.map (Cells.veiled hides))).getD
          (List.replicate width .null) =
        ((Aggregate.representative aggregates rows).getD
          (List.replicate width .null)).veiled hides := by
    rw [Aggregate.representative_veiled read]
    cases Aggregate.representative aggregates rows with
    | none => exact (Cells.veiled_replicate width).symm
    | some row => rfl
  rw [computeGroup, computeGroup, computed, shown]
  cases aggregates.mapM fun aggregate => aggregate.compute rows <;> rfl

/-- The groups of veiled rows are the veiled groups. -/
theorem formGroups_veiled (width : Nat)
    (reads : resolved.Reads fun position => hides position = false) (rows : List Cells) :
    formGroups width resolved (rows.map (Cells.veiled hides)) =
      (formGroups width resolved rows).map (List.map (SelectedRow.veiled hides)) := by
  rw [formGroups, formGroups]
  split
  · rw [List.map_map, Except.map, List.map_map]
    rfl
  · split
    · rw [computeGroup_veiled width reads.aggregates]
      cases computeGroup width resolved.aggregates rows <;> rfl
    · rw [Group.ofRows_veiled reads.groups]
      induction Group.ofRows resolved.groups rows with
      | nil => rfl
      | cons group rest inductionHypothesis =>
          have own : computeGroup width resolved.aggregates (group.veiled hides).rows = _ :=
            computeGroup_veiled width reads.aggregates group.rows
          rw [List.map_cons, List.mapM_cons, List.mapM_cons, inductionHypothesis, own]
          cases computeGroup width resolved.aggregates group.rows with
          | error reason => rfl
          | ok first =>
              cases rest.mapM fun group => computeGroup width resolved.aggregates group.rows <;> rfl

theorem orderOf_veiled {orders : List (Term × Bool)}
    (read : ∀ order ∈ orders, order.1.ReadsShown hides) (left right : SelectedRow) :
    orderOf orders (left.veiled hides) (right.veiled hides) = orderOf orders left right := by
  induction orders with
  | nil => rfl
  | cons order rest inductionHypothesis =>
      obtain ⟨own, others⟩ := List.forall_mem_cons.mp read
      obtain ⟨term, descending⟩ := order
      have leftSame := Term.evaluateKey_veiled own left.cells left.aggregates
      have rightSame := Term.evaluateKey_veiled own right.cells right.aggregates
      rw [orderOf, orderOf, inductionHypothesis others]
      simp only [SelectedRow.veiled, leftSame, rightSame]

theorem arrange_veiled {orders : List (Term × Bool)}
    (read : ∀ order ∈ orders, order.1.ReadsShown hides) (rows : List SelectedRow) :
    arrange orders (rows.map (SelectedRow.veiled hides)) =
      (arrange orders rows).map (SelectedRow.veiled hides) := by
  rw [arrange, arrange]
  refine (List.map_mergeSort fun left _ right _ => ?_).symm
  rw [orderOf_veiled read]

theorem cut_map {First Second : Type} (change : First → Second) (limit offset : Option Int)
    (rows : List First) : cut limit offset (rows.map change) = (cut limit offset rows).map change := by
  cases limit with
  | none => exact List.map_drop.symm
  | some limit =>
      simp only [cut]
      split
      · exact List.map_drop.symm
      · rw [List.map_take, List.map_drop]

/-- The cells that a filter keeps are the same ones. -/
theorem filter_veiled {filter : Option Term} (reads : ∀ term ∈ filter, term.ReadsShown hides)
    (rows : List Cells) :
    ((rows.map (Cells.veiled hides)).filter fun row => passes filter ⟨row, []⟩) =
      (rows.filter fun row => passes filter ⟨row, []⟩).map (Cells.veiled hides) := by
  rw [List.filter_map]
  refine congrArg (List.map _) (List.filter_congr fun row _ => ?_)
  exact passes_veiled reads ⟨row, []⟩

theorem having_veiled {filter : Option Term} (reads : ∀ term ∈ filter, term.ReadsShown hides)
    (rows : List SelectedRow) :
    (rows.map (SelectedRow.veiled hides)).filter (passes filter) =
      (rows.filter (passes filter)).map (SelectedRow.veiled hides) := by
  rw [List.filter_map]
  exact congrArg (List.map _) (List.filter_congr fun row _ => passes_veiled reads row)

theorem project_veiled (width : Nat) {result : Option Term}
    (reads : ∀ term ∈ result, term.ReadsShown hides) (row : SelectedRow) :
    project width result (row.veiled hides) =
      if result.isSome then project width result row
      else (project width result row).veiled hides := by
  cases result with
  | none => exact (Cells.veiled_take row.cells width).symm
  | some term =>
      exact congrArg (fun cell => [cell])
        (Term.evaluate_veiled (reads term rfl) row.cells row.aggregates)

variable {named : String → Prop} {database veiled : Database} {clauses : SelectClauses}
  {result : Option SqlExpression} {scope : Scope} {rows : List Cells}

/-- Clauses over columns that are not hidden select the same rows of a veiled table that is
visited in the same order; only what is shown of hidden columns differs. -/
theorem select_veiled (places : scope.Places named fun position => hides position = false)
    (columns : clauses.ColumnsIn named) (resultColumns : ∀ one ∈ result, one.ColumnsIn named)
    (source : database.source? clauses.table = some (scope, rows))
    (veiledSource : veiled.source? clauses.table = some (scope, rows.map (Cells.veiled hides)))
    (visits : veiled.visited clauses result (rows.map (Cells.veiled hides)) =
      (database.visited clauses result rows).map (Cells.veiled hides))
    (visitsGroups : ∀ groups,
      veiled.visitedGroups clauses result (groups.map (SelectedRow.veiled hides)) =
        (database.visitedGroups clauses result groups).map (SelectedRow.veiled hides)) :
    veiled.select clauses result =
      (database.select clauses result).map
        (List.map fun cells => if result.isSome then cells else cells.veiled hides) := by
  rw [select, select, source, veiledSource]
  dsimp only
  cases resolves : resolveClauses scope clauses result with
  | error reason => rfl
  | ok resolved =>
      obtain ⟨reads, sameResult⟩ :=
        reads_of_resolveClauses places columns resultColumns resolves
      cases pageNumber scope clauses.limit with
      | error reason => rfl
      | ok limit =>
          cases pageNumber scope clauses.offset with
          | error reason => rfl
          | ok offset =>
              let kept := (database.visited clauses result rows).filter fun row =>
                passes resolved.filter ⟨row, []⟩
              have formed := formGroups_veiled scope.columns.length reads kept
              have shown (chosen : List SelectedRow) :
                  (chosen.map (SelectedRow.veiled hides)).map
                      (project scope.columns.length resolved.result) =
                    (chosen.map (project scope.columns.length resolved.result)).map fun cells =>
                      if result.isSome then cells else cells.veiled hides := by
                rw [List.map_map, List.map_map]
                refine List.map_congr_left fun row _ => ?_
                rw [← sameResult]
                exact project_veiled _ reads.result row
              simp only [bind, Except.bind, pure, Except.pure, visits, filter_veiled reads.filter]
              rw [show formGroups scope.columns.length resolved (kept.map (Cells.veiled hides)) = _
                from formed]
              cases formGroups scope.columns.length resolved kept with
              | error reason => rfl
              | ok grouped =>
                  have found :
                      (if resolved.isGrouped then veiled.visitedGroups clauses result
                          (grouped.map (SelectedRow.veiled hides))
                        else grouped.map (SelectedRow.veiled hides)) =
                        (if resolved.isGrouped then database.visitedGroups clauses result grouped
                          else grouped).map (SelectedRow.veiled hides) := by
                    rw [visitsGroups]
                    split <;> rfl
                  simp only [Except.map, found, having_veiled reads.having,
                    arrange_veiled reads.orders, cut_map, shown]

end Database

end TableGraph
