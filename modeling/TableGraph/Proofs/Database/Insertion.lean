import TableGraph.Proofs.Database.Consistency

/-!
# Rewritten tables

A row is inserted as its columns store it and only when it agrees with no other row on a
key, so a consistent table stays consistent (`StoredTable.IsConsistent.insert`), whatever rows
are inserted and left out one after the other (`StoredTable.Rewrites.isConsistent`).
-/

namespace TableGraph

/-! ## Storing twice -/

namespace Affinity

theorem preferNumber_preferNumber (cell : Cell) :
    preferNumber (preferNumber cell) = preferNumber cell := by
  cases cell with
  | text bytes =>
      obtain stays | ⟨value, isInteger⟩ | ⟨value, _, isReal⟩ := numberOf_cases bytes
      · simp only [preferNumber, stays]
      · simp only [preferNumber, isInteger]
      · simp only [preferNumber, isReal]
  | _ => rfl

theorem preferNumber_preferWhole {cell : Cell} (isNumber : preferNumber cell = cell) :
    preferNumber (preferWhole cell) = preferWhole cell := by
  cases cell with
  | real value =>
      rw [preferWhole, wholeOf]
      split <;> rfl
  | _ => exact isNumber

theorem preferWhole_preferWhole (cell : Cell) : preferWhole (preferWhole cell) = preferWhole cell := by
  cases cell with
  | real value =>
      by_cases whole : (value.isIntegral && -(signedBound : Int) < value.truncate &&
          value.truncate < signedBound - 1) = true
      · rw [preferWhole, wholeOf, if_pos whole]
        rfl
      · have stays : preferWhole (.real value) = .real value := if_neg whole
        rw [stays, stays]
  | _ => rfl

theorem preferNumber_preferReal {cell : Cell} (isNumber : preferNumber cell = cell) :
    preferNumber (preferReal cell) = preferReal cell := by
  cases cell with
  | text bytes => exact isNumber
  | _ => rfl

theorem preferReal_preferReal (cell : Cell) : preferReal (preferReal cell) = preferReal cell := by
  have twice (value : Double) : preferReal (preferReal (.real value)) = preferReal (.real value) := by
    by_cases isZero : value.isZero = true
    · have positive : preferReal (.real value) = .real (.zero false) := by
        rw [preferReal, if_pos isZero]
      rw [positive]
      rfl
    · have stays : preferReal (.real value) = .real value := by
        rw [preferReal, if_neg isZero]
      rw [stays, stays]
  cases cell with
  | real value => exact twice value
  | integer value =>
      by_cases isZero : value.toInt = 0
      · rw [preferReal, isZero]
        rfl
      · have nonzero : (Double.ofInteger value.toInt).isZero = false :=
          Double.isZero_ofRatio_one (Int.natAbs_pos.mpr isZero)
        rw [preferReal, preferReal, nonzero]
        rfl
  | _ => rfl

/-- What is stored is stored as it is. -/
theorem store_store (affinity : Affinity) (cell : Cell) :
    affinity.store (affinity.store cell) = affinity.store cell := by
  have isNumber := preferNumber_preferNumber cell
  cases affinity with
  | blob => rfl
  | text => cases cell <;> rfl
  | real =>
      simp only [store]
      rw [preferNumber_preferReal isNumber, preferReal_preferReal]
  | _ =>
      simp only [store]
      rw [preferNumber_preferWhole isNumber, preferWhole_preferWhole]

end Affinity

theorem ColumnDefinition.store_store (column : ColumnDefinition) (cell : Cell) :
    column.store (column.store cell) = column.store cell := by
  have ordered : (column.store cell).isOrdered = true := column.isOrdered_store cell
  rw [store, Cell.storable_of_isOrdered ordered]
  exact column.affinity.store_store cell.storable

namespace StoredTable

variable {table inserted : StoredTable} {given : Option Int64} {cells : Cells}

/-- The cells of a row that gets a number. -/
def numbered (table : StoredTable) (number : Int64) (cells : Cells) : Cells :=
  match table.definition.rowidPosition? with
  | some position => (table.storeCells cells).set position (.integer number)
  | none => table.storeCells cells

theorem insert_of_numberFor {number : Int64}
    (numbers : table.numberFor given (table.storeCells cells) = .ok number) :
    table.insert given cells =
      if table.lacksCell (table.numbered number cells) then .error "NOT NULL constraint failed"
      else if table.rows.any fun row => (table.definition.hasRowid && row.number == number) ||
          table.keys.any fun key => table.agree key (table.numbered number cells) row.cells then
        .error "UNIQUE constraint failed"
      else .ok { table with
        rows := place table.precedes ⟨number, table.numbered number cells⟩ table.rows } := by
  rw [insert, numbers]
  unfold numbered
  cases table.definition.rowidPosition? with
  | none =>
      simp only [bind, Except.bind]
      split
      · rfl
      · rfl
  | some position =>
      simp only [bind, Except.bind]
      split
      · rfl
      · rfl

/-- What an insertion does. -/
theorem insert_eq_ok (inserts : table.insert given cells = .ok inserted) :
    ∃ number, (∀ row ∈ table.rows, ∀ key ∈ table.keys,
        table.agree key (table.numbered number cells) row.cells = false) ∧
      inserted = { table with
        rows := place table.precedes ⟨number, table.numbered number cells⟩ table.rows } := by
  cases numbers : table.numberFor given (table.storeCells cells) with
  | error reason =>
      rw [insert, numbers] at inserts
      cases inserts
  | ok number =>
      rw [insert_of_numberFor numbers] at inserts
      split at inserts
      · cases inserts
      · split at inserts
        · cases inserts
        · next _ conflicts =>
            refine ⟨number, fun row isRow key isKey => ?_, (Except.ok.inj inserts).symm⟩
            rw [List.any_eq_true, not_exists] at conflicts
            refine Bool.eq_false_of_not_eq_true fun agrees => conflicts row ⟨isRow, ?_⟩
            exact Bool.or_eq_true_iff.mpr (Or.inr (List.any_eq_true.mpr ⟨key, isKey, agrees⟩))

theorem place_perm (precedes : StoredRow → StoredRow → Bool) (row : StoredRow)
    (rows : List StoredRow) : (place precedes row rows).Perm (row :: rows) := by
  induction rows with
  | nil => exact List.Perm.refl _
  | cons head tail inductionHypothesis =>
      rw [place]
      split
      · exact List.Perm.refl _
      · exact (inductionHypothesis.cons head).trans (List.Perm.swap row head tail)

theorem pairwise_place {relation : StoredRow → StoredRow → Prop}
    (precedes : StoredRow → StoredRow → Bool) {row : StoredRow} {rows : List StoredRow}
    (apart : rows.Pairwise relation) (before : ∀ other ∈ rows, relation row other)
    (behind : ∀ other ∈ rows, relation other row) :
    (place precedes row rows).Pairwise relation := by
  induction rows with
  | nil => exact List.pairwise_singleton _ _
  | cons head tail inductionHypothesis =>
      obtain ⟨headApart, tailApart⟩ := List.pairwise_cons.mp apart
      rw [place]
      split
      · exact List.pairwise_cons.mpr ⟨before, apart⟩
      · refine List.pairwise_cons.mpr ⟨fun other member => ?_, inductionHypothesis tailApart
          (fun other member => before other (List.mem_cons_of_mem _ member))
          (fun other member => behind other (List.mem_cons_of_mem _ member))⟩
        rcases List.mem_cons.mp ((place_perm precedes row tail).mem_iff.mp member) with rfl | isTail
        · exact behind head List.mem_cons_self
        · exact headApart other isTail

/-! ## The inserted row -/

variable {position : Nat} {number : Int64}

theorem getElem?_storeCells (table : StoredTable) (cells : Cells) (position : Nat) :
    (table.storeCells cells)[position]? =
      (table.definition.columns[position]?).bind fun column =>
        (cells[position]?).map column.store := by
  rw [storeCells, List.getElem?_zipWith]
  cases table.definition.columns[position]? <;> cases cells[position]? <;> rfl

theorem storeCells_storeCells (table : StoredTable) (cells : Cells) :
    table.storeCells (table.storeCells cells) = table.storeCells cells := by
  refine List.ext_getElem? fun position => ?_
  rw [getElem?_storeCells, getElem?_storeCells]
  cases table.definition.columns[position]? with
  | none => rfl
  | some column =>
      cases cells[position]? with
      | none => rfl
      | some cell => exact congrArg some (column.store_store cell)

/-- The number of a row is an integer. -/
theorem affinity_of_rowidPosition? (isNumber : table.definition.rowidPosition? = some position) :
    ∃ column, table.definition.columns[position]? = some column ∧ column.affinity = .integer := by
  unfold TableDefinition.rowidPosition? at isNumber
  split at isNumber
  · obtain ⟨column, isColumn, numbers⟩ := Option.bind_eq_some_iff.mp isNumber
    split at numbers
    · next _ integer =>
        obtain rfl := Option.some.inj numbers
        have declared := eq_of_beq (Bool.and_eq_true_iff.mp integer).2
        have upper : column.type.declared.toList.map Char.toUpper = "INTEGER".toList := by
          rw [← declared, SqlToken.upperCase, String.toList_ofList]
        refine ⟨column, isColumn, ?_⟩
        rw [ColumnDefinition.affinity, Affinity.ofDeclaredType, upper]
        decide
    · cases numbers
  · cases isNumber

theorem storeCells_numbered (table : StoredTable) (number : Int64) (cells : Cells) :
    table.storeCells (table.numbered number cells) = table.numbered number cells := by
  unfold numbered
  split
  · next position isNumber =>
      obtain ⟨column, isColumn, integer⟩ := affinity_of_rowidPosition? isNumber
      refine List.ext_getElem? fun other => ?_
      rw [getElem?_storeCells, List.getElem?_set]
      by_cases same : position = other
      · subst same
        rw [if_pos rfl, isColumn, Option.bind_some]
        unfold ColumnDefinition.store
        rw [integer]
        split <;> rfl
      · rw [if_neg same, ← getElem?_storeCells, storeCells_storeCells]
  · exact table.storeCells_storeCells cells

theorem length_numbered (number : Int64) (width : cells.length = table.definition.columns.length) :
    (table.numbered number cells).length = table.definition.columns.length := by
  unfold numbered
  split <;> simp [storeCells, width]

/-! ## Consistency -/

/-- A consistent table stays consistent when a row is inserted. -/
theorem IsConsistent.insert (consistent : table.IsConsistent)
    (width : cells.length = table.definition.columns.length)
    (inserts : table.insert given cells = .ok inserted) : inserted.IsConsistent := by
  obtain ⟨number, apart, rfl⟩ := insert_eq_ok inserts
  let row : StoredRow := ⟨number, table.numbered number cells⟩
  have stored := table.storeCells_numbered number cells
  -- The order of the rows does not matter for what each of them is.
  have each {property : StoredRow → Prop} (ofRow : property row)
      (ofRows : ∀ other ∈ table.rows, property other) :
      ∀ other ∈ place table.precedes row table.rows, property other := by
    intro other member
    rcases List.mem_cons.mp ((place_perm _ _ _).mem_iff.mp member) with rfl | before
    · exact ofRow
    · exact ofRows other before
  exact
    { distinct := consistent.distinct
      known := consistent.known
      width := each (length_numbered number width) consistent.width
      stored := each stored consistent.stored
      keys := fun key isKey => pairwise_place table.precedes (consistent.keys key isKey)
        (fun other isRow => apart other isRow key isKey)
        (fun other isRow => (table.agree_comm (consistent.isOrdered isRow)
          (isOrdered_of_storeCells stored) key).trans (apart other isRow key isKey)) }

/-! ## Rewriting a table -/

/-- A table comes from another one by inserting rows, as wide as the table or as a row of it,
and by leaving rows out. -/
inductive Rewrites (table : StoredTable) : StoredTable → Prop
  | start : Rewrites table table
  | insert {before after : StoredTable} {given : Option Int64} {cells : Cells} :
      Rewrites table before →
      (cells.length = table.definition.columns.length ∨
        ∃ row ∈ table.rows, cells.length = row.cells.length) →
      before.insert given cells = .ok after → Rewrites table after
  | leaveOut {before : StoredTable} {rows : List StoredRow} :
      Rewrites table before → rows.Sublist before.rows → Rewrites table { before with rows := rows }

namespace Rewrites

variable {before after : StoredTable}

theorem definition_eq (rewrites : table.Rewrites after) : after.definition = table.definition := by
  induction rewrites with
  | start => rfl
  | insert _ _ inserts inductionHypothesis =>
      obtain ⟨_, _, rfl⟩ := insert_eq_ok inserts
      exact inductionHypothesis
  | leaveOut _ _ inductionHypothesis => exact inductionHypothesis

theorem isConsistent (consistent : table.IsConsistent) (rewrites : table.Rewrites after) :
    after.IsConsistent := by
  induction rewrites with
  | start => exact consistent
  | insert rewrites width inserts inductionHypothesis =>
      refine inductionHypothesis.insert ?_ inserts
      rw [rewrites.definition_eq]
      obtain wide | ⟨row, isRow, wide⟩ := width
      · exact wide
      · exact wide.trans (consistent.width row isRow)
  | leaveOut _ fewer inductionHypothesis =>
      exact
        { distinct := inductionHypothesis.distinct
          known := inductionHypothesis.known
          width := fun row isRow => inductionHypothesis.width row (fewer.subset isRow)
          stored := fun row isRow => inductionHypothesis.stored row (fewer.subset isRow)
          keys := fun key isKey => (inductionHypothesis.keys key isKey).sublist fewer }

/-- Steps that rewrite a table rewrite it when they are carried out one after the other. -/
theorem foldlM {Item : Type} {step : StoredTable → Item → Except String StoredTable}
    {items : List Item} {filled : StoredTable} (rewrites : table.Rewrites before)
    (steps : ∀ item ∈ items, ∀ current following, table.Rewrites current →
      step current item = .ok following → table.Rewrites following)
    (runs : items.foldlM step before = .ok filled) : table.Rewrites filled := by
  induction items generalizing before with
  | nil => exact Except.ok.inj runs ▸ rewrites
  | cons head tail inductionHypothesis =>
      rw [List.foldlM_cons] at runs
      obtain ⟨following, first, runs⟩ := bind_eq_ok runs
      exact inductionHypothesis (steps head List.mem_cons_self _ _ rewrites first)
        (fun item member => steps item (List.mem_cons_of_mem head member)) runs

end Rewrites

end StoredTable

end TableGraph
