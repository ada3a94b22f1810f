import TableGraph.Database.Script
import TableGraph.Proofs.Database.Insertion

/-!
# Steps of a database

A change defines a table, extends one, drops one or rewrites the rows of one
(`Database.steps_of_apply`).  A script is a sequence of such steps, so whatever each of them
keeps is true of every database that scripts make (`Database.execute_induction`).
-/

namespace TableGraph

open SqlToken (sameName)

namespace TableDraft

/-- A table that is defined has columns of different names, of which its keys consist. -/
theorem toDefinition_eq_ok {draft : TableDraft} {definition : TableDefinition}
    (defines : draft.toDefinition = .ok definition) :
    definition = draft.definition ∧
      distinctNames (definition.columns.map ColumnDefinition.name) = true ∧
      ∀ name ∈ definition.keyColumns, (definition.position? name).isSome = true := by
  unfold toDefinition at defines
  simp only [bind, Except.bind, throw, throwThe, MonadExceptOf.throw] at defines
  split at defines
  · cases defines
  · next repeated =>
      split at defines
      · cases defines
      · split at defines
        · cases defines
        · split at defines
          · cases defines
          · next unknown =>
              obtain rfl := Except.ok.inj defines
              rw [Bool.not_eq_true', Bool.not_eq_false] at repeated unknown
              exact ⟨rfl, repeated, List.all_eq_true.mp unknown⟩

end TableDraft

/-- A new column refers to nothing: it has no references, holds nothing in every row, or there
is no row. -/
def StoredTable.SparesReferences (table : StoredTable) (draft : ColumnDraft) : Prop :=
  draft.references = [] ∨ (draft.column.store draft.column.initial).isNull = true ∨ table.rows = []

namespace Database

variable {database changed : Database} {table filled : StoredTable} {name : String}

/-! ## Tables that are replaced -/

section Replacing

variable (apart : (database.tables.map fun table => table.definition.name).Pairwise
  fun left right => sameName left right = false)

include apart

theorem eq_of_sameName {other : StoredTable} (member : table ∈ database.tables)
    (otherMember : other ∈ database.tables)
    (same : sameName other.definition.name table.definition.name = true) : other = table := by
  have names := SqlToken.sameName_iff.mp same
  have found := table?_of_pairwise apart otherMember
  simp only [table?, sameName, names] at found
  exact Option.some.inj (found.symm.trans (table?_of_pairwise apart member))

theorem tables_replace (member : table ∈ database.tables)
    (named : filled.definition.name = table.definition.name) :
    ((database.replace filled).tables.map fun table => table.definition.name) =
        (database.tables.map fun table => table.definition.name) ∧
      ∀ other ∈ (database.replace filled).tables, other = filled ∨ other ∈ database.tables := by
  constructor
  · rw [replace, List.map_map]
    refine List.map_congr_left fun other isOther => ?_
    simp only [Function.comp_apply]
    split
    · next sameName =>
        rw [named] at sameName
        rw [eq_of_sameName apart member isOther sameName, named]
    · rfl
  · intro other isOther
    obtain ⟨before, isBefore, rfl⟩ := List.mem_map.mp isOther
    split
    · exact Or.inl rfl
    · exact Or.inr isBefore

end Replacing

theorem table?_replace {name : String} {found : StoredTable}
    (isFound : database.table? name = some found) (filled : StoredTable) :
    (database.replace filled).table? name =
      some (if sameName found.definition.name filled.definition.name then filled else found) := by
  have same : ((fun table : StoredTable => sameName table.definition.name name) ∘ fun other =>
      if sameName other.definition.name filled.definition.name then filled else other) =
      fun table => sameName table.definition.name name := by
    funext other
    rw [Function.comp_apply]
    split
    · next replaced => rw [sameName, sameName, SqlToken.sameName_iff.mp replaced]
    · rfl
  rw [table?, replace, List.find?_map, same]
  exact congrArg _ isFound

/-! ## What a change does -/

/-- What a change makes of a database. -/
inductive Steps (database : Database) : Database → Prop
  | stay : Steps database database
  | define {draft : TableDraft} {definition : TableDefinition} :
      database.table? draft.name = none → hasReservedBeginning draft.name = false →
      draft.toDefinition = .ok definition →
      Steps database (advance { database with tables := database.tables ++ [⟨definition, []⟩] })
  | extend {table : StoredTable} {name : String} {draft : ColumnDraft} :
      database.table? name = some table → table.definition.position? draft.column.name = none →
      table.SparesReferences draft →
      Steps database (advance (database.replace (table.extend draft)))
  | drop {tables : List StoredTable} :
      tables.Sublist database.tables →
      danglingCount { database with tables := tables } ≤ database.danglingCount →
      Steps database (advance { database with tables := tables })
  | rewrite {table filled : StoredTable} {name : String} :
      database.table? name = some table → table.Rewrites filled →
      (database.replace filled).danglingCount ≤ database.danglingCount →
      Steps database (database.replace filled)

theorem requireTable_eq_ok (required : database.requireTable name = .ok table) :
    database.table? name = some table := by
  rw [requireTable] at required
  cases found : database.table? name with
  | none =>
      rw [found] at required
      cases required
  | some other =>
      rw [found] at required
      exact congrArg some (Except.ok.inj required)

theorem enforce_eq_ok {enforced : Database} (enforces : database.enforce changed = .ok enforced) :
    enforced = changed ∧ changed.danglingCount ≤ database.danglingCount := by
  rw [enforce] at enforces
  split at enforces
  · cases enforces
  · next more => exact ⟨(Except.ok.inj enforces).symm, Nat.le_of_not_lt more⟩

theorem steps_of_create {draft : TableDraft} {unlessPresent : Bool}
    (creates : database.create draft unlessPresent = .ok changed) : database.Steps changed := by
  unfold create at creates
  by_cases present : (database.source? draft.name).isSome = true
  · rw [if_pos present] at creates
    cases unlessPresent with
    | false => cases creates
    | true => exact Except.ok.inj creates ▸ .stay
  · rw [if_neg present] at creates
    by_cases reserved : hasReservedBeginning draft.name = true
    · rw [if_pos reserved] at creates
      cases creates
    · rw [if_neg reserved] at creates
      obtain ⟨definition, defines, creates⟩ := bind_eq_ok creates
      have absent : database.table? draft.name = none := by
        cases found : database.table? draft.name with
        | none => rfl
        | some stored =>
            rw [source?, found] at present
            exact absurd rfl present
      exact Except.ok.inj creates ▸
        .define absent (Bool.eq_false_of_not_eq_true reserved) defines

theorem steps_of_addColumn {draft : ColumnDraft}
    (adds : database.addColumn name draft = .ok changed) : database.Steps changed := by
  obtain ⟨table, required, adds⟩ := bind_eq_ok adds
  simp only [bind, Except.bind, throw, throwThe, MonadExceptOf.throw] at adds
  split at adds
  · cases adds
  · split at adds
    · cases adds
    · next known =>
        split at adds
        · cases adds
        · next dangles =>
            split at adds
            · cases adds
            · have fresh : table.definition.position? draft.column.name = none := by
                simpa using known
              have spares : table.SparesReferences draft := by
                simp only [Bool.and_eq_true, Bool.not_eq_true', List.isEmpty_eq_false_iff,
                  not_and_or, not_not, Bool.not_eq_false, or_assoc] at dangles
                exact dangles
              exact Except.ok.inj adds ▸ .extend (requireTable_eq_ok required) fresh spares

theorem steps_of_drop {ifPresent : Bool} (drops : database.drop name ifPresent = .ok changed) :
    database.Steps changed := by
  unfold drop at drops
  by_cases isView : database.views.any (sameName name) = true
  · rw [if_pos isView] at drops
    cases drops
  · rw [if_neg isView] at drops
    cases found : database.table? name with
    | none =>
        rw [found] at drops
        cases ifPresent with
        | false => cases drops
        | true => exact Except.ok.inj drops ▸ .stay
    | some table =>
        rw [found] at drops
        obtain ⟨rfl, fewer⟩ := enforce_eq_ok drops
        exact .drop List.filter_sublist fewer

theorem length_arrangeCells {definition : TableDefinition} {columns : Option (List String)}
    {cells arranged : Cells} (arranges : arrangeCells definition columns cells = .ok arranged) :
    arranged.length = definition.columns.length := by
  cases columns with
  | none =>
      rw [arrangeCells] at arranges
      split at arranges
      · next width => exact Except.ok.inj arranges ▸ width
      · cases arranges
  | some names =>
      rw [arrangeCells] at arranges
      cases known : definition.positions? names with
      | none =>
          rw [known] at arranges
          cases arranges
      | some positions =>
          rw [known] at arranges
          simp only [bind, Except.bind] at arranges
          split at arranges
          · cases arranges
          · rw [← Except.ok.inj arranges, List.length_map, List.length_zipIdx]

theorem steps_of_insert {columns : Option (List String)} {rows : List Cells}
    (inserts : database.insert name columns rows = .ok changed) : database.Steps changed := by
  obtain ⟨_, _, inserts⟩ := bind_eq_ok inserts
  obtain ⟨_, _, inserts⟩ := bind_eq_ok inserts
  obtain ⟨written, writes, enforces⟩ := bind_eq_ok inserts
  obtain ⟨rfl, fewer⟩ := enforce_eq_ok enforces
  obtain ⟨table, required, writes⟩ := bind_eq_ok writes
  obtain ⟨filled, fills, replaced⟩ := bind_eq_ok writes
  obtain rfl := Except.ok.inj replaced
  refine .rewrite (requireTable_eq_ok required) ?_ fewer
  -- each row is put into what the rows before it made of the table
  refine StoredTable.Rewrites.start.foldlM (fun cells _ current following rewrites step => ?_) fills
  obtain ⟨arranged, arranges, inserts⟩ := bind_eq_ok step
  refine rewrites.insert (Or.inl ?_) inserts
  rw [length_arrangeCells arranges, rewrites.definition_eq]

/-- Selected rows are rows of their table. -/
theorem sublist_of_matching {filter : Option SqlExpression} {rows : List StoredRow}
    (selects : matching table filter = .ok rows) : rows.Sublist table.rows := by
  obtain ⟨_, _, selects⟩ := bind_eq_ok selects
  exact Except.ok.inj selects ▸ List.filter_sublist

theorem length_foldl_set {α β : Type} (value : β → α) (assigned : List (Nat × β)) (cells : List α) :
    (assigned.foldl (fun cells pair => cells.set pair.1 (value pair.2)) cells).length =
      cells.length := by
  induction assigned generalizing cells with
  | nil => rfl
  | cons head tail inductionHypothesis =>
      rw [List.foldl_cons, inductionHypothesis, List.length_set]

theorem steps_of_update {assignments : List (String × SqlExpression)}
    {filter : Option SqlExpression}
    (updates : database.update name assignments filter = .ok changed) : database.Steps changed := by
  obtain ⟨table, required, updates⟩ := bind_eq_ok updates
  dsimp only at updates
  split at updates
  · obtain ⟨_, _, updates⟩ := bind_eq_ok updates
    obtain ⟨_, _, updates⟩ := bind_eq_ok updates
    obtain ⟨selected, selects, updates⟩ := bind_eq_ok updates
    obtain ⟨filled, fills, enforces⟩ := bind_eq_ok updates
    obtain ⟨rfl, fewer⟩ := enforce_eq_ok enforces
    refine .rewrite (requireTable_eq_ok required) ?_ fewer
    -- a row is taken out before its new cells are put in, so it does not clash with itself
    refine StoredTable.Rewrites.start.foldlM
      (fun row isSelected current following rewrites step => ?_) fills
    have without : table.Rewrites (current.remove row) := rewrites.leaveOut List.filter_sublist
    refine without.insert (Or.inr ⟨row, (sublist_of_matching selects).subset isSelected, ?_⟩) step
    exact length_foldl_set (Term.evaluate row.visible []) _ row.cells
  · cases updates

theorem steps_of_delete {filter : Option SqlExpression}
    (deletes : database.delete name filter = .ok changed) : database.Steps changed := by
  obtain ⟨table, required, deletes⟩ := bind_eq_ok deletes
  obtain ⟨_, _, deletes⟩ := bind_eq_ok deletes
  obtain ⟨selected, _, enforces⟩ := bind_eq_ok deletes
  obtain ⟨rfl, fewer⟩ := enforce_eq_ok enforces
  exact .rewrite (requireTable_eq_ok required)
    (StoredTable.Rewrites.start.leaveOut List.filter_sublist) fewer

/-- A change that succeeds is a step. -/
theorem steps_of_apply {change : Change} (applies : change.apply database = .ok changed) :
    database.Steps changed := by
  cases change with
  | create draft unlessPresent => exact steps_of_create applies
  | addColumn name draft => exact steps_of_addColumn applies
  | drop name ifPresent => exact steps_of_drop applies
  | insert name columns expressions =>
      obtain ⟨_, _, inserts⟩ := bind_eq_ok applies
      exact steps_of_insert inserts
  | update name assignments filter => exact steps_of_update applies
  | delete name filter => exact steps_of_delete applies

/-! ## Scripts -/

/-- The database that scripts make one after the other, also when one fails on the way. -/
def executeScripts (scripts : List String) (database : Database) : Database :=
  scripts.foldl (fun database script => (database.execute script).2) database

section Kept

variable {property : Database → Prop}
  (kept : ∀ before after, Steps before after → property before → property after)

include kept

theorem executeAll_induction (statements : List (List SqlToken)) (holds : property database) :
    property (executeAll statements database).2 := by
  induction statements generalizing database with
  | nil => exact holds
  | cons head tail inductionHypothesis =>
      rw [executeAll]
      split
      · exact holds
      · split
        · next applies => exact inductionHypothesis (kept _ _ (steps_of_apply applies) holds)
        · exact holds

/-- What every step keeps is kept by a script, also by one that fails on the way. -/
theorem execute_induction (script : String) (holds : property database) :
    property (database.execute script).2 := by
  rw [execute]
  split
  · exact executeAll_induction kept _ holds
  · exact holds

/-- What every step keeps is kept by scripts. -/
theorem executeScripts_induction (scripts : List String) (holds : property database) :
    property (database.executeScripts scripts) := by
  induction scripts generalizing database with
  | nil => exact holds
  | cons head tail inductionHypothesis =>
      exact inductionHypothesis (execute_induction kept head holds)

end Kept

end Database

end TableGraph
