import TableGraph.Proofs.Database.Steps

/-!
# Names of tables

A change of a database leaves the names of its tables as they are, but for the tables that
it defines or drops.  A new name differs from the others, whatever the case of its letters,
and is not reserved.  So names that are proper stay so whatever scripts are carried out
(`Database.HasProperNames.executeScripts`).
-/

namespace TableGraph

open SqlToken (sameName)

namespace Database

variable {database changed : Database} {table filled : StoredTable} {name : String}

def tableNames (database : Database) : List String :=
  database.tables.map fun table => table.definition.name

theorem pairwise_append_of_absent
    (apart : database.tableNames.Pairwise fun left right => sameName left right = false)
    (absent : database.table? name = none) :
    (database.tableNames ++ [name]).Pairwise fun left right => sameName left right = false := by
  rw [List.pairwise_append]
  refine ⟨apart, List.pairwise_singleton _ name, fun other isOther last isLast => ?_⟩
  obtain ⟨stored, isStored, rfl⟩ := List.mem_map.mp isOther
  rw [List.mem_singleton.mp isLast]
  exact Bool.eq_false_of_not_eq_true (List.find?_eq_none.mp absent stored isStored)

/-! ## Proper names -/

/-- The names of tables that the engine allows. -/
structure HasProperNames (database : Database) : Prop where
  distinct : database.tableNames.Pairwise fun left right => sameName left right = false
  unreserved : ∀ name ∈ database.tableNames, hasReservedBeginning name = false

theorem hasProperNames_empty : empty.HasProperNames :=
  ⟨List.Pairwise.nil, fun _ member => absurd member List.not_mem_nil⟩

namespace HasProperNames

theorem nodup (proper : database.HasProperNames) : database.tableNames.Nodup := by
  refine proper.distinct.imp fun {left right} different same => ?_
  rw [same, SqlToken.sameName_iff.mpr rfl] at different
  cases different

theorem of_sublist (proper : database.HasProperNames)
    (fewer : changed.tableNames.Sublist database.tableNames) : changed.HasProperNames :=
  ⟨proper.distinct.sublist fewer, fun name member => proper.unreserved name (fewer.subset member)⟩

theorem replace (proper : database.HasProperNames) (found : database.table? name = some table)
    (named : filled.definition.name = table.definition.name) :
    (database.replace filled).HasProperNames := by
  have kept : (database.replace filled).tableNames = database.tableNames :=
    (tables_replace proper.distinct (mem_of_table? found) named).1
  exact proper.of_sublist (kept ▸ List.Sublist.refl _)

theorem define (proper : database.HasProperNames) (absent : database.table? name = none)
    (unreserved : hasReservedBeginning name = false)
    (added : changed.tableNames = database.tableNames ++ [name]) : changed.HasProperNames := by
  constructor
  · exact added ▸ pairwise_append_of_absent proper.distinct absent
  · intro other isOther
    rw [added] at isOther
    rcases List.mem_append.mp isOther with before | isNew
    · exact proper.unreserved other before
    · rwa [List.mem_singleton.mp isNew]

/-- A step keeps the names proper. -/
theorem step (steps : database.Steps changed) (proper : database.HasProperNames) :
    changed.HasProperNames := by
  cases steps with
  | stay => exact proper
  | define absent unreserved defines =>
      obtain ⟨rfl, _⟩ := TableDraft.toDefinition_eq_ok defines
      exact proper.define absent unreserved List.map_append
  | @extend table _ draft found =>
      have replaced : (database.replace (table.extend draft)).HasProperNames :=
        proper.replace found rfl
      exact ⟨replaced.distinct, replaced.unreserved⟩
  | drop fewer _ => exact proper.of_sublist (fewer.map _)
  | rewrite found rewrites _ =>
      exact proper.replace found (congrArg TableDefinition.name rewrites.definition_eq)

/-- Scripts keep the names proper, also those that fail on the way. -/
theorem executeScripts (proper : database.HasProperNames) (scripts : List String) :
    (database.executeScripts scripts).HasProperNames :=
  executeScripts_induction (fun _ _ => step) scripts proper

end HasProperNames

/-- The names of tables are distinct in every database that scripts make. -/
theorem nodup_tableNames_executeScripts (scripts : List String) :
    (empty.executeScripts scripts).tableNames.Nodup :=
  (hasProperNames_empty.executeScripts scripts).nodup

end Database

end TableGraph
