import TableGraph.Proofs.Database.Introspection
import TableGraph.Proofs.Sql.Like
import TableGraph.Proofs.Text.ByteOrder

/-!
# Listed tables

The structure of a database lists the tables whose names its pattern does not fit, each
once, in the byte order of their names (`Database.lists_of_not_isReserved`).  The names that
the engine keeps for itself begin with `sqlite_`; the pattern also fits a name with another
character in place of the underscore.  So the user tables are listed exactly when no table
has a name of this kind (`Database.lists_userTables_iff`).
-/

namespace TableGraph

open SqlToken (upperCase)

/-! ## Names and columns of a structure -/

namespace Structure

section Views

variable {View : Type} {view : Table → View}

theorem map_addReference (ignores : ∀ table hasMany, view { table with hasMany } = view table)
    (tables : List Table) (reference : Reference) :
    (addReference tables reference).map view = tables.map view := by
  induction tables with
  | nil => rfl
  | cons head tail inductionHypothesis =>
      rw [addReference]
      split
      · rw [List.map_cons, List.map_cons, ignores]
      · rw [List.map_cons, List.map_cons, inductionHypothesis]

/-- Inverse references change nothing else of the tables. -/
theorem map_ofTables (ignores : ∀ table hasMany, view { table with hasMany } = view table)
    (tables : List Table) : (ofTables tables).tables.map view = tables.map view := by
  have added (references : List Reference) (built : List Table) :
      (references.foldl addReference built).map view = built.map view := by
    induction references generalizing built with
    | nil => rfl
    | cons head tail inductionHypothesis =>
        rw [List.foldl_cons, inductionHypothesis, map_addReference ignores]
  rw [ofTables, added, List.map_map]
  exact List.map_congr_left fun table _ => ignores table []

end Views

end Structure

namespace Database

/-! ## Order -/

theorem pairwise_insertByName (definition : TableDefinition) {sorted : List TableDefinition}
    (ordered : sorted.Pairwise fun first second => first.name ≤ second.name) :
    (insertByName definition sorted).Pairwise fun first second => first.name ≤ second.name := by
  induction sorted with
  | nil => exact List.pairwise_singleton _ definition
  | cons head tail inductionHypothesis =>
      obtain ⟨first, tailOrdered⟩ := List.pairwise_cons.mp ordered
      rw [insertByName]
      by_cases before : definition.name < head.name
      · rw [if_pos before]
        refine List.pairwise_cons.mpr ⟨fun other member => ?_, ordered⟩
        rcases List.mem_cons.mp member with rfl | later
        · exact before.le
        · exact before.le.trans (first other later)
      · rw [if_neg before]
        refine List.pairwise_cons.mpr ⟨fun other member => ?_, inductionHypothesis tailOrdered⟩
        rcases List.mem_cons.mp ((insertByName_perm definition tail).mem_iff.mp member) with
          rfl | later
        · exact not_lt.mp before
        · exact first other later

theorem pairwise_listed (database : Database) :
    database.listed.Pairwise fun first second => first.name ≤ second.name := by
  have inserted (definitions sorted : List TableDefinition)
      (ordered : sorted.Pairwise fun first second => first.name ≤ second.name) :
      (definitions.foldl (fun sorted table => insertByName table sorted) sorted).Pairwise
        fun first second => first.name ≤ second.name := by
    induction definitions generalizing sorted with
    | nil => exact ordered
    | cons head tail inductionHypothesis =>
        exact inductionHypothesis _ (pairwise_insertByName head ordered)
  exact inserted _ [] List.Pairwise.nil

/-! ## Reserved names -/

theorem isReserved_iff {name : String} :
    isReserved name = true ↔
      ∃ mark rest, (upperCase name).toList = "SQLITE".toList ++ mark :: rest := by
  have pattern : reservedPattern.toList = "sqlite".toList ++ '_' :: ['%'] := by decide
  have letters : ∀ mark ∈ "sqlite".toList, mark ≠ '%' ∧ mark ≠ '_' := by simp
  have capitals : "sqlite".toList.map Char.toUpper = "SQLITE".toList := rfl
  have inCapitals : (upperCase name).toList = name.toList.map Char.toUpper := String.toList_ofList
  rw [isReserved, pattern, LikePattern.fits_append_iff letters, capitals, inCapitals]
  constructor
  · rintro ⟨front, rest, whole, isFront, fitting⟩
    obtain ⟨mark, others, rfl, _⟩ := LikePattern.fits_any_iff.mp fitting
    refine ⟨mark.toUpper, others.map Char.toUpper, ?_⟩
    rw [whole, List.map_append, isFront, List.map_cons]
  · rintro ⟨mark, rest, whole⟩
    obtain ⟨front, others, split, isFront, behind⟩ := List.map_eq_append_iff.mp whole
    obtain ⟨character, ending, rfl, _⟩ := List.map_eq_cons_iff.mp behind
    refine ⟨front, character :: ending, split, isFront, ?_⟩
    exact LikePattern.fits_any_iff.mpr ⟨character, ending, rfl, LikePattern.fits_all ending⟩

theorem hasReservedBeginning_iff {name : String} :
    hasReservedBeginning name = true ↔
      ∃ rest, (upperCase name).toList = "SQLITE".toList ++ '_' :: rest := by
  have letters : "SQLITE_".toList = "SQLITE".toList ++ ['_'] := by decide
  rw [hasReservedBeginning, List.isPrefixOf_iff_prefix, letters]
  constructor
  · rintro ⟨rest, whole⟩
    exact ⟨rest, by rw [← whole, List.append_assoc, List.singleton_append]⟩
  · rintro ⟨rest, whole⟩
    exact ⟨rest, by rw [whole, List.append_assoc, List.singleton_append]⟩

/-! ## What is listed -/

/-- The structure of a database lists the tables of some names, each once and with all its
columns in their order, and the tables in the byte order of their names. -/
structure Lists (database : Database) (isListed : String → Bool) : Prop where
  tables : (database.introspect.tables.map fun table => (table.name, table.columns)).Perm
    (((database.tables.map StoredTable.definition).filter fun table => isListed table.name).map
      fun table => (table.name, table.columns.map table.describeColumn))
  ordered : database.introspect.tables.Pairwise fun first second =>
    (Cell.compareBytes (Cell.bytesOf first.name) (Cell.bytesOf second.name)).isLE = true

/-- The tables whose names the pattern does not fit are listed. -/
theorem lists_of_not_isReserved (database : Database) :
    database.Lists fun name => !isReserved name where
  tables := by
    rw [introspect, Structure.map_ofTables fun _ _ => rfl, List.map_map]
    exact database.listed_perm.map _
  ordered := by
    have names : database.introspect.tables.map Table.name =
        database.listed.map TableDefinition.name := by
      rw [introspect, Structure.map_ofTables fun _ _ => rfl, List.map_map]
      rfl
    have ordered := List.pairwise_map.mpr database.pairwise_listed
    rw [← names] at ordered
    refine (List.pairwise_map.mp ordered).imp fun {first second} atMost => ?_
    rw [Cell.compareBytes_bytesOf]
    exact Ordering.isLE_iff_ne_gt.mpr (compare_le_iff_le.mpr atMost)

/-- The user tables are listed exactly when every name that continues `sqlite` in either case
continues it with an underscore. -/
theorem lists_userTables_iff (database : Database) :
    database.Lists (fun name => !hasReservedBeginning name) ↔
      ∀ stored ∈ database.tables, ∀ mark rest,
        (upperCase stored.definition.name).toList = "SQLITE".toList ++ mark :: rest →
          mark = '_' := by
  constructor
  · intro lists stored member mark rest begins
    by_contra other
    -- The name is not reserved, so its table is listed, but the pattern fits it.
    have unreserved : hasReservedBeginning stored.definition.name = false := by
      refine Bool.eq_false_of_not_eq_true fun reserved => other ?_
      obtain ⟨others, whole⟩ := hasReservedBeginning_iff.mp reserved
      exact (List.cons.inj (List.append_cancel_left (begins.symm.trans whole))).1
    have isUser : stored.definition ∈ (database.tables.map StoredTable.definition).filter
        fun table => !hasReservedBeginning table.name := by
      refine List.mem_filter.mpr ⟨List.mem_map_of_mem member, ?_⟩
      rw [unreserved]
      rfl
    have listed := lists.tables.mem_iff.mpr (List.mem_map_of_mem isUser)
    obtain ⟨found, isFound, same⟩ :=
      List.mem_map.mp (database.lists_of_not_isReserved.tables.mem_iff.mp listed)
    have sameName : found.name = stored.definition.name := (Prod.mk.inj same).1
    have fits : isReserved found.name = true :=
      isReserved_iff.mpr ⟨mark, rest, sameName ▸ begins⟩
    have keeps := (List.mem_filter.mp isFound).2
    rw [fits] at keeps
    cases keeps
  · intro underscores
    have agree : ∀ definition ∈ database.tables.map StoredTable.definition,
        (!isReserved definition.name) = !hasReservedBeginning definition.name := by
      intro definition member
      obtain ⟨stored, isStored, rfl⟩ := List.mem_map.mp member
      refine congrArg (!·) (Bool.eq_iff_iff.mpr ?_)
      rw [isReserved_iff, hasReservedBeginning_iff]
      constructor
      · rintro ⟨mark, rest, begins⟩
        exact ⟨rest, underscores stored isStored mark rest begins ▸ begins⟩
      · rintro ⟨rest, begins⟩
        exact ⟨'_', rest, begins⟩
    obtain ⟨tables, ordered⟩ := database.lists_of_not_isReserved
    rw [List.filter_congr agree] at tables
    exact ⟨tables, ordered⟩

private def notesDraft (name : String) : TableDraft :=
  ⟨name, [⟨⟨"id", "INTEGER", false, .null⟩, true, false, []⟩], [], true⟩

private def notesTable (name : String) : StoredTable :=
  ⟨⟨name, [⟨"id", "INTEGER", false, .null⟩], ["id"], [], [], true⟩, []⟩

private def notesDatabase : Database where
  tables := [notesTable "sqlite3_notes", notesTable "notes"]
  views := []
  version := 2

/-- The engine lets a table be named `sqlite3_notes`, and the structure leaves it out. -/
theorem not_lists_sqlite3_notes :
    (do (← empty.create (notesDraft "sqlite3_notes") false).create (notesDraft "notes") false) =
        .ok notesDatabase ∧
      notesDatabase.introspect.tables.map Table.name = ["notes"] ∧
      ¬ notesDatabase.Lists fun name => !hasReservedBeginning name := by
  have names : notesDatabase.introspect.tables.map Table.name = ["notes"] := by cbv
  refine ⟨rfl, names, fun lists => ?_⟩
  have users : ((notesDatabase.tables.map StoredTable.definition).filter fun table =>
      !hasReservedBeginning table.name).length = 2 := rfl
  have listed : notesDatabase.introspect.tables.length = 1 :=
    (List.length_map Table.name).symm.trans (congrArg List.length names)
  have same := lists.tables.length_eq
  rw [List.length_map, List.length_map, users, listed] at same
  cases same

end Database

end TableGraph
