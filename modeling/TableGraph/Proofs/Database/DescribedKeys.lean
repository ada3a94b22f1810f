import TableGraph.Proofs.Database.Introspection
import TableGraph.Proofs.Plan.FieldKinds

/-!
# Keys of described tables

The datastore looks up the key of a table among its stored columns, and a structure
describes the columns that belong to the key.  When both agree, the look-up succeeds
exactly for the tables that are described with a key of one column
(`HasKeysOf.primaryKey_eq`).  They agree on the structure that is read from a consistent
database (`hasKeysOf_introspect`).
-/

namespace TableGraph

open SqlToken (sameName upperCase)

/-! ## Key columns -/

namespace TableDefinition

variable {table : TableDefinition} {column : ColumnDefinition} {name : String}

/-- Among different columns a name stands for the only column that has it. -/
theorem declaredName_of_sameName
    (distinct : TableDraft.distinctNames (table.columns.map ColumnDefinition.name) = true)
    (member : column ∈ table.columns) (same : sameName column.name name = true) :
    table.declaredName name = column.name := by
  have apart : (table.columns.map fun column => upperCase column.name).Nodup := by
    have different := List.pairwise_map.mp (TableDraft.distinctNames_iff.mp distinct)
    refine List.pairwise_map.mpr (different.imp fun {left right} other equal => ?_)
    rw [SqlToken.sameName_iff.mpr equal] at other
    cases other
  have found := find?_of_nodup apart member
  rw [SqlToken.sameName_iff.mp same] at found
  have declared :
      (table.columns.find? fun other => sameName other.name name) = some column := found
  rw [declaredName, declared]
  rfl

theorem primary_describeColumn :
    (table.describeColumn column).primary = true ↔
      ∃ name ∈ table.primaryKey, sameName column.name name = true :=
  List.any_eq_true

/-- The described key columns are those of the declared key. -/
theorem keyNames_perm
    (distinct : TableDraft.distinctNames (table.columns.map ColumnDefinition.name) = true)
    (known : ∀ name ∈ table.primaryKey, (table.position? name).isSome = true) :
    table.keyNames.Perm ((table.describe.columns.filter Column.primary).map Column.name) := by
  have declared (name : String) (among : name ∈ table.primaryKey) :
      ∃ column ∈ table.columns, sameName column.name name = true ∧
        table.declaredName name = column.name := by
    obtain ⟨position, isPosition⟩ := Option.isSome_iff_exists.mp (known name among)
    obtain ⟨inside, same, _⟩ := List.findIdx?_eq_some_iff_getElem.mp isPosition
    exact ⟨table.columns[position], List.getElem_mem inside, same,
      declaredName_of_position? isPosition (List.getElem?_eq_getElem inside)⟩
  have keysDistinct : table.keyNames.Nodup := by
    refine List.pairwise_map.mpr ((pairwise_onceEach table.primaryKey).imp fun {left right} different equal => ?_)
    have same : sameName left right = true := by
      rw [SqlToken.sameName_iff, ← SqlToken.sameName_iff.mp (table.sameName_declaredName left),
        equal, SqlToken.sameName_iff.mp (table.sameName_declaredName right)]
    rw [same] at different
    cases different
  have columnsDistinct :
      ((table.describe.columns.filter Column.primary).map Column.name).Nodup := by
    refine List.Nodup.sublist (List.filter_sublist.map Column.name) ?_
    rw [describe, List.map_map]
    exact TableDraft.nodup_of_distinctNames distinct
  refine (List.perm_ext_iff_of_nodup keysDistinct columnsDistinct).mpr fun key => ?_
  constructor
  · intro isKey
    obtain ⟨name, isKept, rfl⟩ := List.mem_map.mp isKey
    have among := (onceEach_sublist table.primaryKey).subset isKept
    obtain ⟨column, member, same, named⟩ := declared name among
    have isPrimary : table.describeColumn column ∈ table.describe.columns.filter Column.primary :=
      List.mem_filter.mpr
        ⟨List.mem_map_of_mem member, primary_describeColumn.mpr ⟨name, among, same⟩⟩
    rw [named]
    exact List.mem_map_of_mem (f := Column.name) isPrimary
  · intro isDescribed
    obtain ⟨described, isPrimary, rfl⟩ := List.mem_map.mp isDescribed
    obtain ⟨member, primary⟩ := List.mem_filter.mp isPrimary
    obtain ⟨column, isColumn, rfl⟩ := List.mem_map.mp member
    obtain ⟨name, among, same⟩ := primary_describeColumn.mp primary
    obtain ⟨kept, isKept, sameKept⟩ := exists_mem_onceEach among same
    have named : table.declaredName kept = (table.describeColumn column).name :=
      declaredName_of_sameName distinct isColumn sameKept
    rw [← named]
    exact List.mem_map_of_mem isKept

end TableDefinition

/-! ## Agreeing keys -/

namespace Database

variable {database : Database} {described : Structure} {table : Table}

/-- The stored tables have the keys that a structure describes. -/
def HasKeysOf (database : Database) (described : Structure) : Prop :=
  ∀ table ∈ described.tables, ∃ stored, database.table? table.name = some stored ∧
    stored.definition.name = table.name ∧
    stored.definition.keyNames.Perm ((table.columns.filter Column.primary).map Column.name)

/-- The key of a described table is found when it is one column. -/
theorem HasKeysOf.primaryKey_eq (keys : database.HasKeysOf described)
    (member : table ∈ described.tables) :
    database.primaryKey table.name =
      match table.primaryKey? with
      | some key => .ok key.name
      | none => .error (.noPrimaryKey table.name) := by
  obtain ⟨stored, found, named, same⟩ := keys table member
  have present : (database.tables.any fun stored => stored.definition.name == table.name) = true :=
    List.any_eq_true.mpr ⟨stored, mem_of_table? found, beq_iff_eq.mpr named⟩
  rw [primaryKey, found, Option.map_some, Option.getD_some, present, Table.primaryKey?]
  rcases columns : table.columns.filter Column.primary with _ | ⟨key, _ | ⟨second, rest⟩⟩
  · rw [columns] at same
    rw [List.perm_nil.mp same]
    rfl
  · rw [columns] at same
    rw [List.perm_singleton.mp same]
  · rw [columns] at same
    rcases keyNames : stored.definition.keyNames with _ | ⟨only, _ | ⟨other, others⟩⟩
    · simp [keyNames] at same
    · simp [keyNames] at same
    · rfl

theorem HasKeysOf.primaryKey_eq_error_iff (keys : database.HasKeysOf described)
    (member : table ∈ described.tables) :
    database.primaryKey table.name = .error (.noPrimaryKey table.name) ↔
      table.primaryKey? = none := by
  rw [keys.primaryKey_eq member]
  cases table.primaryKey? <;> simp

/-- The keys of a consistent database are the ones that its structure describes. -/
theorem IsConsistent.hasKeysOf_introspect (consistent : database.IsConsistent) :
    database.HasKeysOf database.introspect := by
  intro table described
  have distinct := nodup_described (TableDraft.nodup_of_distinctNames consistent.distinct)
  rw [introspect, Structure.tables_ofTables distinct] at described
  obtain ⟨plain, isPlain, rfl⟩ := List.mem_map.mp described
  obtain ⟨definition, isListed, rfl⟩ := List.mem_map.mp isPlain
  obtain ⟨stored, isStored, rfl⟩ :=
    List.mem_map.mp (List.mem_filter.mp (database.listed_perm.mem_iff.mp isListed)).1
  have isConsistent := consistent.tables stored isStored
  exact ⟨stored, consistent.table?_of_mem isStored, rfl,
    stored.definition.keyNames_perm isConsistent.distinct
      fun name among => isConsistent.known name
        (List.mem_append_left _ (List.mem_append_left _ among))⟩

end Database

end TableGraph
