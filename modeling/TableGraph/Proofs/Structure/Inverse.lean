import Mathlib.Data.List.Nodup
import TableGraph.Proofs.Json.OrderedMap
import TableGraph.Structure.Basic

/-!
# Inverse references

Adding one reference after the other gives every table the tables that reference it, in
their order, each with all its referencing columns in theirs: `Structure.tables_ofTables`
says so for tables of distinct names.  The main statement, `Structure.isInverse_ofTables`,
is that looking up in what is added inverts looking up in the references, and that doing
it again changes nothing.
-/

namespace TableGraph

namespace Table

/-- The columns of a table that reference another one. -/
def columnsTo (table : Table) (target : String) : List String :=
  (table.belongsTo.filter fun reference => reference.2 == target).map Prod.fst

/-- A table with a reference added if it leads to the table. -/
def receive (table : Table) (reference : Structure.Reference) : Table :=
  if table.name == reference.target then
    { table with
      hasMany := Structure.addReferencing reference.table reference.column table.hasMany }
  else table

theorem mem_columnsTo_iff {table : Table} (isMap : (table.belongsTo.map Prod.fst).Nodup)
    {column target : String} :
    column ∈ table.columnsTo target ↔ table.belongsTo.lookup column = some target := by
  have isPair : (column, target) ∈ table.belongsTo ↔ table.belongsTo.lookup column = some target :=
    mem_iff_lookup isMap
  rw [← isPair, columnsTo, List.mem_map]
  constructor
  · rintro ⟨reference, kept, rfl⟩
    obtain ⟨member, leads⟩ := List.mem_filter.mp kept
    rwa [← eq_of_beq leads]
  · intro member
    exact ⟨(column, target), List.mem_filter.mpr ⟨member, beq_self_eq_true target⟩, rfl⟩

theorem nodup_columnsTo {table : Table} (isMap : (table.belongsTo.map Prod.fst).Nodup)
    (target : String) : (table.columnsTo target).Nodup :=
  isMap.sublist (List.filter_sublist.map Prod.fst)

theorem name_receive (table : Table) (reference : Structure.Reference) :
    (table.receive reference).name = table.name := by
  unfold receive
  split <;> rfl

theorem receive_of_ne {table : Table} {reference : Structure.Reference}
    (different : table.name ≠ reference.target) : table.receive reference = table := by
  rw [receive, if_neg (by simpa using different)]

theorem foldl_receive (references : List Structure.Reference) (table : Table) :
    references.foldl receive table =
      { table with
        hasMany := (references.filter fun reference => table.name == reference.target).foldl
          (fun built reference => Structure.addReferencing reference.table reference.column built)
          table.hasMany } := by
  induction references generalizing table with
  | nil => rfl
  | cons head tail inductionHypothesis =>
      rw [List.foldl_cons, inductionHypothesis, name_receive]
      by_cases received : (table.name == head.target) = true
      · rw [List.filter_cons, if_pos received, List.foldl_cons, receive, if_pos received]
      · rw [List.filter_cons, if_neg received, receive, if_neg received]

end Table

namespace Structure

/-- The tables that reference another one, each with its referencing columns. -/
def referencing (tables : List Table) (target : String) : List (String × List String) :=
  (tables.map fun table => (table.name, table.columnsTo target)).filter fun entry =>
    !entry.2.isEmpty

/-! ## One table of columns -/

theorem addReferencing_of_not_mem {table column : String} {built : List (String × List String)}
    (absent : table ∉ built.map Prod.fst) :
    addReferencing table column built = built ++ [(table, [column])] := by
  induction built with
  | nil => rfl
  | cons head tail inductionHypothesis =>
      rw [List.map_cons, List.mem_cons, not_or] at absent
      have different : ¬ (head.1 == table) = true := by simpa using Ne.symm absent.1
      rw [addReferencing, if_neg different, inductionHypothesis absent.2, List.cons_append]

theorem addReferencing_append_last {table : String} {built : List (String × List String)}
    (absent : table ∉ built.map Prod.fst) (columns : List String) (column : String) :
    addReferencing table column (built ++ [(table, columns)]) =
      built ++ [(table, columns ++ [column])] := by
  induction built with
  | nil => rw [List.nil_append, addReferencing, if_pos (beq_self_eq_true table), List.nil_append]
  | cons head tail inductionHypothesis =>
      rw [List.map_cons, List.mem_cons, not_or] at absent
      have different : ¬ (head.1 == table) = true := by simpa using Ne.symm absent.1
      rw [List.cons_append, addReferencing, if_neg different, inductionHypothesis absent.2,
        List.cons_append]

theorem foldl_addReferencing_last {table : String} {built : List (String × List String)}
    (absent : table ∉ built.map Prod.fst) (before columns : List String) :
    columns.foldl (fun built column => addReferencing table column built)
        (built ++ [(table, before)]) =
      built ++ [(table, before ++ columns)] := by
  induction columns generalizing before with
  | nil => rw [List.foldl_nil, List.append_nil]
  | cons head tail inductionHypothesis =>
      rw [List.foldl_cons, addReferencing_append_last absent, inductionHypothesis,
        List.append_assoc, List.singleton_append]

/-- The columns of one table end up together. -/
theorem foldl_addReferencing {table : String} {built : List (String × List String)}
    (absent : table ∉ built.map Prod.fst) (columns : List String) :
    columns.foldl (fun built column => addReferencing table column built) built =
      built ++ [(table, columns)].filter fun entry => !entry.2.isEmpty := by
  cases columns with
  | nil => simp
  | cons head tail =>
      rw [List.foldl_cons, addReferencing_of_not_mem absent, foldl_addReferencing_last absent]
      simp

/-! ## All tables -/

theorem filter_references (tables : List Table) (target : String) :
    (references tables).filter (fun reference => target == reference.target) =
      tables.flatMap fun table =>
        (table.columnsTo target).map fun column => ⟨target, table.name, column⟩ := by
  rw [references, List.filter_flatMap]
  apply List.flatMap_congr
  intro table _
  rw [Table.columnsTo, List.map_map, List.filter_map]
  have same : ∀ reference ∈ table.belongsTo.filter (fun reference => reference.2 == target),
      Reference.mk reference.2 table.name reference.1 = ⟨target, table.name, reference.1⟩ := by
    intro reference member
    have leads : reference.2 = target := by simpa using (List.mem_filter.mp member).2
    rw [leads]
  have sameTest : ((fun reference : Reference => target == reference.target) ∘
      fun (entry : String × String) => Reference.mk entry.2 table.name entry.1) =
        fun reference => reference.2 == target := by
    funext reference
    exact Bool.beq_comm
  exact (congrArg (List.map _) (congrArg (table.belongsTo.filter ·) sameTest)).trans
    (List.map_congr_left same)

theorem foldl_columnsTo {tables : List Table} (target : String)
    {built : List (String × List String)} (distinct : (tables.map Table.name).Nodup)
    (absent : ∀ table ∈ tables, table.name ∉ built.map Prod.fst) :
    tables.foldl (fun built table => (table.columnsTo target).foldl
        (fun built column => addReferencing table.name column built) built) built =
      built ++ referencing tables target := by
  induction tables generalizing built with
  | nil => simp [referencing]
  | cons head tail inductionHypothesis =>
      obtain ⟨fresh, tailDistinct⟩ := List.nodup_cons.mp distinct
      rw [List.foldl_cons, foldl_addReferencing (absent head List.mem_cons_self)]
      have stillAbsent : ∀ table ∈ tail, table.name ∉
          (built ++ [(head.name, head.columnsTo target)].filter fun entry =>
            !entry.2.isEmpty).map Prod.fst := by
        intro table member found
        rw [List.map_append, List.mem_append] at found
        rcases found with earlier | added
        · exact absent table (List.mem_cons_of_mem head member) earlier
        · obtain ⟨entry, entryMember, same⟩ := List.mem_map.mp added
          have isHead := List.mem_singleton.mp (List.mem_of_mem_filter entryMember)
          have sameName : head.name = table.name := by rw [← same, isHead]
          exact fresh (sameName ▸ List.mem_map_of_mem member)
      rw [inductionHypothesis tailDistinct stillAbsent, List.append_assoc, referencing, referencing,
        List.map_cons, ← List.filter_append, List.singleton_append]

theorem addReference_eq_map {tables : List Table} (distinct : (tables.map Table.name).Nodup)
    (reference : Reference) :
    addReference tables reference = tables.map fun table => table.receive reference := by
  induction tables with
  | nil => rfl
  | cons head tail inductionHypothesis =>
      obtain ⟨fresh, tailDistinct⟩ := List.nodup_cons.mp distinct
      by_cases received : head.name = reference.target
      · have others : tail.map (fun table => table.receive reference) = tail := by
          rw [List.map_congr_left (g := id), List.map_id]
          intro table member
          apply Table.receive_of_ne
          intro same
          exact fresh (received.trans same.symm ▸ List.mem_map_of_mem member)
        rw [List.map_cons, others, addReference, Table.receive]
        simp only [received, beq_self_eq_true, if_true]
      · rw [List.map_cons, Table.receive_of_ne received, addReference,
          if_neg (by simpa using received), inductionHypothesis tailDistinct]

theorem foldl_addReference {tables : List Table} (distinct : (tables.map Table.name).Nodup)
    (references : List Reference) :
    references.foldl addReference tables =
      tables.map fun table => references.foldl Table.receive table := by
  induction references generalizing tables with
  | nil => simp
  | cons head tail inductionHypothesis =>
      have sameNames : (tables.map fun table => table.receive head).map Table.name =
          tables.map Table.name := by
        rw [List.map_map]
        exact List.map_congr_left fun table _ => Table.name_receive table head
      rw [List.foldl_cons, addReference_eq_map distinct,
        inductionHypothesis (sameNames ▸ distinct), List.map_map]
      rfl

/-- The inverse references of a table are the tables that reference it. -/
theorem tables_ofTables {tables : List Table} (distinct : (tables.map Table.name).Nodup) :
    (ofTables tables).tables =
      tables.map fun table => { table with hasMany := referencing tables table.name } := by
  have cleared : (tables.map fun table => { table with hasMany := [] }).map Table.name =
      tables.map Table.name := List.map_map
  rw [ofTables, foldl_addReference (cleared ▸ distinct), List.map_map]
  apply List.map_congr_left
  intro table _
  rw [Function.comp_apply, Table.foldl_receive, filter_references, List.foldl_flatMap]
  simp only [List.foldl_map]
  rw [foldl_columnsTo table.name distinct (by simp), List.nil_append]

/-! ## Looking up -/

theorem mem_referencing {tables : List Table} {target : String} {entry : String × List String} :
    entry ∈ referencing tables target ↔
      ∃ table ∈ tables, entry = (table.name, table.columnsTo target) ∧
        table.columnsTo target ≠ [] := by
  rw [referencing, List.mem_filter, List.mem_map]
  constructor
  · rintro ⟨⟨table, member, rfl⟩, isSome⟩
    exact ⟨table, member, rfl, by simpa using isSome⟩
  · rintro ⟨table, member, rfl, isSome⟩
    exact ⟨⟨table, member, rfl⟩, by simpa using isSome⟩

theorem names_referencing_sublist (tables : List Table) (target : String) :
    ((referencing tables target).map Prod.fst).Sublist (tables.map Table.name) := by
  have names : (tables.map fun table => (table.name, table.columnsTo target)).map Prod.fst =
      tables.map Table.name := List.map_map
  rw [← names]
  exact List.filter_sublist.map Prod.fst

/-- A table is listed under its name with its referencing columns, if it has any. -/
theorem lookup_referencing_eq {tables : List Table} {table : Table} {target : String}
    (distinct : (tables.map Table.name).Nodup) (member : table ∈ tables) :
    (referencing tables target).lookup table.name =
      if table.columnsTo target = [] then none else some (table.columnsTo target) := by
  have names := distinct.sublist (names_referencing_sublist tables target)
  by_cases nothing : table.columnsTo target = []
  · rw [if_pos nothing, List.lookup_eq_none_iff]
    intro entry listed
    obtain ⟨other, otherMember, rfl, something⟩ := mem_referencing.mp listed
    rw [bne_iff_ne]
    intro same
    exact something (List.inj_on_of_nodup_map distinct member otherMember same ▸ nothing)
  · have listed : (table.name, table.columnsTo target) ∈ referencing tables target :=
      mem_referencing.mpr ⟨table, member, rfl, nothing⟩
    rw [if_neg nothing]
    exact (mem_iff_lookup names).mp listed

theorem lookup_referencing {tables : List Table} {table : Table} {target column : String}
    (distinct : (tables.map Table.name).Nodup) (member : table ∈ tables)
    (leads : column ∈ table.columnsTo target) :
    (referencing tables target).lookup table.name = some (table.columnsTo target) := by
  rw [lookup_referencing_eq distinct member, if_neg (List.ne_nil_of_mem leads)]

/-! ## The inverse -/

/-- A structure that has the tables of a list, with the inverse of their references. -/
structure IsInverse (tables : List Table) (database : Structure) : Prop where
  /-- The tables keep their order, their names, columns and references. -/
  keeps : (database.tables.map fun table => (table.name, table.columns, table.belongsTo)) =
    tables.map fun table => (table.name, table.columns, table.belongsTo)
  /-- Under the name of a table stand its columns that lead to the target, if there are any. -/
  lists : ∀ target ∈ database.tables, ∀ table ∈ tables,
    target.hasMany.lookup table.name =
      if table.columnsTo target.name = [] then none else some (table.columnsTo target.name)
  leads : ∀ table ∈ tables, ∀ target column,
    column ∈ table.columnsTo target ↔ table.belongsTo.lookup column = some target
  distinct : ∀ target ∈ database.tables, ∀ entry ∈ target.hasMany, entry.2.Nodup
  follows : ∀ target ∈ database.tables,
    (target.hasMany.map Prod.fst).Sublist (tables.map Table.name)
  /-- A reference to a table that is not there is listed nowhere. -/
  dangling : ∀ table ∈ tables, ∀ column unknown,
    table.belongsTo.lookup column = some unknown → unknown ∉ tables.map Table.name →
      ∀ target ∈ database.tables, ∀ columns, (table.name, columns) ∈ target.hasMany →
        column ∉ columns

theorem ofTables_tables_ofTables {tables : List Table} (distinct : (tables.map Table.name).Nodup) :
    ofTables (ofTables tables).tables = ofTables tables := by
  have sameReferences :
      references (tables.map fun table => { table with hasMany := referencing tables table.name }) =
        references tables := List.flatMap_map ..
  rw [tables_ofTables distinct, ofTables, sameReferences, List.map_map, ofTables]
  rfl

/-- Deriving the inverse references of tables of distinct names inverts their references,
whatever inverse references they come with, and does not change what it has derived. -/
theorem isInverse_ofTables {tables : List Table} (distinct : (tables.map Table.name).Nodup)
    (areMaps : ∀ table ∈ tables, (table.belongsTo.map Prod.fst).Nodup) :
    IsInverse tables (ofTables tables) ∧
      ofTables (ofTables tables).tables = ofTables tables := by
  have found : ∀ target ∈ (ofTables tables).tables,
      target.name ∈ tables.map Table.name ∧ target.hasMany = referencing tables target.name := by
    intro target member
    rw [tables_ofTables distinct] at member
    obtain ⟨original, originalMember, rfl⟩ := List.mem_map.mp member
    exact ⟨List.mem_map.mpr ⟨original, originalMember, rfl⟩, rfl⟩
  refine ⟨⟨?_, ?_, ?_, ?_, ?_, ?_⟩, ofTables_tables_ofTables distinct⟩
  · rw [tables_ofTables distinct, List.map_map]
    rfl
  · intro target member table tableMember
    rw [(found target member).2]
    exact lookup_referencing_eq distinct tableMember
  · intro table member target column
    exact Table.mem_columnsTo_iff (areMaps table member)
  · intro target member entry listed
    rw [(found target member).2] at listed
    obtain ⟨table, tableMember, rfl, _⟩ := mem_referencing.mp listed
    exact Table.nodup_columnsTo (areMaps table tableMember) target.name
  · intro target member
    rw [(found target member).2]
    exact names_referencing_sublist tables target.name
  · intro table member column unknown leads isUnknown target targetMember columns listed isListed
    obtain ⟨isKnown, lists⟩ := found target targetMember
    rw [lists] at listed
    obtain ⟨other, otherMember, same, _⟩ := mem_referencing.mp listed
    obtain ⟨sameName, rfl⟩ := Prod.ext_iff.mp same
    obtain rfl := List.inj_on_of_nodup_map distinct member otherMember sameName
    have leadsThere := (Table.mem_columnsTo_iff (areMaps table member)).mp isListed
    rw [leads, Option.some.injEq] at leadsThere
    exact isUnknown (leadsThere ▸ isKnown)

private def staffTable : Table :=
  ⟨"staff", [], [("manager_id", "staff"), ("site_id", "sites"), ("mentor_id", "staff")],
    [("rooms", ["closed_id"])]⟩

private def roomsTable : Table :=
  ⟨"rooms", [], [("keeper_id", "staff")], [("doors", ["room_id"])]⟩

/-- Members of the staff lead to each other by two columns and to sites, which are no table. -/
theorem isInverse_ofTables_staff :
    ([staffTable, roomsTable].map Table.name).Nodup ∧
      (∀ table ∈ [staffTable, roomsTable], (table.belongsTo.map Prod.fst).Nodup) ∧
      (ofTables [staffTable, roomsTable]).tables.map Table.hasMany =
        [[("staff", ["manager_id", "mentor_id"]), ("rooms", ["keeper_id"])], []] ∧
      IsInverse [staffTable, roomsTable] (ofTables [staffTable, roomsTable]) ∧
      ofTables (ofTables [staffTable, roomsTable]).tables = ofTables [staffTable, roomsTable] :=
  ⟨by decide, by decide, by decide, isInverse_ofTables (by decide) (by decide)⟩

end Structure

end TableGraph
