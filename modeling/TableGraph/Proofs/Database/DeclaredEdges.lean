import TableGraph.Proofs.Database.KeyListing
import TableGraph.Proofs.Database.TableNames
import TableGraph.Proofs.Json.SortedMap
import TableGraph.Proofs.Plan.FieldKinds

/-!
# Edges of declared keys

The listing of a table is the listing of its keys by the declared names of their columns
(`TableDefinition.foreignKeyListing_eq_listing`), so of its keys on a column alone the first
one decides where the column leads (`TableDefinition.lookup_edges`).  The edge keeps the name
of the other table as the key spells it, so the other table is met exactly when the key spells
its name as the table does (`Database.hasEdge_iff_spelled`).
-/

namespace TableGraph

open SqlToken (sameName)

/-! ## Keys of a definition -/

namespace TableDefinition

/-- The first foreign key that a table declares on a column alone. -/
def firstKeyOn? (table : TableDefinition) (column : String) : Option ForeignKey :=
  table.foreignKeys.find? fun foreignKey =>
    foreignKey.columns.map table.declaredName == [column]

/-- The foreign keys of a table by the declared names of their columns. -/
def declaredKeys (table : TableDefinition) : List ForeignKey :=
  table.foreignKeys.map fun foreignKey =>
    { foreignKey with columns := foreignKey.columns.map table.declaredName }

theorem foreignKeyListing_eq_listing (table : TableDefinition) :
    table.foreignKeyListing = ForeignKeyEntry.listing table.declaredKeys := by
  rw [foreignKeyListing_eq, ForeignKeyEntry.listing, declaredKeys, ← List.map_reverse,
    List.zipIdx_map, List.flatMap_map]
  refine List.flatMap_congr fun numbered _ => ?_
  rw [entriesOf, ForeignKeyEntry.ofKey, Prod.map_fst, Prod.map_snd, List.map_map]
  rfl

/-- The first key of a column on its own decides where the column leads. -/
theorem lookup_edges (table : TableDefinition) (column : String) :
    (ForeignKeyEntry.edges table.foreignKeyListing).lookup column =
      (table.firstKeyOn? column).map ForeignKey.table := by
  rw [foreignKeyListing_eq_listing, ForeignKeyEntry.lookup_edges_listing, declaredKeys,
    List.find?_map, Option.map_map]
  rfl

end TableDefinition

/-! ## Edges of a structure -/

namespace Structure

/-- An edge from a column of a table to another table, seen from both tables. -/
structure HasEdge (database : Structure) (table column target : String) : Prop where
  belongsTo : ((database.table? table).bind fun table => table.belongsTo.lookup column) =
    some target
  hasMany : ∃ columns, ((database.table? target).bind fun target => target.hasMany.lookup table) =
    some columns ∧ column ∈ columns

end Structure

namespace Database

variable {database : Database} {stored other : StoredTable} {column : String}
  {foreignKey : ForeignKey}

theorem describe_mem_described (isStored : stored ∈ database.tables)
    (isListed : isReserved stored.definition.name = false) :
    stored.definition.describe ∈ database.listed.map TableDefinition.describe := by
  refine List.mem_map_of_mem (database.listed_perm.mem_iff.mpr (List.mem_filter.mpr ⟨?_, ?_⟩))
  · exact List.mem_map_of_mem isStored
  · rw [isListed]
    rfl

/-- A listed table is found with its own references and the ones to it. -/
theorem table?_introspect (distinct : database.tableNames.Nodup)
    (isStored : stored ∈ database.tables) (isListed : isReserved stored.definition.name = false) :
    database.introspect.table? stored.definition.name =
      some { stored.definition.describe with
        hasMany := Structure.referencing (database.listed.map TableDefinition.describe)
          stored.definition.name } := by
  have described := nodup_described distinct
  have tables := Structure.tables_ofTables described
  have names : (database.introspect.tables.map Table.name).Nodup := by
    rw [introspect, tables, List.map_map]
    exact described
  have member : { stored.definition.describe with
      hasMany := Structure.referencing (database.listed.map TableDefinition.describe)
        stored.definition.name } ∈ database.introspect.tables := by
    rw [introspect, tables]
    exact List.mem_map.mpr ⟨_, describe_mem_described isStored isListed, rfl⟩
  exact Structure.table?_of_mem names member

/-- A key of one column gives the edge to the table it leads to exactly when it spells the
name of this table as the table does. -/
theorem hasEdge_iff_spelled (distinct : database.tableNames.Nodup)
    (isStored : stored ∈ database.tables) (isListed : isReserved stored.definition.name = false)
    (isOther : other ∈ database.tables) (otherListed : isReserved other.definition.name = false)
    (first : stored.definition.firstKeyOn? column = some foreignKey) :
    database.introspect.HasEdge stored.definition.name column other.definition.name ↔
      foreignKey.table = other.definition.name := by
  have own := table?_introspect distinct isStored isListed
  have edge : stored.definition.describe.belongsTo.lookup column = some foreignKey.table := by
    rw [TableDefinition.describe, TableDefinition.lookup_edges, first, Option.map_some]
  constructor
  · intro hasEdge
    have found := hasEdge.belongsTo
    rw [own, Option.bind_some] at found
    exact Option.some.inj (edge.symm.trans found)
  · intro spelled
    rw [spelled] at edge
    refine ⟨by rw [own, Option.bind_some]; exact edge, ?_⟩
    obtain ⟨before, behind, split, _⟩ := List.lookup_eq_some_iff.mp edge
    have leadsThere : column ∈ stored.definition.describe.columnsTo other.definition.name := by
      refine List.mem_map.mpr ⟨(column, other.definition.name), List.mem_filter.mpr ⟨?_, ?_⟩, rfl⟩
      · rw [split]
        exact List.mem_append_right before List.mem_cons_self
      · exact beq_self_eq_true other.definition.name
    refine ⟨_, ?_, leadsThere⟩
    rw [table?_introspect distinct isOther otherListed, Option.bind_some]
    exact Structure.lookup_referencing (nodup_described distinct)
      (describe_mem_described isStored isListed) leadsThere

private def categoriesTable : StoredTable :=
  ⟨⟨"Categories", [⟨"id", "INTEGER", false, .null⟩], ["id"], [], [], true⟩, []⟩

private def categoryKey (target : String) : ForeignKey := ⟨["category_id"], target, ["id"]⟩

private def productsTable (target : String) : StoredTable :=
  ⟨⟨"products", [⟨"id", "INTEGER", false, .null⟩, ⟨"category_id", "INTEGER", false, .null⟩],
    ["id"], [], [categoryKey target], true⟩, []⟩

private def shopOf (target : String) : Database where
  tables := [categoriesTable, productsTable target]
  views := []
  version := 2

private theorem firstKeyOn?_productsTable (target : String) :
    (productsTable target).definition.firstKeyOn? "category_id" = some (categoryKey target) := by
  cbv

/-- A key that spells `Categories` as the table does gives the edge to it. -/
theorem hasEdge_categories :
    (shopOf "Categories").tableNames.Nodup ∧
      (shopOf "Categories").introspect.HasEdge "products" "category_id" "Categories" := by
  have distinct : (shopOf "Categories").tableNames.Nodup := by decide
  have isStored : productsTable "Categories" ∈ (shopOf "Categories").tables :=
    List.mem_cons_of_mem _ List.mem_cons_self
  have isOther : categoriesTable ∈ (shopOf "Categories").tables := List.mem_cons_self
  refine ⟨distinct, (hasEdge_iff_spelled distinct isStored ?_ isOther ?_
    (firstKeyOn?_productsTable "Categories")).mpr rfl⟩
  · decide
  · decide

/-- A key that spells it `categories` leads to the same table and gives no edge to it. -/
theorem not_hasEdge_categories :
    (shopOf "categories").table? "categories" = some categoriesTable ∧
      (productsTable "categories").definition.firstKeyOn? "category_id" =
        some (categoryKey "categories") ∧
      sameName (categoryKey "categories").table categoriesTable.definition.name = true ∧
      ¬ (shopOf "categories").introspect.HasEdge "products" "category_id" "Categories" := by
  refine ⟨by cbv, firstKeyOn?_productsTable "categories", by decide, fun hasEdge => ?_⟩
  have leads : (((shopOf "categories").introspect.table? "products").bind fun table =>
      table.belongsTo.lookup "category_id") = some "categories" := by cbv
  exact absurd (Option.some.inj (leads.symm.trans hasEdge.belongsTo)) (by decide)

end Database

end TableGraph
