import Mathlib.Data.List.Induction
import TableGraph.Proofs.Json.OrderedMap
import TableGraph.Proofs.Json.PrintedDocuments
import TableGraph.Structure.Document

/-!
# Faithful JSON forms

A structure is read back from its JSON text with all its tables, columns and comments and
with its ordered maps in their order, and every value that is no float is read back as
itself, although values are written without a tag (`forms_read_back`).  A document is read
back from its text (`Json.parse?_render`), so what is left is to read back the record, the
list, the map or the bytes from the document.
-/

namespace TableGraph

/-! ## Ordered maps -/

theorem insertPair_of_not_mem {α : Type} {key : String} {pairs : List (String × α)}
    (absent : key ∉ pairs.map Prod.fst) (value : α) :
    insertPair key value pairs = pairs ++ [(key, value)] := by
  induction pairs with
  | nil => rfl
  | cons head tail inductionHypothesis =>
      obtain ⟨different, absentBehind⟩ := not_or.mp (List.mem_cons.not.mp absent)
      rw [insertPair, if_neg fun same => different (eq_of_beq same).symm,
        inductionHypothesis absentBehind, List.cons_append]

/-- Pairs of distinct keys stay as they are. -/
theorem pairsOf_of_nodup {α : Type} {pairs : List (String × α)}
    (distinct : (pairs.map Prod.fst).Nodup) : pairsOf pairs = pairs := by
  -- From the end, since the last pair is inserted last.
  induction pairs using List.reverseRecOn with
  | nil => rfl
  | append_singleton earlier last inductionHypothesis =>
      rw [List.map_append, List.nodup_append] at distinct
      have absent : last.1 ∉ earlier.map Prod.fst := fun known =>
        distinct.2.2 last.1 known last.1 List.mem_cons_self rfl
      rw [pairsOf, List.foldl_append, ← pairsOf, inductionHypothesis distinct.1, List.foldl_cons,
        List.foldl_nil, insertPair_of_not_mem absent]

/-! ## Lists and maps of documents -/

section Items

variable {Item : Type} (write : Item → Json) {read : Json → Option Item}

theorem mapM_map_of_reads {Source : Type} (write : Item → Source) {read : Source → Option Item}
    {items : List Item} (reads : ∀ item ∈ items, read (write item) = some item) :
    (items.map write).mapM read = some items := by
  induction items with
  | nil => rfl
  | cons first others inductionHypothesis =>
      rw [List.forall_mem_cons] at reads
      rw [List.map_cons, List.mapM_cons, reads.1, inductionHypothesis reads.2]
      rfl

theorem Document.list?_map {items : List Item}
    (reads : ∀ item ∈ items, read (write item) = some item) :
    Document.list? read (.array (items.map write)) = some items :=
  mapM_map_of_reads write reads

theorem Document.map?_map {pairs : List (String × Item)}
    (reads : ∀ pair ∈ pairs, read (write pair.2) = some pair.2)
    (distinct : (pairs.map Prod.fst).Nodup) :
    Document.map? read (.object (pairs.map fun pair => (pair.1, write pair.2))) = some pairs := by
  have each : (pairs.map fun pair => (pair.1, write pair.2)).mapM
      (fun entry => (read entry.2).map fun item => (entry.1, item)) = some pairs := by
    refine mapM_map_of_reads (fun pair : String × Item => (pair.1, write pair.2))
      fun pair member => ?_
    rw [reads pair member, Option.map_some]
  rw [Document.map?, each, Option.map_some, pairsOf_of_nodup distinct]

end Items

/-! ## Structures -/

/-- A table whose ordered maps have each key once. -/
structure Table.HasDistinctKeys (table : Table) : Prop where
  belongsTo : (table.belongsTo.map Prod.fst).Nodup
  hasMany : (table.hasMany.map Prod.fst).Nodup

theorem Column.ofDocument?_toDocument (column : Column) :
    Column.ofDocument? column.toDocument = some column := by
  obtain ⟨name, nullable, primary, nativeType, comment⟩ := column
  cases comment with
  | none => rfl
  | some comment => rfl

theorem Table.ofDocument?_toDocument {table : Table} (distinct : table.HasDistinctKeys) :
    Table.ofDocument? table.toDocument = some table := by
  have columns : Document.list? Column.ofDocument? (.array (table.columns.map Column.toDocument)) =
      some table.columns := Document.list?_map _ fun column _ => column.ofDocument?_toDocument
  have belongsTo : Document.map? Json.text?
      (.object (table.belongsTo.map fun pair => (pair.1, .text pair.2))) = some table.belongsTo :=
    Document.map?_map _ (fun _ _ => rfl) distinct.belongsTo
  have hasMany : Document.map? (Document.list? Json.text?) (.object (table.hasMany.map fun pair =>
      (pair.1, .array (pair.2.map Json.text)))) = some table.hasMany :=
    Document.map?_map (fun columns => .array (columns.map Json.text))
      (fun _ _ => Document.list?_map Json.text fun _ _ => rfl) distinct.hasMany
  have fields : Table.ofDocument? table.toDocument =
      (Document.list? Column.ofDocument? (.array (table.columns.map Column.toDocument))).bind
        fun columns => (Document.map? Json.text?
          (.object (table.belongsTo.map fun pair => (pair.1, .text pair.2)))).bind
        fun belongsTo => (Document.map? (Document.list? Json.text?) (.object
          (table.hasMany.map fun pair => (pair.1, .array (pair.2.map Json.text))))).bind
        fun hasMany => some ⟨table.name, columns, belongsTo, hasMany⟩ := rfl
  rw [fields, columns, belongsTo, hasMany]
  rfl

theorem Structure.ofDocument?_toDocument {database : Structure}
    (distinct : ∀ table ∈ database.tables, table.HasDistinctKeys) :
    Structure.ofDocument? database.toDocument = some database := by
  have tables : Document.list? Table.ofDocument? (.array (database.tables.map Table.toDocument)) =
      some database.tables :=
    Document.list?_map _ fun table member => Table.ofDocument?_toDocument (distinct table member)
  have fields : Structure.ofDocument? database.toDocument =
      (Document.list? Table.ofDocument? (.array (database.tables.map Table.toDocument))).bind
        fun tables => some ⟨tables⟩ := rfl
  rw [fields, tables, Option.bind_some]

/-! ## Values -/

/-- Whether a value is a floating-point number. -/
def Value.isFloat : Value → Bool
  | .float _ => true
  | _ => false

theorem Value.byteOf?_toNat (byte : UInt8) :
    Value.byteOf? (.integer byte.toNat) = some byte := by
  have bound : byte.toNat < 256 := byte.toNat_lt
  have inside : (decide (0 ≤ (byte.toNat : Int)) && decide ((byte.toNat : Int) < 256)) = true := by
    simp
    omega
  rw [Value.byteOf?, if_pos inside, Int.toNat_natCast, UInt8.ofNat_toNat]

theorem Value.ofDocument?_toDocument {value : Value} (exact : value.isFloat = false) :
    Value.ofDocument? value.toDocument = some value := by
  cases value with
  | null => rfl
  | bool value => rfl
  | integer value =>
      have fits : fitsInt64 value.toInt = true := fitsInt64_toInt value
      rw [Value.toDocument, Value.toJson, Value.ofDocument?, if_pos fits, Int64.ofInt_toInt]
      exact fun _ isBytes => nomatch isBytes
  | float value => cases exact
  | text value => rfl
  | bytes value =>
      have each : (value.map fun byte => Json.integer byte.toNat).mapM Value.byteOf? = some value :=
        mapM_map_of_reads (fun byte : UInt8 => Json.integer byte.toNat)
          fun byte _ => Value.byteOf?_toNat byte
      rw [Value.toDocument, Value.ofDocument?, each, Option.map_some]

/-! ## Exact documents -/

open Json (IsExact)

theorem Column.isExact_toDocument (column : Column) : IsExact 1 column.toDocument := by
  obtain ⟨name, nullable, primary, nativeType, comment⟩ := column
  refine .object ?_
  cases comment <;> simp [IsExact.text, IsExact.bool]

theorem Table.isExact_toDocument (table : Table) : IsExact 3 table.toDocument := by
  have columns : IsExact 2 (.array (table.columns.map Column.toDocument)) :=
    .array (List.forall_mem_map.mpr fun column _ => column.isExact_toDocument)
  have belongsTo : IsExact 2 (.object (table.belongsTo.map fun pair => (pair.1, .text pair.2))) :=
    .object (List.forall_mem_map.mpr fun pair _ => .text pair.2)
  have texts (texts : List String) : IsExact 1 (.array (texts.map Json.text)) :=
    .array (List.forall_mem_map.mpr fun text _ => .text text)
  have hasMany : IsExact 2 (.object (table.hasMany.map fun pair =>
      (pair.1, .array (pair.2.map Json.text)))) :=
    .object (List.forall_mem_map.mpr fun pair _ => texts pair.2)
  refine .object ?_
  simp only [List.forall_mem_cons]
  exact ⟨.text table.name, columns, belongsTo, hasMany, fun _ member => nomatch member⟩

theorem Structure.isExact_toDocument (database : Structure) : IsExact 5 database.toDocument := by
  have tables : IsExact 4 (.array (database.tables.map Table.toDocument)) :=
    .array (List.forall_mem_map.mpr fun table _ => table.isExact_toDocument)
  exact .object (List.forall_mem_cons.mpr ⟨tables, fun _ member => nomatch member⟩)

theorem Value.isExact_toDocument {value : Value} (exact : value.isFloat = false) :
    IsExact 1 value.toDocument := by
  cases value with
  | null => exact .null
  | bool value => exact .bool value
  | integer value =>
      have lower : -9223372036854775808 ≤ value.toInt := value.le_toInt
      have upper : value.toInt < 9223372036854775808 := value.toInt_lt
      exact .integer (by rw [signedBound]; omega) (by rw [unsignedBound]; omega)
  | float value => cases exact
  | text value => exact .text value
  | bytes value =>
      refine .array (List.forall_mem_map.mpr fun byte _ => ?_)
      have bound : byte.toNat < 256 := byte.toNat_lt
      exact .integer (by omega) (by rw [unsignedBound]; omega)

/-! ## Texts -/

/-- The JSON text of a structure is read back as the structure, with the order of its maps, and
the JSON text of a value that is no float as the value. -/
theorem forms_read_back :
    (∀ database : Structure, (∀ table ∈ database.tables, table.HasDistinctKeys) →
      (Json.parse? database.toDocument.render).bind Structure.ofDocument? = some database) ∧
    ∀ value : Value, value.isFloat = false →
      (Json.parse? value.toDocument.render).bind Value.ofDocument? = some value := by
  constructor
  · intro database distinct
    rw [Json.parse?_render database.isExact_toDocument (by decide), Option.bind_some,
      Structure.ofDocument?_toDocument distinct]
  · intro value exact
    rw [Json.parse?_render (Value.isExact_toDocument exact) (by decide), Option.bind_some,
      Value.ofDocument?_toDocument exact]

private def parcelsTable : Table where
  name := "parcels"
  columns := [⟨"id", false, true, "INTEGER", none⟩,
    ⟨"from", true, false, "TEXT", some "who \"sends\"\n"⟩]
  belongsTo := [("to", "people"), ("from", "people")]
  hasMany := [("stamps", ["parcel"]), ("notes", [])]

/-- Two references in another order than that of their names, a comment with an escaped line
break, and bytes that are the text of a document. -/
theorem forms_read_back_parcels :
    (∀ table ∈ (Structure.mk [parcelsTable]).tables, table.HasDistinctKeys) ∧
      (Json.parse? (Structure.mk [parcelsTable]).toDocument.render).bind Structure.ofDocument? =
        some ⟨[parcelsTable]⟩ ∧
      (Value.bytes [91, 93]).isFloat = false ∧
      (Json.parse? (Value.bytes [91, 93]).toDocument.render).bind Value.ofDocument? =
        some (.bytes [91, 93]) := by
  have distinct : ∀ table ∈ (Structure.mk [parcelsTable]).tables, table.HasDistinctKeys := by
    intro table member
    rw [List.mem_singleton.mp member]
    exact ⟨by decide, by decide⟩
  exact ⟨distinct, forms_read_back.1 _ distinct, rfl, forms_read_back.2 _ rfl⟩

end TableGraph
