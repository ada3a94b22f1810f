import TableGraph.Json.Printer
import TableGraph.Structure.Basic

/-!
# Structures as JSON documents

A structure is written with its tables, columns and ordered maps; a column
without a comment has no such field.  When a document is read, records may be
objects or arrays of their fields in declaration order, unknown fields are
ignored, and a repeated field is refused.
-/

namespace TableGraph

/-! ## Writing -/

/-- A column as an object. -/
def Column.toDocument (column : Column) : Json :=
  .object ([("name", .text column.name), ("nullable", .bool column.nullable),
    ("primary", .bool column.primary), ("native_type", .text column.nativeType)] ++
    (column.comment.map fun comment => ("comment", Json.text comment)).toList)

/-- A table as an object. -/
def Table.toDocument (table : Table) : Json :=
  .object [("name", .text table.name), ("columns", .array (table.columns.map Column.toDocument)),
    ("belongs_to", .object (table.belongsTo.map fun (column, target) => (column, .text target))),
    ("has_many", .object (table.hasMany.map fun (other, columns) =>
      (other, .array (columns.map Json.text))))]

/-- A structure as an object. -/
def Structure.toDocument (database : Structure) : Json :=
  .object [("tables", .array (database.tables.map Table.toDocument))]

/-! ## Reading -/

namespace Document

/-- The fields of a record: the known ones of an object, none twice, or the
elements of an array in declaration order. -/
def strictRecord? (names : List String) : Json → Option (List (String × Json))
  | .object fields =>
    let known := fields.filter fun entry => names.contains entry.1
    if (known.map (·.1)).Nodup then some known else none
  | .array elements =>
    if elements.length ≤ names.length then some (names.zip elements) else none
  | _ => none

/-- A list of items. -/
def list? {α : Type} (item : Json → Option α) (document : Json) : Option (List α) :=
  document.array?.bind fun elements => elements.mapM item

/-- An ordered map, a repeated key keeping its place and taking the later
value. -/
def map? {α : Type} (item : Json → Option α) : Json → Option (List (String × α))
  | .object fields =>
    (fields.mapM fun entry => (item entry.2).map fun read => (entry.1, read)).map pairsOf
  | _ => none

/-- A field that must be there. -/
def required? {α : Type} (fields : List (String × Json)) (name : String)
    (item : Json → Option α) : Option α :=
  (fields.lookup name).bind item

/-- A field with a default. -/
def defaulted? {α : Type} (fields : List (String × Json)) (name : String)
    (item : Json → Option α) (absent : α) : Option α :=
  match fields.lookup name with
  | some value => item value
  | none => some absent

/-- A text or null. -/
def textOrNull? : Json → Option (Option String)
  | .null => some none
  | .text value => some (some value)
  | _ => none

end Document

open Document

def Column.ofDocument? (document : Json) : Option Column := do
  let fields ← strictRecord? ["name", "nullable", "primary", "native_type", "comment"] document
  let name ← required? fields "name" Json.text?
  let nullable ← required? fields "nullable" Json.bool?
  let primary ← required? fields "primary" Json.bool?
  let nativeType ← required? fields "native_type" Json.text?
  let comment ← defaulted? fields "comment" textOrNull? none
  return ⟨name, nullable, primary, nativeType, comment⟩

def Table.ofDocument? (document : Json) : Option Table := do
  let fields ← strictRecord? ["name", "columns", "belongs_to", "has_many"] document
  let name ← required? fields "name" Json.text?
  let columns ← required? fields "columns" (list? Column.ofDocument?)
  let belongsTo ← defaulted? fields "belongs_to" (map? Json.text?) []
  let hasMany ← defaulted? fields "has_many" (map? (list? Json.text?)) []
  return ⟨name, columns, belongsTo, hasMany⟩

def Structure.ofDocument? (document : Json) : Option Structure := do
  let fields ← strictRecord? ["tables"] document
  let tables ← required? fields "tables" (list? Table.ofDocument?)
  return ⟨tables⟩

end TableGraph
