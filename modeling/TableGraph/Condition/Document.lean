import TableGraph.Condition.Basic
import TableGraph.Json.Printer

/-!
# Reading arguments from documents

The arguments of a field arrive as a document.  Every field may be absent or
null, unknown fields are ignored, and a single item stands for the list that
holds it.  A record may also be given as an array of its fields in the order of
their declaration, an incomplete one leaving the rest at their defaults.
-/

namespace TableGraph

namespace Document

/-- An optional text. -/
def optionalText? : Json → Option (Option String)
  | .null => some none
  | .text value => some (some value)
  | _ => none

/-- An optional integer of 64 bits. -/
def optionalInteger? : Json → Option (Option Int64)
  | .null => some none
  | document =>
    document.integer?.bind fun value =>
      if fitsInt64 value then some (some (Int64.ofInt value)) else none

/-- A list of items, a single item standing for the list that holds it.  The
list is tried first. -/
def oneOrMany {α : Type} (item : Json → Option α) : Json → Option (List α)
  | .null => some []
  | .array elements =>
    match elements.mapM item with
    | some many => some many
    | none => (item (.array elements)).map fun only => [only]
  | document => (item document).map fun only => [only]

/-- The fields of a record given as an object or as an array in declaration
order; an array must not be longer than the record. -/
def record? (names : List String) : Json → Option (List (String × Json))
  | .object fields => some fields
  | .array elements =>
    if elements.length ≤ names.length then some (names.zip elements) else none
  | _ => none

/-- A field of a record, null when it is absent. -/
def fieldOf (fields : List (String × Json)) (name : String) : Json :=
  (Json.object fields).fieldOrNull name

theorem fieldOf_eq (fields : List (String × Json)) (name : String) :
    fieldOf fields name = (fields.lookup name).getD .null := rfl

mutual

/-- The document with the fields of every object sorted by name. -/
def sorted : Json → Json
  | .array elements => .array (sortedElements elements)
  | .object fields => .object (sortedPairs (sortedFields fields))
  | document => document

def sortedElements : List Json → List Json
  | [] => []
  | element :: rest => sorted element :: sortedElements rest

def sortedFields : List (String × Json) → List (String × Json)
  | [] => []
  | (name, value) :: rest => (name, sorted value) :: sortedFields rest

end

/-- A compared value: a text as it is, anything else as its JSON text. -/
def comparedValue : Json → Option String
  | .null => none
  | .text value => some value
  | document => some (sorted document).render

/-- The compared values, a single one standing for the list that holds it. -/
def comparedValues : Json → List (Option String)
  | .null => []
  | .array elements => elements.map comparedValue
  | document => [comparedValue document]

end Document

open Document

/-! ## Conditions -/

namespace Condition

/-- The fields of a condition in declaration order. -/
def fieldNames : List String :=
  ["column", "comparator", "value", "where", "where_or", "having", "having_or"]

mutual

/-- A condition given as an object or as an array of its fields. -/
def ofDocument? : Json → Option Condition
  | .object fields => ofFields? fields .blank
  | .array elements => ofElements? elements fieldNames .blank
  | _ => none

/-- The conditions of a list, a single one standing for the list. -/
def listOf? : Json → Option (List Condition)
  | .null => some []
  | .array elements =>
    match eachOf? elements with
    | some many => some many
    | none => (ofElements? elements fieldNames .blank).map fun only => [only]
  | .object fields => (ofFields? fields .blank).map fun only => [only]
  | _ => none

def eachOf? : List Json → Option (List Condition)
  | [] => some []
  | element :: rest =>
    (ofDocument? element).bind fun first => (eachOf? rest).map fun later => first :: later

/-- Read the fields of an object into a condition. -/
def ofFields? : List (String × Json) → Condition → Option Condition
  | [], built => some built
  | (name, value) :: rest, built => (assign? name value built).bind (ofFields? rest)

/-- Read the elements of an array as the named fields. -/
def ofElements? : List Json → List String → Condition → Option Condition
  | [], _, built => some built
  | _ :: _, [], _ => none
  | value :: rest, name :: names, built =>
    (assign? name value built).bind (ofElements? rest names)

/-- Read one field into a condition. -/
def assign? (name : String) : Json → Condition → Option Condition
  | value, built =>
    if name = "column" then
      (optionalText? value).map fun column => { built with column := column }
    else if name = "comparator" then
      (optionalText? value).map fun comparator => { built with comparator := comparator }
    else if name = "value" then
      some { built with values := comparedValues value }
    else if name = "where" then
      (listOf? value).map fun nested => { built with rowAll := nested }
    else if name = "where_or" then
      (listOf? value).map fun nested => { built with rowAny := nested }
    else if name = "having" then
      (listOf? value).map fun nested => { built with groupAll := nested }
    else if name = "having_or" then
      (listOf? value).map fun nested => { built with groupAny := nested }
    else
      some built

end

end Condition

/-- The column of a grouping item. -/
def groupColumn? (document : Json) : Option (Option String) :=
  (record? ["column"] document).bind fun fields => optionalText? (fieldOf fields "column")

namespace Conditions

/-- The grouping columns of a list, a single one standing for the list. -/
def groupColumnsOf? : Json → Option (List (Option String)) := oneOrMany groupColumn?

def fieldNames : List String := ["where", "where_or", "having", "having_or", "group_conditions"]

/-- The conditions of a field; null stands for none. -/
def ofDocument? : Json → Option Conditions
  | .null => some .blank
  | document => do
    let fields ← record? fieldNames document
    let rowAll ← Condition.listOf? (fieldOf fields "where")
    let rowAny ← Condition.listOf? (fieldOf fields "where_or")
    let groupAll ← Condition.listOf? (fieldOf fields "having")
    let groupAny ← Condition.listOf? (fieldOf fields "having_or")
    let groupColumns ← groupColumnsOf? (fieldOf fields "group_conditions")
    return ⟨rowAll, rowAny, groupAll, groupAny, groupColumns⟩

end Conditions

/-! ## Order and pagination -/

/-- A direction by its keyword, alone or as the name of a null. -/
def Direction.ofDocument? : Json → Option (Option Direction)
  | .null => some none
  | .text keyword => (Direction.ofKeyword? keyword).map some
  | .object [(keyword, .null)] => (Direction.ofKeyword? keyword).map some
  | _ => none

namespace OrderBy

def ofDocument? (document : Json) : Option OrderBy := do
  let fields ← record? ["key", "order"] document
  let key ← optionalText? (fieldOf fields "key")
  let direction ← Direction.ofDocument? (fieldOf fields "order")
  return ⟨key, direction⟩

/-- The items of an order, a single one standing for the list. -/
def listOf? : Json → Option (List OrderBy) := oneOrMany ofDocument?

end OrderBy

/-- A page; null stands for none. -/
def Pagination.ofDocument? : Json → Option (Option Pagination)
  | .null => some none
  | document => do
    let fields ← record? ["limit", "offset"] document
    let limit ← optionalInteger? (fieldOf fields "limit")
    let offset ← optionalInteger? (fieldOf fields "offset")
    return some ⟨limit, offset⟩

namespace Arguments

/-- The arguments given as the fields of a document. -/
def ofFields? (fields : List (String × Json)) : Option Arguments := do
  let pagination ← Pagination.ofDocument? (fieldOf fields "pagination")
  let order ← OrderBy.listOf? (fieldOf fields "order")
  let conditions ← Conditions.ofDocument? (fieldOf fields "conditions")
  return ⟨pagination, order, conditions⟩

/-- The arguments of a field, or the error that they are malformed. -/
def read (fields : List (String × Json)) : Except RequestError Arguments :=
  match ofFields? fields with
  | some arguments => .ok arguments
  | none => .error .invalidArguments

end Arguments

end TableGraph
