import TableGraph.Condition.Basic
import TableGraph.Plan.Basic

/-!
# The types of a schema

A schema is a set of named types: the object types of the plan with the root
type, the union of all object types, and the types of the arguments.
-/

namespace TableGraph

/-- A reference to a type. -/
inductive TypeReference where
  | named (name : String)
  | list (element : TypeReference)
  | nonNull (inner : TypeReference)
  deriving DecidableEq, Repr

namespace TypeReference

/-- The written form of a reference. -/
def render : TypeReference → String
  | .named name => name
  | .list element => "[" ++ element.render ++ "]"
  | .nonNull inner => inner.render ++ "!"

/-- The type behind lists and non-null marks. -/
def baseName : TypeReference → String
  | .named name => name
  | .list element => element.baseName
  | .nonNull inner => inner.baseName

def isNonNull : TypeReference → Bool
  | .nonNull _ => true
  | _ => false

/-- The reference without a non-null mark. -/
def nullable : TypeReference → TypeReference
  | .nonNull inner => inner
  | reference => reference

/-- A list whose elements are not null. -/
def listOf (name : String) : TypeReference := .list (.nonNull (.named name))

end TypeReference

/-- A field of an input type, or an argument. -/
structure InputField where
  name : String
  type : TypeReference
  deriving DecidableEq, Repr

/-- A field of an object type. -/
structure TypeField where
  plan : FieldPlan
  arguments : List InputField
  type : TypeReference
  deriving Repr

/-- A named type. -/
inductive TypeDefinition where
  | object (fields : List TypeField)
  | union (members : List String)
  | enumeration (values : List String)
  | input (description : Option String) (fields : List InputField)
  deriving Repr

namespace TypeName

/-! ## Names of the schema's own types -/

def query : String := "Query"

/-- The union of all object types. -/
def morph : String := "_morph_target"

def pagination : String := "_pagination"

def order : String := "_order"

def orderDirection : String := "_order_direction"

def comparator : String := "_comparator"

def row : String := "_where"

def group : String := "_having"

def grouping : String := "_group"

def conditions : String := "_conditions"

end TypeName

/-! ## Arguments -/

namespace ArgumentSet

/-- The arguments of a count. -/
def countFields : List InputField :=
  [⟨"order", .listOf TypeName.order⟩, ⟨"conditions", .named TypeName.conditions⟩]

/-- The arguments of a set. -/
def fields : ArgumentSet → List InputField
  | .none => []
  | .list => ⟨"pagination", .named TypeName.pagination⟩ :: countFields
  | .count => countFields

end ArgumentSet

/-- The fields that conditions on rows and on groups share. -/
def comparisonFields : List InputField :=
  [⟨"column", .named Scalar.string.name⟩, ⟨"comparator", .named TypeName.comparator⟩,
    ⟨"value", .list (.named Scalar.string.name)⟩]

/-- The types of the arguments. -/
def argumentTypes : List (String × TypeDefinition) :=
  [(TypeName.pagination, .input (some "Limits the number of returned rows")
      [⟨"limit", .named Scalar.int.name⟩, ⟨"offset", .named Scalar.int.name⟩]),
    (TypeName.orderDirection,
      .enumeration ([Direction.ascending, .descending, .random].map Direction.keyword)),
    (TypeName.order, .input (some "A column to order the returned rows by")
      [⟨"key", .named Scalar.string.name⟩, ⟨"order", .named TypeName.orderDirection⟩]),
    (TypeName.comparator, .enumeration (Comparator.all.map Comparator.name)),
    (TypeName.row, .input (some "A condition on a column, or a group of nested conditions")
      (comparisonFields ++
        [⟨"where", .listOf TypeName.row⟩, ⟨"where_or", .listOf TypeName.row⟩])),
    (TypeName.group, .input (some "A condition on an aggregate, or a group of nested conditions")
      (comparisonFields ++
        [⟨"having", .listOf TypeName.group⟩, ⟨"having_or", .listOf TypeName.group⟩])),
    (TypeName.grouping, .input none [⟨"column", .nonNull (.named Scalar.string.name)⟩]),
    (TypeName.conditions, .input none
      [⟨"where", .listOf TypeName.row⟩, ⟨"where_or", .listOf TypeName.row⟩,
        ⟨"having", .listOf TypeName.group⟩, ⟨"having_or", .listOf TypeName.group⟩,
        ⟨"group_conditions", .listOf TypeName.grouping⟩])]

/-! ## Fields -/

namespace FieldPlan

/-- The type of a field: lists and counts are never null. -/
def typeReference (field : FieldPlan) : TypeReference :=
  let marked (name : String) : TypeReference :=
    if field.nullable then .named name else .nonNull (.named name)
  match field.type with
  | .scalar scalar => marked scalar.name
  | .object name => marked name
  | .list name => .nonNull (.listOf name)
  | .count => .nonNull (.named Scalar.int.name)
  | .morph => marked TypeName.morph

/-- The field of an object type that a planned field becomes. -/
def toTypeField (field : FieldPlan) : TypeField :=
  ⟨field, field.arguments.fields, field.typeReference⟩

end FieldPlan

end TableGraph
