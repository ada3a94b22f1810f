import TableGraph.Configuration.Basic
import TableGraph.Scalar

/-!
# Plans

A plan describes the object types and fields that are generated from the
structure of a database: one object type for each exposed table, its columns,
and the fields that follow references in both directions.
-/

namespace TableGraph

/-- Whether a name is a name of GraphQL: a letter or an underscore, then
letters, digits and underscores, all of ASCII. -/
def isGraphName (name : String) : Bool :=
  match name.toList with
  | [] => false
  | first :: rest =>
    (first == '_' || first.isAlpha) && rest.all fun character =>
      character == '_' || character.isAlphanum

/-- The type of a planned field. -/
inductive FieldType where
  | scalar (scalar : Scalar)
  /-- One row of the named object type. -/
  | object (name : String)
  /-- Rows of the named object type. -/
  | list (name : String)
  | count
  /-- One row of any object type. -/
  | morph
  deriving DecidableEq, Repr

/-- The written form of the type of a field. -/
def FieldType.describe : FieldType → String
  | .scalar kind => "Scalar(" ++ kind.name ++ ")"
  | .object typeName => "Object(\"" ++ typeName ++ "\")"
  | .list typeName => "List(\"" ++ typeName ++ "\")"
  | .count => "Count"
  | .morph => "Morph"

/-- The arguments of a planned field. -/
inductive ArgumentSet where
  | none
  /-- Pagination, order and conditions. -/
  | list
  /-- Order and conditions. -/
  | count
  deriving DecidableEq, Repr

/-- How the value of a field is found. -/
inductive ResolverKind where
  /-- All rows of a table. -/
  | table
  | tableCount
  /-- The row that the parent row references. -/
  | belongsTo
  /-- The rows that reference the parent row. -/
  | hasMany
  | hasManyCount
  /-- The row that a polymorphic reference of the parent row leads to. -/
  | morphTo
  deriving DecidableEq, Repr

/-- Whether a resolver starts from a parent row. -/
def ResolverKind.needsParent : ResolverKind → Bool
  | .table => false
  | .tableCount => false
  | _ => true

/-- The written name of a kind. -/
def ResolverKind.name : ResolverKind → String
  | .table => "Table"
  | .tableCount => "TableCount"
  | .belongsTo => "BelongsTo"
  | .hasMany => "HasMany"
  | .hasManyCount => "HasManyCount"
  | .morphTo => "MorphTo"

/-- What a resolver has to know of its field. -/
structure FieldSettings where
  tableName : Option String
  referencingColumn : Option String
  referencingTypeColumn : Option String
  morphRelation : Option MorphRelation
  columnName : Option String
  deriving DecidableEq, Repr

def FieldSettings.blank : FieldSettings := ⟨none, none, none, none, none⟩

instance : Inhabited FieldSettings := ⟨.blank⟩

/-- A planned field. -/
structure FieldPlan where
  name : String
  type : FieldType
  nullable : Bool
  arguments : ArgumentSet
  resolver : Option ResolverKind
  settings : FieldSettings
  description : Option String
  deriving DecidableEq, Repr

namespace FieldPlan

/-- The field of a column. -/
def ofColumn (column : Column) (scalar : Scalar) : FieldPlan where
  name := column.name
  type := .scalar scalar
  nullable := column.nullable
  arguments := .none
  resolver := none
  settings := { FieldSettings.blank with columnName := some column.name }
  description := column.comment

/-- A field of many rows. -/
def list (name object : String) (resolver : ResolverKind) (settings : FieldSettings) : FieldPlan where
  name := name
  type := .list object
  nullable := false
  arguments := .list
  resolver := some resolver
  settings := settings
  description := none

/-- The end of the name of a count field. -/
def countSuffix : String := "_count"

/-- The field that counts the rows of the field of a name. -/
def count (name : String) (resolver : ResolverKind) (settings : FieldSettings) : FieldPlan where
  name := name ++ countSuffix
  type := .count
  nullable := false
  arguments := .count
  resolver := some resolver
  settings := settings
  description := none

end FieldPlan

/-- The object type of an exposed table. -/
structure ObjectPlan where
  table : String
  name : String
  fields : List FieldPlan
  deriving DecidableEq, Repr

/-- Whether a field of a name is among some fields. -/
def hasField (fields : List FieldPlan) (name : String) : Bool :=
  fields.any fun field => field.name == name

/-- Add a field unless there is one of its name. -/
def pushField (fields : List FieldPlan) (field : FieldPlan) : List FieldPlan :=
  if hasField fields field.name then fields else fields ++ [field]

/-- Add fields one after the other. -/
def pushFields (fields added : List FieldPlan) : List FieldPlan := added.foldl pushField fields

/-- The root fields and the object types of a schema. -/
structure SchemaPlan where
  query : List FieldPlan
  objects : List ObjectPlan
  deriving DecidableEq, Repr

namespace SchemaPlan

/-- The object type of a table. -/
def object? (plan : SchemaPlan) (table : String) : Option ObjectPlan :=
  plan.objects.find? fun object => object.table == table

/-- Whether some field leads to a row of any type. -/
def hasMorphFields (plan : SchemaPlan) : Bool :=
  plan.objects.any fun object => object.fields.any fun field => field.type == .morph

end SchemaPlan

end TableGraph
