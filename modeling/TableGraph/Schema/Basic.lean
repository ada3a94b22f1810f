import TableGraph.Condition.Compiler
import TableGraph.Schema.Type

/-!
# Schemas

A schema is a plan with its named types.  Types are registered in order and a
later one takes the place of an earlier one of its name; the outcome must be a
valid type system.
-/

namespace TableGraph

/-- A schema that can be shown and executed. -/
structure Schema where
  plan : SchemaPlan
  compiler : Compiler
  /-- The named types in the order of their names. -/
  types : List (String × TypeDefinition)

namespace SchemaPlan

/-- The types of a plan in the order of their registration. -/
def registrations (plan : SchemaPlan) : List (String × TypeDefinition) :=
  [(TypeName.query, TypeDefinition.object (plan.query.map FieldPlan.toTypeField))] ++
    plan.objects.map (fun object => (object.name, .object (object.fields.map FieldPlan.toTypeField))) ++
    (if plan.hasMorphFields then [(TypeName.morph, .union (plan.objects.map ObjectPlan.name))]
      else []) ++
    argumentTypes

/-- The named types of a plan. -/
def types (plan : SchemaPlan) : List (String × TypeDefinition) := sortedPairs plan.registrations

end SchemaPlan

namespace Schema

/-! ## Look-ups -/

/-- The definition of a named type; scalars have none. -/
def type? (schema : Schema) (name : String) : Option TypeDefinition := schema.types.lookup name

/-- A field of an object type. -/
def field? (schema : Schema) (typeName name : String) : Option TypeField :=
  match schema.type? typeName with
  | some (.object fields) => fields.find? fun field => field.plan.name == name
  | _ => none

/-- The object types a composite type stands for; other types have none. -/
def possibleTypes (schema : Schema) (name : String) : List String :=
  match schema.type? name with
  | some (.object _) => [name]
  | some (.union members) => members
  | _ => []

/-- Whether fields are selected of a type. -/
def isComposite (schema : Schema) (name : String) : Bool :=
  match schema.type? name with
  | some (.object _) => true
  | some (.union _) => true
  | _ => false

/-- Whether a type is known. -/
def isKnown (schema : Schema) (name : String) : Bool :=
  (schema.type? name).isSome || (Scalar.ofName? name).isSome

/-! ## Validity -/

/-- Whether a name begins like the names that are reserved for introspection. -/
def isReservedName (name : String) : Bool := ['_', '_'].isPrefixOf name.toList

/-- Whether a type may be the type of a field. -/
def isOutputType (types : List (String × TypeDefinition)) (name : String) : Bool :=
  match types.lookup name with
  | some (.input ..) => false
  | some _ => true
  | none => (Scalar.ofName? name).isSome

/-- Whether a type is an object type. -/
def isObjectType (types : List (String × TypeDefinition)) (name : String) : Bool :=
  match types.lookup name with
  | some (.object _) => true
  | _ => false

/-- Whether a named type is valid among the others. -/
def isValidType (types : List (String × TypeDefinition)) (entry : String × TypeDefinition) : Bool :=
  (Scalar.ofName? entry.1).isNone &&
    match entry.2 with
    | .object fields => !fields.isEmpty && fields.all fun field =>
        !isReservedName field.plan.name && isOutputType types field.type.baseName
    | .union members => members.all (isObjectType types)
    | _ => true

/-! ## Construction -/

/-- The schema of a plan, or the error why there is none. -/
def ofPlan (plan : SchemaPlan) (firstParty : Bool) : Except RequestError Schema :=
  if plan.objects.isEmpty then .error .noTables
  else
    let types := plan.types
    if types.all (isValidType types) then .ok ⟨plan, .new firstParty, types⟩
    else .error .invalidTypes

/-- The object type name of a table. -/
def typeNames (plan : SchemaPlan) : List (String × String) :=
  pairsOf (plan.objects.map fun object => (object.table, object.name))

end Schema

end TableGraph
