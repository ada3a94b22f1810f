import TableGraph.Request.Document
import TableGraph.Schema.Basic

/-!
# Values and their types

A written value fits an input type, where a single value stands for a list of
one.  A variable fits where its declared type is at least as strict as the type
that is asked for.
-/

namespace TableGraph.Request

/-! ## Values -/

/-- The scalar type that every value in a condition has. -/
def isScalarValue (scalar : Scalar) (value : InputValue) : Bool :=
  match scalar, value with
  | .string, .text _ => true
  | .id, .text _ => true
  | .id, .integer number => fitsInt64 number
  | .int, .integer number => fitsInt64 number
  | .float, .integer _ => true
  | .float, .float _ => true
  | .boolean, .boolean _ => true
  | _, _ => false

/-- Whether a value without parts is a value of a named type.  The name of an
enumeration value may be written as a text. -/
def isLeafValue (schema : Schema) (typeName : String) (value : InputValue) : Bool :=
  match schema.type? typeName, value with
  | some (.enumeration values), .enumeration name => values.contains name
  | some (.enumeration values), .text name => values.contains name
  | none, value => (Scalar.ofName? typeName).any fun scalar => isScalarValue scalar value
  | _, _ => false

/-- The fields of an input type. -/
def inputFields? (schema : Schema) (typeName : String) : Option (List InputField) :=
  match schema.type? typeName with
  | some (.input _ fields) => some fields
  | _ => none

/-- The type of a field among others. -/
def fieldType? (declared : List InputField) (name : String) : Option TypeReference :=
  (declared.find? fun field => field.name == name).map InputField.type

/-- Whether every field that may not be null is there. -/
def hasRequiredFields (declared : List InputField) (names : List String) : Bool :=
  declared.all fun field => !field.type.isNonNull || names.contains field.name

mutual

/-- Whether a value is a value of a type. -/
def isValueOf (schema : Schema) (type : TypeReference) : InputValue → Bool
  | .null => !type.isNonNull
  | .list elements =>
    match type.nullable with
    | .list element => areValuesOf schema element elements
    | _ => false
  | .object fields =>
    match inputFields? schema type.baseName with
    | some declared =>
      hasRequiredFields declared (fields.map Prod.fst) && areFieldsOf schema declared fields
    | none => false
  | value => isLeafValue schema type.baseName value

/-- Whether all elements are values of a type. -/
def areValuesOf (schema : Schema) (type : TypeReference) : List InputValue → Bool
  | [] => true
  | element :: rest => isValueOf schema type element && areValuesOf schema type rest

/-- Whether all fields are declared and have values of their types. -/
def areFieldsOf (schema : Schema) (declared : List InputField) :
    List (String × InputValue) → Bool
  | [] => true
  | (name, value) :: rest =>
    (match fieldType? declared name with
      | some type => isValueOf schema type value
      | none => false) && areFieldsOf schema declared rest

end

/-! ## Variables -/

mutual

/-- The variables in a value with the types asked of them.  What stands for a
list of one is not looked into. -/
def usages (schema : Schema) (type : TypeReference) : InputValue → List (String × TypeReference)
  | .variable name => [(name, type)]
  | .list elements =>
    match type.nullable with
    | .list element => elementUsages schema element elements
    | _ => []
  | .object fields =>
    match type.nullable with
    | .named name => fieldUsages schema ((inputFields? schema name).getD []) fields
    | _ => []
  | _ => []

/-- The variables in the elements of a list. -/
def elementUsages (schema : Schema) (type : TypeReference) :
    List InputValue → List (String × TypeReference)
  | [] => []
  | element :: rest => usages schema type element ++ elementUsages schema type rest

/-- The variables in the fields of an object. -/
def fieldUsages (schema : Schema) (declared : List InputField) :
    List (String × InputValue) → List (String × TypeReference)
  | [] => []
  | (name, value) :: rest =>
    (match fieldType? declared name with
      | some type => usages schema type value
      | none => []) ++ fieldUsages schema declared rest

end

/-- Whether a variable of one type can stand where another type is asked for. -/
def allowsVariable : TypeReference → TypeReference → Bool
  | .nonNull asked, .nonNull declared => allowsVariable asked declared
  | .named asked, .nonNull declared => allowsVariable (.named asked) declared
  | .list asked, .nonNull declared => allowsVariable asked declared
  | .named asked, .named declared => asked == declared
  | .list asked, .list declared => allowsVariable asked declared
  | _, _ => false

/-- The type a variable counts as: with an initial value it is never null. -/
def VariableDefinition.effectiveType (definition : VariableDefinition) : TypeReference :=
  if definition.initial.isSome && !definition.type.isNonNull then .nonNull definition.type
  else definition.type

end TableGraph.Request
