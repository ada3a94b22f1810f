import TableGraph.Request.Token
import TableGraph.Schema.Type

/-!
# Request documents

A document holds operations, which select fields of the root type, and
fragments, which are selections with a name.
-/

namespace TableGraph.Request

/-- A value that is written in a request or given for a variable. -/
inductive InputValue where
  | null
  | boolean (value : Bool)
  | integer (value : Int)
  | float (value : Double)
  | text (value : String)
  | enumeration (name : String)
  | list (elements : List InputValue)
  | object (fields : List (String × InputValue))
  | variable (name : String)
  deriving BEq, Repr

instance : Inhabited InputValue := ⟨.null⟩

/-- A condition or another mark on a part of a request. -/
structure Directive where
  name : String
  arguments : List (String × InputValue)
  deriving Repr

/-- What is selected of a type. -/
inductive Selection where
  | field (position : Position) (responseName name : String)
      (arguments : List (String × InputValue)) (directives : List Directive)
      (selections : List Selection)
  /-- The selections of a named fragment. -/
  | spread (fragment : String) (directives : List Directive)
  /-- Selections that apply to a type only, or to any without a condition. -/
  | inline (condition : Option String) (directives : List Directive) (selections : List Selection)
  deriving Repr

/-- The declaration of a variable. -/
structure VariableDefinition where
  name : String
  type : TypeReference
  directives : List Directive
  initial : Option InputValue
  deriving Repr

/-- What an operation does. -/
inductive OperationKind where
  | query
  | mutation
  | subscription
  deriving DecidableEq, Repr

/-- An operation. -/
structure Operation where
  name : Option String
  kind : OperationKind
  declarations : List VariableDefinition
  directives : List Directive
  selections : List Selection
  deriving Repr

/-- A selection with a name. -/
structure FragmentDefinition where
  name : String
  condition : String
  directives : List Directive
  selections : List Selection
  deriving Repr

/-- The definitions of a request. -/
structure Document where
  operations : List Operation
  fragments : List FragmentDefinition
  deriving Repr

namespace Document

def fragment? (document : Document) (name : String) : Option FragmentDefinition :=
  document.fragments.find? fun fragment => fragment.name == name

end Document

/-! ## Values as documents -/

namespace InputValue

mutual

/-- The value a document stands for. -/
def ofJson : Json → InputValue
  | .null => .null
  | .bool value => .boolean value
  | .integer value => .integer value
  | .float value => .float value
  | .text value => .text value
  | .array elements => .list (ofElements elements)
  | .object fields => .object (ofFields fields)

/-- The values of the elements of a list. -/
def ofElements : List Json → List InputValue
  | [] => []
  | element :: rest => ofJson element :: ofElements rest

/-- The values of the fields of an object. -/
def ofFields : List (String × Json) → List (String × InputValue)
  | [] => []
  | (name, value) :: rest => (name, ofJson value) :: ofFields rest

end

mutual

/-- A value as a document: the name of an enumeration value is a text, and a
variable that was not replaced is null. -/
def toJson : InputValue → Json
  | .null => .null
  | .boolean value => .bool value
  | .integer value => .integer value
  | .float value => .float value
  | .text value => .text value
  | .enumeration name => .text name
  | .list elements => .array (toElements elements)
  | .object fields => .object (toFields fields)
  | .variable _ => .null

/-- The documents of the elements of a list. -/
def toElements : List InputValue → List Json
  | [] => []
  | element :: rest => element.toJson :: toElements rest

/-- The documents of the fields of an object. -/
def toFields : List (String × InputValue) → List (String × Json)
  | [] => []
  | (name, value) :: rest => (name, value.toJson) :: toFields rest

end

mutual

/-- Put values in place of the variables; absent when one has none. -/
def replace? (values : String → Option InputValue) : InputValue → Option InputValue
  | .variable name => values name
  | .list elements => (replaceElements? values elements).map .list
  | .object fields => (replaceFields? values fields).map .object
  | value => some value

/-- Put values in place of the variables of a list. -/
def replaceElements? (values : String → Option InputValue) :
    List InputValue → Option (List InputValue)
  | [] => some []
  | element :: rest => do return (← element.replace? values) :: (← replaceElements? values rest)

/-- Put values in place of the variables of an object. -/
def replaceFields? (values : String → Option InputValue) :
    List (String × InputValue) → Option (List (String × InputValue))
  | [] => some []
  | (name, value) :: rest => do
    return (name, ← value.replace? values) :: (← replaceFields? values rest)

end

mutual

/-- The variables a value mentions. -/
def variableNames : InputValue → List String
  | .variable name => [name]
  | .list elements => elementVariables elements
  | .object fields => fieldVariables fields
  | _ => []

/-- The variables the elements of a list mention. -/
def elementVariables : List InputValue → List String
  | [] => []
  | element :: rest => element.variableNames ++ elementVariables rest

/-- The variables the fields of an object mention. -/
def fieldVariables : List (String × InputValue) → List String
  | [] => []
  | (_, value) :: rest => value.variableNames ++ fieldVariables rest

end

end InputValue

end TableGraph.Request
