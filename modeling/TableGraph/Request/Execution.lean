import TableGraph.Condition.Document
import TableGraph.Request.Validation
import TableGraph.Resolver

/-!
# Executing requests

Fields are resolved strictly in the order of the request, each with everything
below it before the next.  The first failure ends the whole request: the
response then has no data.  Fields with one name in the response are resolved
each time and merged afterwards.
-/

namespace TableGraph.Request

/-- A request as a client sends it. -/
structure Message where
  query : String
  operation : Option String
  bindings : Variables

/-- Why a request has no data. -/
inductive RequestFailure where
  /-- The request is malformed or invalid, or a field that may not be null is. -/
  | engine
  /-- A field failed. -/
  | field (error : RequestError) (position : Position)
  deriving DecidableEq, Repr

/-- A computation that acts on a session and may end the request. -/
abbrev Executing (State : Type) := ExceptT RequestFailure (StateM (Session State))

/-- What a field is before its selections are applied. -/
inductive FieldValue where
  | json (value : Json)
  | row (row : Row)
  /-- A row with its object type. -/
  | tagged (typeName : String) (row : Row)
  | rows (rows : List Row)

/-- What execution depends on. -/
structure Execution (State Selection : Type) where
  schema : Schema
  resolver : Resolver State Selection
  document : Document
  operation : Operation
  bindings : Variables

namespace Execution

variable {State Selection : Type}

/-! ## Conditions -/

/-- The truth value of a condition; what is no truth value counts as false. -/
def conditionValue (bindings : Variables) (directive : Directive) : Bool :=
  match (directive.arguments.lookup "if").bind fun value =>
      value.replace? fun name => bindings.lookup name with
  | some (.boolean value) => value
  | _ => false

/-- Whether a directive leaves out the selection it stands at. -/
def leavesOut (bindings : Variables) (directive : Directive) : Bool :=
  if directive.name = "skip" then conditionValue bindings directive
  else if directive.name = "include" then !conditionValue bindings directive
  else false

/-- Whether no directive leaves out a selection. -/
def isKept (bindings : Variables) (directives : List Directive) : Bool :=
  !directives.any (leavesOut bindings)

/-! ## Collecting fields -/

/-- A field that is to be resolved. -/
structure CollectedField where
  position : Position
  responseName : String
  name : String
  arguments : List (String × InputValue)
  selections : List Request.Selection

/-- The fields that selections stand for in an object of a type; `levels` bounds
the nesting of fragments. -/
def collect (document : Document) (bindings : Variables) (typeName : String) :
    Nat → List Request.Selection → List CollectedField
  | 0, _ => []
  | levels + 1, selections => selections.flatMap fun selection =>
    match selection with
    | .field position responseName name arguments directives inner =>
      if isKept bindings directives then [⟨position, responseName, name, arguments, inner⟩] else []
    | .inline condition directives inner =>
      if isKept bindings directives && condition.all (· == typeName) then
        collect document bindings typeName levels inner
      else []
    | .spread name directives =>
      match document.fragment? name with
      | some fragment =>
        if isKept bindings directives && fragment.condition == typeName then
          collect document bindings typeName levels fragment.selections
        else []
      | none => []

/-! ## Arguments -/

/-- The value of a declared variable: the given one, else its initial value, else
null where that is allowed. -/
def variableValue (execution : Execution State Selection) (name : String) : Option InputValue :=
  (execution.operation.declarations.find? fun definition => definition.name == name).bind
    fun definition =>
      (execution.bindings.lookup name).or
        (definition.initial.or (if definition.type.isNonNull then none else some .null))

/-- The arguments of a field as a document. -/
def argumentFields (execution : Execution State Selection) (arguments : List (String × InputValue)) :
    Option (List (String × Json)) :=
  (InputValue.replaceFields? execution.variableValue arguments).map InputValue.toFields

/-! ## Fields -/

/-- The value of a column; null and a missing column are none. -/
def columnValue (row : Row) (column : String) (scalar : Scalar) :
    Except RequestError (Option FieldValue) :=
  match row.value? column with
  | none => .ok none
  | some value =>
    if value.isNull then .ok none
    else (scalar.showValue value).map fun shown => some (.json shown)

/-- What a resolver found as the value of a field. -/
def ofResolved : Resolved → Option FieldValue
  | .rows rows => some (.rows rows)
  | .row row => row.map .row
  | .tagged row => row.map fun (typeName, row) => .tagged typeName row
  | .count count => some (.json (.integer count.toInt))

/-- The row a field is asked of. -/
def requireRow (parent : Option Row) : Except RequestError Row :=
  match parent with
  | some row => .ok row
  | none => .error .notARow

/-- The value of a planned field. -/
def resolveField (execution : Execution State Selection) (plan : FieldPlan) (parent : Option Row)
    (fields : List (String × Json)) : Resolving State (Option FieldValue) := do
  match plan.resolver, plan.type with
  | some kind, _ =>
    let arguments ← Arguments.read fields
    let parent ← if kind.needsParent then (some <$> requireRow parent) else pure none
    return ofResolved (← execution.resolver.resolve kind parent arguments plan.settings)
  | none, .scalar scalar =>
    columnValue (← requireRow parent) (plan.settings.columnName.getD plan.name) scalar
  | none, type => throw (.unboundField plan.name type.describe)

/-- Resolve a field, its failure standing at its place in the request. -/
def resolveAt (execution : Execution State Selection) (field : CollectedField) (plan : FieldPlan)
    (parent : Option Row) (fields : List (String × Json)) : Executing State (Option FieldValue) :=
  fun session =>
    let (outcome, session) := execution.resolveField plan parent fields session
    (outcome.mapError fun error => .field error field.position, session)

/-! ## Values -/

/-- How the selections of a field are applied to a row of an object type. -/
abbrev ObjectReader (State : Type) := (typeName : String) → Row → Executing State Json

/-- A value as the value of a named type. -/
def completeNamed (execution : Execution State Selection) (readObject : ObjectReader State)
    (name : String) (value : FieldValue) : Executing State Json :=
  match execution.schema.type? name, value with
  | none, .json shown => return shown
  | some (.object _), .row row => readObject name row
  | some (.object _), .tagged _ row => readObject name row
  | some (.union members), .tagged typeName row =>
    if members.contains typeName then readObject typeName row else throw .engine
  | some (.enumeration values), .json (.text shown) =>
    if values.contains shown then return .text shown else throw .engine
  | _, _ => throw .engine

/-- A value as the value of a type, lists element by element. -/
def complete (execution : Execution State Selection) (readObject : ObjectReader State) :
    TypeReference → Option FieldValue → Executing State Json
  | .nonNull _, none => throw .engine
  | .nonNull inner, value => execution.complete readObject inner value
  | _, none => return .null
  | .named name, some value => execution.completeNamed readObject name value
  | .list element, some (.rows rows) => do
    let shown ← rows.mapM fun row => execution.complete readObject element (some (.row row))
    return .array shown
  | .list _, some _ => throw .engine

/-! ## Merging -/

/-- Merge into the field of a name; a new name is added with a value. -/
def updateField (name : String) (value : Json) (merge : Json → Json) :
    List (String × Json) → List (String × Json)
  | [] => [(name, value)]
  | (other, held) :: rest =>
    if other = name then (other, merge held) :: rest
    else (other, held) :: updateField name value merge rest

mutual

/-- Merge a value into the one that holds its name; only objects grow. -/
def mergeValue : Json → Json → Json
  | .object added, .object fields => .object (mergeFields added fields)
  | .array added, .array elements => .array (mergeElements added elements)
  | _, held => held

/-- Merge the objects of a list into those of another. -/
def mergeElements : List Json → List Json → List Json
  | .object added :: later, .object fields :: rest =>
    .object (mergeFields added fields) :: mergeElements later rest
  | _ :: later, held :: rest => held :: mergeElements later rest
  | _, elements => elements

/-- Merge fields one after the other. -/
def mergeFields : List (String × Json) → List (String × Json) → List (String × Json)
  | [], fields => fields
  | (name, value) :: rest, fields =>
    mergeFields rest (updateField name value (mergeValue value) fields)

end

/-! ## Selections -/

/-- Read a field of an object. -/
def readField (execution : Execution State Selection)
    (readSelections : String → Option Row → List Request.Selection → Executing State Json)
    (typeName : String) (parent : Option Row) (field : CollectedField) :
    Executing State (String × Json) := do
  if field.name = Validation.typeNameField then return (field.responseName, .text typeName)
  let some declared := execution.schema.field? typeName field.name | throw .engine
  let some arguments := execution.argumentFields field.arguments | throw .engine
  let value ← execution.resolveAt field declared.plan parent arguments
  let readObject : ObjectReader State := fun typeName row =>
    readSelections typeName (some row) field.selections
  return (field.responseName, ← execution.complete readObject declared.type value)

/-- Read the selections of an object; `levels` bounds their nesting. -/
def readSelections (execution : Execution State Selection) :
    Nat → String → Option Row → List Request.Selection → Executing State Json
  | 0, _, _, _ => throw .engine
  | levels + 1, typeName, parent, selections => do
    let collected := collect execution.document execution.bindings typeName
      (depthLimit + 1) selections
    let fields ← collected.mapM fun field =>
      execution.readField (execution.readSelections levels) typeName parent field
    return .object (mergeFields fields [])

end Execution

/-! ## Requests -/

namespace Message

/-- The operation of a document that a request asks for. -/
def operation? (message : Message) (document : Document) : Option Operation :=
  match message.operation, document.operations with
  | some name, operations => operations.find? fun operation => operation.name == some name
  | none, [operation] => some operation
  | none, _ => none

end Message

/-- The data of a response; a failure takes the place of all data. -/
abbrev Outcome := Except RequestFailure Json

/-- Execute a request against a schema. -/
def execute {State Selection : Type} (schema : Schema) (datastore : Datastore State Selection)
    (message : Message) : Executing State Json := do
  let some document := Document.parse? message.query | throw .engine
  if !(Validation.mk schema document message.bindings).isDocument then throw .engine
  let some operation := message.operation? document | throw .engine
  let resolver : Resolver State Selection :=
    ⟨datastore, schema.compiler, Schema.typeNames schema.plan⟩
  let execution : Execution State Selection :=
    ⟨schema, resolver, document, operation, message.bindings⟩
  execution.readSelections (depthLimit + 1) TypeName.query none operation.selections

end TableGraph.Request
