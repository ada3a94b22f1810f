import TableGraph.Request.Parser
import TableGraph.Request.Typing

/-!
# Validity of requests

A request is executed only if every part of it makes sense for the schema:
fields, arguments, fragments, directives and variables are known, have the
right types, and none of them is superfluous.  Selections are nested to a
bounded depth, fragments included, so that no fragment contains itself.
-/

namespace TableGraph.Request

/-- How deeply selections may be nested below the outermost ones. -/
def depthLimit : Nat := 32

/-- Values that are given for variables. -/
abbrev Variables := List (String × InputValue)

/-- What the validity of a selection depends on. -/
structure Validation where
  schema : Schema
  document : Document
  bindings : Variables

namespace Validation

/-! ## Nesting -/

/-- Whether selections are nested less deeply than a number of levels. -/
def isNestedWithin (document : Document) : Nat → List Selection → Bool
  | 0, _ => false
  | levels + 1, selections => selections.all fun selection =>
    match selection with
    | .field _ _ _ _ _ inner => inner.isEmpty || isNestedWithin document levels inner
    | .inline _ _ inner => isNestedWithin document levels inner
    | .spread name _ =>
      (document.fragment? name).all fun fragment =>
        isNestedWithin document levels fragment.selections

/-! ## Arguments and directives -/

/-- Whether the value of an argument has its type; with a variable that no value
is given for this is left open. -/
def isArgumentValue (context : Validation) (type : TypeReference) (value : InputValue) : Bool :=
  (value.replace? fun name => context.bindings.lookup name).all (isValueOf context.schema type)

/-- Whether arguments are declared, not repeated, and have values of their types. -/
def areArguments (context : Validation) (declared : List InputField)
    (arguments : List (String × InputValue)) : Bool :=
  Document.allDistinct (arguments.map Prod.fst) &&
    hasRequiredFields declared (arguments.map Prod.fst) &&
    arguments.all fun (name, value) =>
      (fieldType? declared name).any fun type => context.isArgumentValue type value

/-- The arguments of the directives. -/
def directiveArguments : List InputField :=
  [⟨"if", .nonNull (.named Scalar.boolean.name)⟩]

def directiveNames : List String := ["skip", "include"]

/-- Whether the directives of a selection are known and not repeated. -/
def areDirectives (context : Validation) (directives : List Directive) : Bool :=
  Document.allDistinct (directives.map Directive.name) &&
    directives.all fun directive =>
      directiveNames.contains directive.name &&
        context.areArguments directiveArguments directive.arguments

/-! ## Selections -/

/-- Whether some object type belongs to both types. -/
def overlap (schema : Schema) (left right : String) : Bool :=
  (schema.possibleTypes left).any (schema.possibleTypes right).contains

/-- The name of the field that tells the type of an object. -/
def typeNameField : String := "__typename"

/-- Whether a fragment on a type can apply where another type is selected from. -/
def isCondition (schema : Schema) (parent condition : String) : Bool :=
  schema.isComposite condition && overlap schema parent condition

mutual

/-- Whether a selection makes sense for a type. -/
def isSelection (context : Validation) (parent : String) : Selection → Bool
  | .field _ _ name arguments directives selections =>
    name == typeNameField ||
      match context.schema.field? parent name with
      | none => false
      | some field =>
        let type := field.type.baseName
        selections.isEmpty != context.schema.isComposite type &&
          context.areArguments field.arguments arguments && context.areDirectives directives &&
          areSelections context type selections
  | .spread name directives =>
    context.areDirectives directives &&
      match context.document.fragment? name with
      | none => false
      | some fragment => isCondition context.schema parent fragment.condition
  | .inline condition directives selections =>
    context.areDirectives directives &&
      match condition with
      | none => areSelections context parent selections
      | some condition =>
        isCondition context.schema parent condition &&
          areSelections context condition selections

/-- Whether all selections make sense for a type. -/
def areSelections (context : Validation) (parent : String) : List Selection → Bool
  | [] => true
  | first :: rest => isSelection context parent first && areSelections context parent rest

end

/-! ## Names in the response -/

/-- A field as it appears in a response, with the condition of the fragment it
stands in. -/
structure Output where
  condition : Option String
  responseName : String
  name : String
  arguments : List (String × InputValue)

/-- Whether a field has the arguments of another one. -/
def sameArguments (left right : List (String × InputValue)) : Bool :=
  left.length == right.length && left.all fun (name, value) => right.lookup name == some value

/-- Whether two fields do not claim one name in the response for different things. -/
def agree (left right : Output) : Bool :=
  left.condition != right.condition || left.responseName != right.responseName ||
    (left.name == right.name && sameArguments left.arguments right.arguments)

/-- The fields of a selection, those of fragments included; `levels` bounds the
nesting of fragments. -/
def outputs (document : Document) : Nat → Option String → List Selection → List Output
  | 0, _, _ => []
  | levels + 1, condition, selections => selections.flatMap fun selection =>
    match selection with
    | .field _ responseName name arguments _ _ => [⟨condition, responseName, name, arguments⟩]
    | .inline inner _ selections => outputs document levels inner selections
    | .spread name _ =>
      match document.fragment? name with
      | some fragment => outputs document levels (some fragment.condition) fragment.selections
      | none => []

/-- Whether all fields agree with each other. -/
def allAgree : List Output → Bool
  | [] => true
  | first :: rest => rest.all (agree first) && allAgree rest

/-- Whether the fields of a selection agree. -/
def isMergeable (document : Document) (selections : List Selection) : Bool :=
  allAgree (outputs document (depthLimit + 1) none selections)

mutual

/-- Whether the fields agree in every selection below one. -/
def isMergeableBelow (document : Document) : Selection → Bool
  | .field _ _ _ _ _ selections =>
    isMergeable document selections && areMergeableBelow document selections
  | .inline _ _ selections =>
    isMergeable document selections && areMergeableBelow document selections
  | .spread .. => true

/-- Whether the fields agree in every selection below some. -/
def areMergeableBelow (document : Document) : List Selection → Bool
  | [] => true
  | first :: rest => isMergeableBelow document first && areMergeableBelow document rest

end

/-- Whether the fields agree in some selections and everywhere below. -/
def areMergeable (document : Document) (selections : List Selection) : Bool :=
  isMergeable document selections && areMergeableBelow document selections

/-! ## Fragments and variables in use -/

/-- The fragments that selections use, directly or through others; `levels`
bounds the nesting. -/
def usedFragments (document : Document) : Nat → List Selection → List String
  | 0, _ => []
  | levels + 1, selections => selections.flatMap fun selection =>
    match selection with
    | .field _ _ _ _ _ inner => usedFragments document levels inner
    | .inline _ _ inner => usedFragments document levels inner
    | .spread name _ =>
      name ::
        match document.fragment? name with
        | some fragment => usedFragments document levels fragment.selections
        | none => []

/-- The variables that arguments use, with the types asked of them where known. -/
structure Uses where
  names : List String
  positions : List (String × TypeReference)

namespace Uses

def none : Uses := ⟨[], []⟩

def append (left right : Uses) : Uses :=
  ⟨left.names ++ right.names, left.positions ++ right.positions⟩

/-- The uses in arguments. -/
def ofArguments (schema : Schema) (declared : List InputField)
    (arguments : List (String × InputValue)) : Uses :=
  ⟨arguments.flatMap fun (_, value) => value.variableNames, fieldUsages schema declared arguments⟩

/-- The uses in directives. -/
def ofDirectives (schema : Schema) (directives : List Directive) : Uses :=
  directives.foldl (fun uses directive =>
    uses.append (ofArguments schema directiveArguments directive.arguments)) none

mutual

/-- The uses in a selection of a type, but not in the fragments it names. -/
def ofSelection (schema : Schema) (parent : String) : Selection → Uses
  | .field _ _ name arguments directives selections =>
    match schema.field? parent name with
    | some field =>
      ((ofArguments schema field.arguments arguments).append (ofDirectives schema directives)).append
        (ofSelections schema field.type.baseName selections)
    | _ => none
  | .spread _ directives => ofDirectives schema directives
  | .inline condition directives selections =>
    (ofDirectives schema directives).append
      (ofSelections schema (condition.getD parent) selections)

/-- The uses in selections of a type. -/
def ofSelections (schema : Schema) (parent : String) : List Selection → Uses
  | [] => none
  | first :: rest => (ofSelection schema parent first).append (ofSelections schema parent rest)

end

end Uses

/-- The uses in an operation, fragments included. -/
def usesOf (context : Validation) (operation : Operation) : Uses :=
  let own := Uses.ofSelections context.schema TypeName.query operation.selections
  let used := (usedFragments context.document (depthLimit + 1) operation.selections).eraseDups
  used.foldl (fun uses name =>
    match context.document.fragment? name with
    | some fragment =>
      uses.append (Uses.ofSelections context.schema fragment.condition fragment.selections)
    | none => uses) own

/-! ## Definitions -/

/-- Whether a type can be the type of a variable. -/
def isInputType (schema : Schema) (name : String) : Bool :=
  match schema.type? name with
  | some (.enumeration _) => true
  | some (.input ..) => true
  | some _ => false
  | none => (Scalar.ofName? name).isSome

/-- Whether the declaration of a variable makes sense; only what may be null has
an initial value. -/
def isVariable (schema : Schema) (definition : VariableDefinition) : Bool :=
  isInputType schema definition.type.baseName &&
    definition.initial.all fun value =>
      !definition.type.isNonNull && isValueOf schema definition.type value

/-- Whether the variables of an operation are declared once, used, and used
where they fit. -/
def areVariables (context : Validation) (operation : Operation) : Bool :=
  let declared := operation.declarations
  let names := declared.map VariableDefinition.name
  let uses := context.usesOf operation
  Document.allDistinct names && declared.all (isVariable context.schema) &&
    uses.names.all names.contains && names.all uses.names.contains &&
    uses.positions.all fun (name, asked) =>
      (declared.find? fun definition => definition.name == name).all fun definition =>
        allowsVariable asked definition.effectiveType

/-- Whether an operation is valid. -/
def isOperation (context : Validation) (operation : Operation) : Bool :=
  operation.kind == .query && operation.directives.isEmpty &&
    areSelections context TypeName.query operation.selections &&
    areMergeable context.document operation.selections && context.areVariables operation

/-- Whether a fragment is valid. -/
def isFragment (context : Validation) (fragment : FragmentDefinition) : Bool :=
  fragment.directives.isEmpty && context.schema.isComposite fragment.condition &&
    areSelections context fragment.condition fragment.selections &&
    areMergeable context.document fragment.selections

/-- Whether every fragment is used by some operation. -/
def usesAllFragments (document : Document) : Bool :=
  let used := document.operations.flatMap fun operation =>
    usedFragments document (depthLimit + 1) operation.selections
  document.fragments.all fun fragment => used.contains fragment.name

/-- Whether a document is valid. -/
def isDocument (context : Validation) : Bool :=
  let document := context.document
  (document.operations.all fun operation =>
    isNestedWithin document (depthLimit + 1) operation.selections) &&
    document.operations.all context.isOperation && document.fragments.all context.isFragment &&
    usesAllFragments document

end Validation

end TableGraph.Request
