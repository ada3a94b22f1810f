import TableGraph.Schema.Basic

/-!
# Schema documents

The text of a schema in the schema definition language: the types in the order
of their names, the directives, and the root type.  Fields are indented by a tab;
a description stands in three quotes on lines of its own, indented like what it
describes.
-/

namespace TableGraph.Schema

/-- The lines of a description, each line of its text behind the indentation. -/
def describe (indentation : String) : Option String → String
  | none => ""
  | some description =>
    let text := description.toList.flatMap fun character =>
      if character = '\n' then '\n' :: indentation.toList else [character]
    indentation ++ "\"\"\"\n" ++ indentation ++ String.ofList text ++ "\n" ++ indentation ++
      "\"\"\"\n"

/-- A name with its type. -/
def renderInput (field : InputField) : String := field.name ++ ": " ++ field.type.render

/-- The arguments of a field in parentheses, if there are any. -/
def renderArguments (arguments : List InputField) : String :=
  if arguments.isEmpty then "" else "(" ++ ", ".intercalate (arguments.map renderInput) ++ ")"

/-- The lines of a field. -/
def renderField (field : TypeField) : String :=
  describe "\t" field.plan.description ++ "\t" ++ field.plan.name ++
    renderArguments field.arguments ++ ": " ++ field.type.render ++ "\n"

/-- A keyword with a name and lines in braces. -/
def block (keyword name : String) (lines : List String) : String :=
  keyword ++ " " ++ name ++ " \x7b\n" ++ String.join lines ++ "\x7d\n\n"

/-- The lines of a type, with an empty line behind them. -/
def renderType (entry : String × TypeDefinition) : String :=
  let (name, definition) := entry
  match definition with
  | .object fields => block "type" name (fields.map renderField)
  | .union members => "union " ++ name ++ " = " ++ " | ".intercalate members ++ "\n\n"
  | .enumeration values => block "enum" name (values.map fun value => "\t" ++ value ++ "\n")
  | .input description fields =>
    describe "" description ++
      block "input" name (fields.map fun field => "\t" ++ renderInput field ++ "\n")

/-- The directives that leave out fields and fragments. -/
def renderDirectives : String :=
  describe "" (some ("Directs the executor to include this field or fragment only when the " ++
    "`if` argument is true.")) ++
    "directive @include(if: Boolean!) on FIELD | FRAGMENT_SPREAD | INLINE_FRAGMENT\n" ++
    describe "" (some ("Directs the executor to skip this field or fragment when the " ++
      "`if` argument is true.")) ++
    "directive @skip(if: Boolean!) on FIELD | FRAGMENT_SPREAD | INLINE_FRAGMENT\n"

/-- The document of a schema. -/
def render (schema : Schema) : String :=
  String.join (schema.types.map renderType) ++ renderDirectives ++
    "schema \x7b\n\tquery: " ++ TypeName.query ++ "\n\x7d\n"

end TableGraph.Schema
