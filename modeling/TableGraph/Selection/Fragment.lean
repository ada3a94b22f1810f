import TableGraph.Value

/-!
# Fragments

A fragment is a piece of an SQL expression with the parameters of its
placeholders, in the order in which the placeholders stand.
-/

namespace TableGraph

/-- What is bound to a placeholder of an expression. -/
inductive Parameter where
  /-- One value, bound to `?`. -/
  | value (value : Value)
  /-- A list of values, which `?` is widened to. -/
  | list (values : List Value)
  /-- A name, which is written in place of `?name`. -/
  | identifier (name : String)
  deriving DecidableEq, Repr

/-- An expression with the parameters of its placeholders. -/
structure Fragment where
  expression : String
  parameters : List Parameter
  deriving DecidableEq, Repr

namespace Fragment

/-- An expression in parentheses. -/
def enclosed (fragment : Fragment) : Fragment :=
  { fragment with expression := "(" ++ fragment.expression ++ ")" }

/-- An expression with something written behind it. -/
def followedBy (fragment : Fragment) (text : String) (parameters : List Parameter) : Fragment :=
  ⟨fragment.expression ++ text, fragment.parameters ++ parameters⟩

/-- Two fragments with a separator between them. -/
def append (separator : String) (first second : Fragment) : Fragment :=
  ⟨first.expression ++ separator ++ second.expression, first.parameters ++ second.parameters⟩

/-- The fragments one behind the other, absent when there are none. -/
def join? (separator : String) : List Fragment → Option Fragment
  | [] => none
  | first :: rest => some (rest.foldl (append separator) first)

end Fragment

end TableGraph
