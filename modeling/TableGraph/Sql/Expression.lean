import TableGraph.Sql.Token

/-!
# Expressions of SQL

The form of expressions as they are written, with the bound values in place of
the parameter marks.
-/

namespace TableGraph

/-- An operator in front of its operand. -/
inductive UnaryOperator where
  | negate
  | plus
  | not
  deriving DecidableEq, Repr

/-- The comparison of two cells. -/
inductive Comparison where
  | equal
  | notEqual
  | less
  | lessEqual
  | greater
  | greaterEqual
  deriving DecidableEq, Repr

/-- An operator between two numbers. -/
inductive Arithmetic where
  | add
  | subtract
  | multiply
  | divide
  | remainder
  deriving DecidableEq, Repr

/-- An operator between two operands. -/
inductive BinaryOperator where
  | either
  | both
  | compare (comparison : Comparison)
  /-- Equality that holds between two nulls. -/
  | identical
  | like
  | arithmetic (operator : Arithmetic)
  | concatenate
  deriving DecidableEq, Repr

/-- An expression. -/
inductive SqlExpression where
  | literal (value : Cell)
  | column (table : Option String) (name : String)
  | unary (operator : UnaryOperator) (operand : SqlExpression)
  | binary (operator : BinaryOperator) (left right : SqlExpression)
  | isNull (operand : SqlExpression)
  | among (operand : SqlExpression) (elements : List SqlExpression)
  | call (function : String) (distinct : Bool) (arguments : List SqlExpression)
  /-- The count of all rows. -/
  | countAll
  deriving Repr

instance : Inhabited SqlExpression := ⟨.literal .null⟩

namespace SqlExpression

/-- The negation of an expression, if it is asked for. -/
def negatedWhen (negated : Bool) (expression : SqlExpression) : SqlExpression :=
  if negated then .unary .not expression else expression

end SqlExpression

end TableGraph
