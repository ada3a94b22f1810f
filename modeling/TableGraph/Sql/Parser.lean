import TableGraph.Sql.Expression

/-!
# Reading expressions of SQL

Expressions are read by precedence: `OR`, `AND`, `NOT`, equality with `IS`, `IN`,
`LIKE` and `BETWEEN`, order, sums, products, concatenation, signs.  Every call of
the reader spends fuel; two units for each token are enough, since between two
tokens at most two calls are made.
-/

namespace TableGraph

namespace SqlToken

/-- A text with its ASCII letters in upper case. -/
def upperCase (text : String) : String := String.ofList (text.toList.map Char.toUpper)

/-- Whether two names are equal but for the case of ASCII letters. -/
def sameName (left right : String) : Bool := upperCase left == upperCase right

/-- The keyword a token may be, in upper case. -/
def keyword? : SqlToken → Option String
  | .word text => some (upperCase text)
  | _ => none

/-- Whether a token is a keyword. -/
def isKeyword (token : SqlToken) (keyword : String) : Bool := token.keyword? == some keyword

/-- The keywords that are no names. -/
def reserved : List String :=
  ["ADD", "ALL", "ALTER", "AND", "AS", "AUTOINCREMENT", "BETWEEN", "CASE", "CHECK", "COLLATE",
    "COMMIT", "CONSTRAINT", "CREATE", "DEFAULT", "DEFERRABLE", "DELETE", "DISTINCT", "DROP",
    "ELSE", "ESCAPE", "EXCEPT", "EXISTS", "FOREIGN", "FROM", "GROUP", "HAVING", "IN", "INDEX",
    "INSERT", "INTERSECT", "INTO", "IS", "ISNULL", "JOIN", "LIMIT", "NOT", "NOTNULL", "NULL",
    "ON", "OR", "ORDER", "PRIMARY", "REFERENCES", "RETURNING", "SELECT", "SET", "TABLE", "THEN",
    "TO", "TRANSACTION", "UNION", "UNIQUE", "UPDATE", "USING", "VALUES", "WHEN", "WHERE"]

/-- The name a token may be. -/
def name? : SqlToken → Option String
  | .name text => some text
  | .word text => if reserved.contains (upperCase text) then none else some text
  | _ => none

end SqlToken

namespace SqlExpression

open SqlToken (isKeyword)

/-- The precedences of the operators between operands. -/
inductive Level where
  | either
  | both
  | not
  | equality
  | order
  | sum
  | product
  | concatenation
  | sign
  deriving DecidableEq, Repr

def Level.rank : Level → Nat
  | .either => 1
  | .both => 2
  | .not => 3
  | .equality => 4
  | .order => 5
  | .sum => 6
  | .product => 7
  | .concatenation => 8
  | .sign => 9

/-- The symbols of operators with their precedence. -/
def symbols : List (String × Level × BinaryOperator) :=
  [("=", .equality, .compare .equal), ("==", .equality, .compare .equal),
    ("<>", .equality, .compare .notEqual), ("!=", .equality, .compare .notEqual),
    ("<", .order, .compare .less), ("<=", .order, .compare .lessEqual),
    (">", .order, .compare .greater), (">=", .order, .compare .greaterEqual),
    ("+", .sum, .arithmetic .add), ("-", .sum, .arithmetic .subtract),
    ("*", .product, .arithmetic .multiply), ("/", .product, .arithmetic .divide),
    ("%", .product, .arithmetic .remainder), ("||", .concatenation, .concatenate)]

/-- The operators that are keywords. -/
def keywords : List (String × Level × BinaryOperator) :=
  [("OR", .either, .either), ("AND", .both, .both), ("LIKE", .equality, .like)]

/-- The operator between operands that a token is. -/
def operator? (token : SqlToken) : Option (Level × BinaryOperator) :=
  match token with
  | .symbol text => symbols.lookup text
  | token => token.keyword?.bind fun word => keywords.lookup word

mutual

/-- Read an expression whose operators bind at least as tightly as `rank`. -/
def read (fuel rank : Nat) (tokens : List SqlToken) : Option (SqlExpression × List SqlToken) :=
  match fuel with
  | 0 => none
  | fuel + 1 => do
    let (left, rest) ← readOperand fuel tokens
    readBehind fuel rank left rest

/-- Read what may follow an operand. -/
def readBehind (fuel rank : Nat) (left : SqlExpression) (tokens : List SqlToken) :
    Option (SqlExpression × List SqlToken) :=
  match fuel with
  | 0 => none
  | fuel + 1 =>
    match tokens with
    | [] => some (left, [])
    | token :: rest =>
      match operator? token with
      | some (level, operator) =>
        if level.rank < rank then some (left, tokens)
        else do
          let (right, rest) ← read fuel (level.rank + 1) rest
          readBehind fuel rank (.binary operator left right) rest
      | none =>
        if Level.equality.rank < rank then some (left, tokens)
        else
          match token.keyword? with
          | some "ISNULL" => readBehind fuel rank (.isNull left) rest
          | some "NOTNULL" => readBehind fuel rank (.unary .not (.isNull left)) rest
          | some "IS" => do
            let (negated, rest) :=
              match rest with
              | next :: behind => if isKeyword next "NOT" then (true, behind) else (false, rest)
              | [] => (false, [])
            let (right, rest) ← read fuel Level.order.rank rest
            readBehind fuel rank (negatedWhen negated (.binary .identical left right)) rest
          | some "NOT" =>
            match rest with
            | next :: behind =>
              if isKeyword next "NULL" then readBehind fuel rank (.unary .not (.isNull left)) behind
              else do
                let (expression, rest) ← readTest fuel left rest
                readBehind fuel rank (.unary .not expression) rest
            | [] => none
          | some "IN" => do
            let (expression, rest) ← readTest fuel left tokens
            readBehind fuel rank expression rest
          | some "BETWEEN" => do
            let (expression, rest) ← readTest fuel left tokens
            readBehind fuel rank expression rest
          | _ => some (left, tokens)

/-- Read a test that begins with a keyword. -/
def readTest (fuel : Nat) (left : SqlExpression) (tokens : List SqlToken) :
    Option (SqlExpression × List SqlToken) :=
  match fuel with
  | 0 => none
  | fuel + 1 =>
    match tokens with
    | [] => none
    | token :: rest =>
      match token.keyword?, rest with
      | some "LIKE", rest => do
        let (right, rest) ← read fuel Level.order.rank rest
        return (.binary .like left right, rest)
      | some "IN", .symbol "(" :: .symbol ")" :: rest => some (.among left [], rest)
      | some "IN", .symbol "(" :: rest => do
        let (elements, rest) ← readList fuel rest
        return (.among left elements, rest)
      | some "BETWEEN", rest => do
        let (lower, rest) ← read fuel Level.order.rank rest
        match rest with
        | next :: rest =>
          if isKeyword next "AND" then
            let (upper, rest) ← read fuel Level.order.rank rest
            return (.binary .both (.binary (.compare .greaterEqual) left lower)
              (.binary (.compare .lessEqual) left upper), rest)
          else none
        | [] => none
      | _, _ => none

/-- Read an operand with the signs in front of it. -/
def readOperand (fuel : Nat) (tokens : List SqlToken) : Option (SqlExpression × List SqlToken) :=
  match fuel with
  | 0 => none
  | fuel + 1 =>
    match tokens with
    | .symbol "-" :: rest => do
      let (operand, rest) ← read fuel Level.sign.rank rest
      return (.unary .negate operand, rest)
    | .symbol "+" :: rest => do
      let (operand, rest) ← read fuel Level.sign.rank rest
      return (.unary .plus operand, rest)
    | .symbol "(" :: rest => do
      match ← read fuel 0 rest with
      | (inner, .symbol ")" :: rest) => return (inner, rest)
      | _ => none
    | .literal value :: rest => some (.literal value, rest)
    | .word function :: .symbol "(" :: .symbol "*" :: .symbol ")" :: rest =>
      if SqlToken.upperCase function == "COUNT" then some (.countAll, rest) else none
    | .word function :: .symbol "(" :: .symbol ")" :: rest => some (.call function false [], rest)
    | .word function :: .symbol "(" :: rest =>
      if SqlToken.upperCase function == "NOT" then do
        let (operand, rest) ← read fuel Level.not.rank (.symbol "(" :: rest)
        return (.unary .not operand, rest)
      else do
        let (distinct, rest) :=
          match rest with
          | next :: behind => if isKeyword next "DISTINCT" then (true, behind) else (false, rest)
          | [] => (false, [])
        let (arguments, rest) ← readList fuel rest
        return (.call function distinct arguments, rest)
    | token :: rest =>
      match token.keyword? with
      | some "NOT" => do
        let (operand, rest) ← read fuel Level.not.rank rest
        return (.unary .not operand, rest)
      | some "NULL" => some (.literal .null, rest)
      | some "TRUE" => some (.literal (.integer 1), rest)
      | some "FALSE" => some (.literal (.integer 0), rest)
      | _ => do
        let first ← token.name?
        match rest with
        | .symbol "." :: second :: rest => return (.column (some first) (← second.name?), rest)
        | _ => return (.column none first, rest)
    | [] => none

/-- Read expressions with commas between them up to the closing parenthesis. -/
def readList (fuel : Nat) (tokens : List SqlToken) : Option (List SqlExpression × List SqlToken) :=
  match fuel with
  | 0 => none
  | fuel + 1 => do
    match ← read fuel 0 tokens with
    | (first, .symbol "," :: rest) => do
      let (later, rest) ← readList fuel rest
      return (first :: later, rest)
    | (first, .symbol ")" :: rest) => return ([first], rest)
    | _ => none

end

/-- Read an expression at the beginning of some tokens. -/
def ofTokens? (tokens : List SqlToken) : Option (SqlExpression × List SqlToken) :=
  read (3 * tokens.length + 3) 0 tokens

end SqlExpression

end TableGraph
