import TableGraph.Database.Change
import TableGraph.Failure

/-!
# Scripts

A script is a sequence of statements that change a database, separated by
semicolons.  The statements are carried out one after the other up to the first
one that fails.
-/

namespace TableGraph

/-- A statement that changes a database. -/
inductive Change where
  | create (draft : TableDraft) (unlessPresent : Bool)
  | addColumn (table : String) (draft : ColumnDraft)
  | drop (table : String) (ifPresent : Bool)
  | insert (table : String) (columns : Option (List String)) (rows : List (List SqlExpression))
  | update (table : String) (assignments : List (String × SqlExpression))
      (filter : Option SqlExpression)
  | delete (table : String) (filter : Option SqlExpression)
  deriving Repr

namespace Change

open Query (skipKeywords? readClause readExpressions)

/-! ## Names -/

/-- A name in front of some tokens. -/
def readName : List SqlToken → Option (String × List SqlToken)
  | token :: rest => token.name?.map fun name => (name, rest)
  | [] => none

/-- Names with commas between them up to the closing parenthesis. -/
def readNames : List SqlToken → Option (List String × List SqlToken)
  | first :: .symbol "," :: rest => do
    let name ← first.name?
    let (later, rest) ← readNames rest
    return (name :: later, rest)
  | last :: .symbol ")" :: rest => last.name?.map fun name => ([name], rest)
  | _ => none

/-- Names in parentheses, if a parenthesis is next. -/
def readOptionalNames (tokens : List SqlToken) : Option (Option (List String) × List SqlToken) :=
  match tokens with
  | .symbol "(" :: rest => (readNames rest).map fun (names, rest) => (some names, rest)
  | tokens => some (none, tokens)

/-- Skip keywords that may be absent. -/
def skipOptional (keywords : List String) (tokens : List SqlToken) : Bool × List SqlToken :=
  match skipKeywords? keywords tokens with
  | some rest => (true, rest)
  | none => (false, tokens)

/-! ## Column definitions -/

/-- The words that begin a constraint. -/
def constraintWords : List String :=
  ["PRIMARY", "NOT", "NULL", "UNIQUE", "DEFAULT", "REFERENCES", "CONSTRAINT", "CHECK", "COLLATE"]

/-- The words of a declared type. -/
def readTypeWords : List SqlToken → List String × List SqlToken
  | .word text :: rest =>
    if constraintWords.contains (SqlToken.upperCase text) then ([], .word text :: rest)
    else
      let (later, rest) := readTypeWords rest
      (text :: later, rest)
  | .name text :: rest =>
    let (later, rest) := readTypeWords rest
    (text :: later, rest)
  | tokens => ([], tokens)

/-- Leave out a measure in parentheses. -/
def skipMeasure : List SqlToken → List SqlToken
  | .symbol "(" :: rest => (rest.dropWhile fun token => token != .symbol ")").drop 1
  | tokens => tokens

/-- Read what a column references. -/
def readReference (columns : List String) (tokens : List SqlToken) :
    Option (ForeignKey × List SqlToken) := do
  let (table, rest) ← readName tokens
  let (targets, rest) ← readOptionalNames rest
  return (⟨columns, table, targets.getD []⟩, rest)

/-- The value behind `DEFAULT`. -/
def readInitial (tokens : List SqlToken) : Option (Cell × List SqlToken) := do
  let (expression, rest) ← SqlExpression.readOperand (3 * tokens.length + 3) tokens
  match (Term.resolve ⟨"", [], false⟩ false expression).run [] with
  | .ok (term, _) => return (term.evaluate [] [], rest)
  | .error _ => none

/-- Read the constraints behind a column; `fuel` bounds their number. -/
def readConstraints : Nat → ColumnDraft → List SqlToken → Option (ColumnDraft × List SqlToken)
  | 0, _, _ => none
  | fuel + 1, draft, tokens =>
    match tokens with
    | [] => some (draft, [])
    | token :: rest =>
      match token.keyword? with
      | some "PRIMARY" => do
        let rest ← skipKeywords? ["KEY"] rest
        let rest := (skipOptional ["ASC"] rest).2
        let rest := (skipOptional ["AUTOINCREMENT"] rest).2
        readConstraints fuel { draft with isKey := true } rest
      | some "NOT" => do
        let rest ← skipKeywords? ["NULL"] rest
        readConstraints fuel { draft with column := { draft.column with notNull := true } } rest
      | some "NULL" => readConstraints fuel draft rest
      | some "UNIQUE" => readConstraints fuel { draft with isUnique := true } rest
      | some "DEFAULT" => do
        let (initial, rest) ← readInitial rest
        readConstraints fuel { draft with column := { draft.column with initial := initial } } rest
      | some "COLLATE" => do
        let (name, rest) ← readName rest
        let collation ← Collation.ofName? name
        let type := { draft.column.type with collation := collation }
        readConstraints fuel { draft with column := { draft.column with type := type } } rest
      | some "REFERENCES" => do
        let (reference, rest) ← readReference [draft.column.name] rest
        readConstraints fuel { draft with references := draft.references ++ [reference] } rest
      | _ => some (draft, tokens)

/-- Read a column with its type and constraints. -/
def readColumn (tokens : List SqlToken) : Option (ColumnDraft × List SqlToken) := do
  let (name, rest) ← readName tokens
  let (words, rest) := readTypeWords rest
  let column : ColumnDefinition := ⟨name, " ".intercalate words, false, .null⟩
  let rest := if words.isEmpty then rest else skipMeasure rest
  readConstraints (rest.length + 1) ⟨column, false, false, []⟩ rest

/-! ## Table definitions -/

/-- Read a constraint behind all columns, if one is next. -/
def readTableConstraint? (tokens : List SqlToken) : Option (TableConstraint × List SqlToken) :=
  match skipKeywords? ["PRIMARY", "KEY"] tokens with
  | some (.symbol "(" :: rest) =>
    (readNames rest).map fun (names, rest) => (.primaryKey names, rest)
  | _ =>
    match skipKeywords? ["UNIQUE"] tokens with
    | some (.symbol "(" :: rest) => (readNames rest).map fun (names, rest) => (.unique names, rest)
    | _ =>
      match skipKeywords? ["FOREIGN", "KEY"] tokens with
      | some (.symbol "(" :: rest) => do
        let (columns, rest) ← readNames rest
        let rest ← skipKeywords? ["REFERENCES"] rest
        let (reference, rest) ← readReference columns rest
        return (.foreignKey reference, rest)
      | _ => none

/-- Read columns and constraints up to the closing parenthesis; `fuel` bounds
their number. -/
def readParts : Nat → List SqlToken →
    Option ((List ColumnDraft × List TableConstraint) × List SqlToken)
  | 0, _ => none
  | fuel + 1, tokens => do
    let (columns, constraints, rest) ←
      match readTableConstraint? tokens with
      | some (constraint, rest) => some ([], [constraint], rest)
      | none => (readColumn tokens).map fun (column, rest) => ([column], [], rest)
    match rest with
    | .symbol "," :: rest =>
      let ((laterColumns, laterConstraints), rest) ← readParts fuel rest
      return ((columns ++ laterColumns, constraints ++ laterConstraints), rest)
    | .symbol ")" :: rest => return ((columns, constraints), rest)
    | _ => none

/-- Read the definition of a table. -/
def readCreate (tokens : List SqlToken) : Option Change := do
  let rest ← skipKeywords? ["CREATE", "TABLE"] tokens
  let (unlessPresent, rest) := skipOptional ["IF", "NOT", "EXISTS"] rest
  let (name, rest) ← readName rest
  match rest with
  | .symbol "(" :: rest =>
    let ((columns, constraints), rest) ← readParts rest.length rest
    let (withoutRowid, rest) := skipOptional ["WITHOUT", "ROWID"] rest
    if rest.isEmpty then return .create ⟨name, columns, constraints, !withoutRowid⟩ unlessPresent
    else none
  | _ => none

/-- Read the extension of a table. -/
def readAddColumn (tokens : List SqlToken) : Option Change := do
  let rest ← skipKeywords? ["ALTER", "TABLE"] tokens
  let (table, rest) ← readName rest
  let rest ← skipKeywords? ["ADD"] rest
  let (column, rest) ← readColumn (skipOptional ["COLUMN"] rest).2
  if rest.isEmpty then return .addColumn table column else none

/-- Read the removal of a table. -/
def readDrop (tokens : List SqlToken) : Option Change := do
  let rest ← skipKeywords? ["DROP", "TABLE"] tokens
  let (ifPresent, rest) := skipOptional ["IF", "EXISTS"] rest
  let (table, rest) ← readName rest
  if rest.isEmpty then return .drop table ifPresent else none

/-! ## Changes of rows -/

/-- Read rows of expressions with commas between them; `fuel` bounds their number. -/
def readRows : Nat → List SqlToken → Option (List (List SqlExpression) × List SqlToken)
  | 0, _ => none
  | fuel + 1, tokens => do
    match tokens with
    | .symbol "(" :: rest =>
      match ← readExpressions rest.length rest with
      | (row, .symbol ")" :: .symbol "," :: rest) =>
        let (later, rest) ← readRows fuel rest
        return (row :: later, rest)
      | (row, .symbol ")" :: rest) => return ([row], rest)
      | _ => none
    | _ => none

/-- Read the insertion of rows. -/
def readInsert (tokens : List SqlToken) : Option Change := do
  let rest ← skipKeywords? ["INSERT", "INTO"] tokens
  let (table, rest) ← readName rest
  let (columns, rest) ← readOptionalNames rest
  let rest ← skipKeywords? ["VALUES"] rest
  let (rows, rest) ← readRows rest.length rest
  if rest.isEmpty then return .insert table columns rows else none

/-- Read assignments with commas between them; `fuel` bounds their number. -/
def readAssignments : Nat → List SqlToken → Option (List (String × SqlExpression) × List SqlToken)
  | 0, _ => none
  | fuel + 1, tokens => do
    match ← readName tokens with
    | (name, .symbol "=" :: rest) =>
      match ← SqlExpression.ofTokens? rest with
      | (value, .symbol "," :: rest) =>
        let (later, rest) ← readAssignments fuel rest
        return ((name, value) :: later, rest)
      | (value, rest) => return ([(name, value)], rest)
    | _ => none

/-- Read an update. -/
def readUpdate (tokens : List SqlToken) : Option Change := do
  let rest ← skipKeywords? ["UPDATE"] tokens
  let (table, rest) ← readName rest
  let rest ← skipKeywords? ["SET"] rest
  let (assignments, rest) ← readAssignments rest.length rest
  let (filter, rest) ← readClause ["WHERE"] rest
  if rest.isEmpty then return .update table assignments filter else none

/-- Read a deletion. -/
def readDelete (tokens : List SqlToken) : Option Change := do
  let rest ← skipKeywords? ["DELETE", "FROM"] tokens
  let (table, rest) ← readName rest
  let (filter, rest) ← readClause ["WHERE"] rest
  if rest.isEmpty then return .delete table filter else none

/-- The change that some tokens are as a whole. -/
def ofTokens? (tokens : List SqlToken) : Option Change :=
  [readCreate, readAddColumn, readDrop, readInsert, readUpdate, readDelete].findSome? fun read =>
    read tokens

/-! ## Carrying out changes -/

/-- The cells of expressions that mention no column. -/
def constantCells (expressions : List SqlExpression) : Except String Cells := do
  let (terms, _) ← (Term.resolveAll ⟨"", [], false⟩ false expressions).run []
  return Term.evaluateAll [] [] terms

/-- Carry out a change. -/
def apply (database : Database) : Change → Except String Database
  | .create draft unlessPresent => database.create draft unlessPresent
  | .addColumn table draft => database.addColumn table draft
  | .drop table ifPresent => database.drop table ifPresent
  | .insert table columns rows => do database.insert table columns (← rows.mapM constantCells)
  | .update table assignments filter => database.update table assignments filter
  | .delete table filter => database.delete table filter

end Change

namespace Database

/-- Cut tokens into statements. -/
def statements (tokens : List SqlToken) : List (List SqlToken) :=
  (tokens.splitBy fun left _ => left != .symbol ";").filterMap fun statement =>
    let body := statement.filter fun token => token != .symbol ";"
    if body.isEmpty then none else some body

/-- Carry out statements up to the first one that fails. -/
def executeAll : List (List SqlToken) → Database → Except StoreFailure Unit × Database
  | [], database => (.ok (), database)
  | statement :: rest, database =>
    match Change.ofTokens? statement with
    | none => (.error (.engine "syntax error"), database)
    | some change =>
      match change.apply database with
      | .ok changed => executeAll rest changed
      | .error reason => (.error (.engine reason), database)

/-- A parameter mark that nothing is bound to stands for null. -/
def unbound (token : SqlToken) : SqlToken := if token = .mark then .literal .null else token

/-- Carry out a script. -/
def execute (script : String) (database : Database) : Except StoreFailure Unit × Database :=
  match SqlToken.lex script with
  | some tokens => executeAll (statements (tokens.map unbound)) database
  | none => (.error (.engine "unrecognized token"), database)

end Database

end TableGraph
