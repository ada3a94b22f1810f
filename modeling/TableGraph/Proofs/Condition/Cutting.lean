import TableGraph.Proofs.Condition.Reading
import TableGraph.Sql.Parser

/-!
# Cutting tokens into conditions

The condition behind `WHERE` is cut at its connectives and at the parentheses around
operands.  What stands between them are the operands, tests of a value; parentheses
inside an operand belong to it.  A condition with anything else in it is not cut at all.

The main statement, `ConditionFormula.ofTokens?_tokens`, is that symbols that can be
read are found again in their tokens.
-/

namespace TableGraph

/-! ## Tokens of conditions -/

/-- What a token is to the condition in which it stands. -/
inductive TokenRole where
  | opening
  | closing
  | all
  | any
  | negation
  /-- A token that no test is made of, such as `UNION` or `BETWEEN`. -/
  | unread
  /-- A keyword that another clause begins with. -/
  | clause
  | content
  deriving DecidableEq, Repr

/-- How many parentheses are open behind a token. -/
def TokenRole.depthBehind (depth : Nat) : TokenRole → Nat
  | .opening => depth + 1
  | .closing => depth - 1
  | _ => depth

namespace SqlToken

def role : SqlToken → TokenRole
  | .symbol "(" => .opening
  | .symbol ")" => .closing
  | .symbol ";" => .unread
  | .word text =>
    match upperCase text with
    | "AND" => .all
    | "OR" => .any
    | "NOT" => .negation
    | "IN" => .content
    | "IS" => .content
    | "LIKE" => .content
    | "NULL" => .content
    | "GROUP" => .clause
    | "HAVING" => .clause
    | "ORDER" => .clause
    | "LIMIT" => .clause
    | _ => .unread
  | _ => .content

/-- What stands behind the keyword `WHERE`. -/
def behindWhere (tokens : List SqlToken) : List SqlToken :=
  (tokens.dropWhile fun token => !token.isKeyword "WHERE").drop 1

end SqlToken

namespace ConditionSymbol

/-- The operand that was read, if there is one. -/
def flushed (operand : List SqlToken) : List (ConditionSymbol (List SqlToken)) :=
  if operand.isEmpty then [] else [.atom operand]

/-- Cut tokens up to the next clause.  `operand` is the operand that is being read and
`depth` the number of parentheses that are open inside it. -/
def cutFrom (operand : List SqlToken) (depth : Nat) :
    List SqlToken → Option (List (ConditionSymbol (List SqlToken)))
  | [] => if depth = 0 then some (flushed operand) else none
  | token :: rest =>
    match depth with
    | 0 =>
      match token.role with
      | .opening =>
        if operand.isEmpty then (cutFrom [] 0 rest).map (.opening :: ·)
        else cutFrom (operand ++ [token]) 1 rest
      | .closing => (cutFrom [] 0 rest).map (flushed operand ++ .closing :: ·)
      | .all => (cutFrom [] 0 rest).map (flushed operand ++ .all :: ·)
      | .any => (cutFrom [] 0 rest).map (flushed operand ++ .any :: ·)
      | .negation => if operand.isEmpty then none else cutFrom (operand ++ [token]) 0 rest
      | .unread => none
      | .clause => some (flushed operand)
      | .content => cutFrom (operand ++ [token]) 0 rest
    | depth + 1 => cutFrom (operand ++ [token]) (token.role.depthBehind (depth + 1)) rest

/-- The tokens of a symbol, an operand being its own. -/
def tokens : ConditionSymbol (List SqlToken) → List SqlToken
  | .opening => [.symbol "("]
  | .closing => [.symbol ")"]
  | .all => [.word "AND"]
  | .any => [.word "OR"]
  | .atom content => content

end ConditionSymbol

/-- The formula that the condition at the beginning of some tokens is read as. -/
def ConditionFormula.ofTokens? (tokens : List SqlToken) :
    Option (ConditionFormula (List SqlToken)) :=
  (ConditionSymbol.cutFrom [] 0 tokens).bind ofSymbols?

/-! ## Operands -/

/-- Tokens that are read as one operand, whatever stands behind them. -/
def IsOperand (tokens : List SqlToken) : Prop :=
  tokens ≠ [] ∧ ∀ rest,
    ConditionSymbol.cutFrom [] 0 (tokens ++ rest) = ConditionSymbol.cutFrom tokens 0 rest

namespace ConditionSymbol

/-- Behind its first token an operand goes on over all tokens that belong to no
condition around it. -/
theorem cutFrom_continued {operand : List SqlToken} (begun : operand ≠ []) (depth : Nat)
    (rest : List SqlToken) :
    ∀ {plain : List SqlToken},
      (∀ token ∈ plain, token.role = .content ∨ token.role = .negation) →
        cutFrom operand depth (plain ++ rest) = cutFrom (operand ++ plain) depth rest := by
  intro plain
  induction plain generalizing operand with
  | nil => simp
  | cons head tail inductionHypothesis =>
      intro isPlain
      have stillBegun : operand ++ [head] ≠ [] := by simp
      have later := inductionHypothesis stillBegun
        fun token member => isPlain token (List.mem_cons_of_mem head member)
      rw [List.append_assoc, List.singleton_append] at later
      rw [List.cons_append, ← later]
      rcases isPlain head List.mem_cons_self with content | negation
      · cases depth <;> simp [cutFrom, content, TokenRole.depthBehind]
      · cases depth <;> simp [cutFrom, negation, begun, TokenRole.depthBehind]

/-- An operand that ends with a list in parentheses. -/
theorem cutFrom_listed {operand listed : List SqlToken} (begun : operand ≠ [])
    (isPlain : ∀ token ∈ listed, token.role = .content) (rest : List SqlToken) :
    cutFrom operand 0 (.symbol "(" :: listed ++ .symbol ")" :: rest) =
      cutFrom (operand ++ .symbol "(" :: listed ++ [.symbol ")"]) 0 rest := by
  have opened : cutFrom operand 0 (.symbol "(" :: listed ++ .symbol ")" :: rest) =
      cutFrom (operand ++ [.symbol "("]) 1 (listed ++ .symbol ")" :: rest) := by
    simp [cutFrom, SqlToken.role, begun]
  have stillBegun : operand ++ [.symbol "("] ≠ [] := by simp
  have continued := cutFrom_continued stillBegun 1 (.symbol ")" :: rest)
    fun token member => Or.inl (isPlain token member)
  rw [opened, continued]
  simp [cutFrom, SqlToken.role, TokenRole.depthBehind]

/-! ## Symbols are found again -/

/-- Tokens behind which no condition goes on. -/
def EndsCondition (rest : List SqlToken) : Prop := ∀ token ∈ rest.head?, token.role = .clause

theorem cutFrom_ends {rest : List SqlToken} (ends : EndsCondition rest) (operand : List SqlToken) :
    cutFrom operand 0 rest = some (flushed operand) := by
  cases rest with
  | nil => rfl
  | cons head tail =>
      have isClause : head.role = .clause := ends head rfl
      simp [cutFrom, isClause]

/-- The symbols of a readable condition are found again in its tokens.  Where an operand
is expected none has begun. -/
theorem cutFrom_tokens {rest : List SqlToken} (ends : EndsCondition rest)
    {symbols : List (ConditionSymbol (List SqlToken))} :
    ∀ {reader final : ConditionReader (List SqlToken)} {operand : List SqlToken},
      reader.run symbols = some final → final.expectsOperand = false →
        (∀ content ∈ atoms symbols, IsOperand content) →
          (reader.expectsOperand = true → operand = []) →
            cutFrom operand 0 (symbols.flatMap tokens ++ rest) =
              some (flushed operand ++ symbols) := by
  induction symbols with
  | nil =>
      intro reader final operand reached satisfied _ _
      simpa using cutFrom_ends ends operand
  | cons head tail inductionHypothesis =>
      intro reader final operand reached satisfied operands fresh
      obtain ⟨next, stepped, continued⟩ := Option.bind_eq_some_iff.mp reached
      obtain ⟨before, behind⟩ := ConditionReader.expectsOperand_of_step stepped
      rw [before] at fresh
      have tailOperands : ∀ content ∈ atoms tail, IsOperand content := by
        intro content member
        exact operands content (by rw [atoms_cons]; exact List.mem_append_right _ member)
      have cutAfresh : cutFrom [] 0 (tail.flatMap tokens ++ rest) = some tail :=
        inductionHypothesis continued satisfied tailOperands fun _ => rfl
      cases head with
      | atom content =>
          -- The operand is complete only where the next symbol is found.
          obtain rfl := fresh rfl
          obtain ⟨notEmpty, cuts⟩ := operands content List.mem_cons_self
          have cutBehind : cutFrom content 0 (tail.flatMap tokens ++ rest) =
              some (flushed content ++ tail) := by
            refine inductionHypothesis continued satisfied tailOperands fun expecting => ?_
            rw [behind] at expecting
            cases expecting
          rw [List.flatMap_cons, tokens, List.append_assoc, cuts, cutBehind]
          simp [flushed, notEmpty]
      | opening =>
          obtain rfl := fresh rfl
          simp [cutFrom, tokens, SqlToken.role, cutAfresh, flushed]
      | closing => simp [cutFrom, tokens, SqlToken.role, cutAfresh]
      | all => simp [cutFrom, tokens, SqlToken.role, SqlToken.upperCase, cutAfresh]
      | any => simp [cutFrom, tokens, SqlToken.role, SqlToken.upperCase, cutAfresh]

end ConditionSymbol

/-- Symbols are read from their tokens as what they are read as themselves, up to the
next clause. -/
theorem ConditionFormula.ofTokens?_tokens {symbols : List (ConditionSymbol (List SqlToken))}
    {formula : ConditionFormula (List SqlToken)} (readAs : ofSymbols? symbols = some formula)
    (operands : ∀ content ∈ ConditionSymbol.atoms symbols, IsOperand content)
    {rest : List SqlToken} (ends : ConditionSymbol.EndsCondition rest) :
    ofTokens? (symbols.flatMap ConditionSymbol.tokens ++ rest) = some formula := by
  obtain ⟨final, reached, satisfied⟩ := ConditionReader.exists_run_of_ofSymbols? readAs
  have cut : ConditionSymbol.cutFrom [] 0 (symbols.flatMap ConditionSymbol.tokens ++ rest) =
      some symbols :=
    ConditionSymbol.cutFrom_tokens ends reached satisfied operands fun _ => rfl
  rw [ofTokens?, cut, Option.bind_some, readAs]

end TableGraph
