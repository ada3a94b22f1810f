import Mathlib
import TableGraph.Sql.Parser

/-!
# Columns of read expressions

Where a word of SQL may stand in front of an operand, the reader takes the operand for a
column when it is a word that is no keyword.  In orderly tokens no such word stands there,
so that every column of an expression that is read from them was written as a quoted name
(`SqlExpression.readIn_of_ofTokens?`).
-/

namespace TableGraph

open SqlToken (upperCase)

/-- An expression all of whose columns have names of a kind. -/
inductive SqlExpression.ColumnsIn (named : String → Prop) : SqlExpression → Prop where
  | literal (value : Cell) : ColumnsIn named (.literal value)
  | column (table : Option String) {name : String} (isNamed : named name) :
      ColumnsIn named (.column table name)
  | unary (operator : UnaryOperator) {operand : SqlExpression}
      (inOperand : ColumnsIn named operand) : ColumnsIn named (.unary operator operand)
  | binary (operator : BinaryOperator) {left right : SqlExpression}
      (inLeft : ColumnsIn named left) (inRight : ColumnsIn named right) :
      ColumnsIn named (.binary operator left right)
  | isNull {operand : SqlExpression} (inOperand : ColumnsIn named operand) :
      ColumnsIn named (.isNull operand)
  | among {operand : SqlExpression} {elements : List SqlExpression}
      (inOperand : ColumnsIn named operand)
      (inElements : ∀ element ∈ elements, ColumnsIn named element) :
      ColumnsIn named (.among operand elements)
  | call (function : String) (distinct : Bool) {arguments : List SqlExpression}
      (inArguments : ∀ argument ∈ arguments, ColumnsIn named argument) :
      ColumnsIn named (.call function distinct arguments)
  | countAll : ColumnsIn named .countAll

/-! ## Orderly tokens -/

namespace SqlToken

/-- Tokens that an operand may begin: not with `NOT`, and with a word that is no keyword only
when it is the name of a function. -/
def StartsOperand : List SqlToken → Prop
  | .word text :: rest =>
    upperCase text ≠ "NOT" ∧
      ((SqlToken.word text).name? = none ∨ rest.head? = some (.symbol "("))
  | _ => True

/-- The keywords that stand in front of an operand. -/
def openers : List String :=
  ["OR", "AND", "LIKE", "BETWEEN", "DISTINCT", "WHERE", "HAVING", "BY", "LIMIT", "OFFSET"]

def withoutNot : List SqlToken → List SqlToken
  | token :: rest => if token.isKeyword "NOT" then rest else token :: rest
  | [] => []

/-- Whether the tokens behind a token may stand there. -/
def OrderlyAt : SqlToken → List SqlToken → Prop
  | .symbol text, rest =>
    if text = "." then ∀ word, rest.head? ≠ some (.word word) else StartsOperand rest
  | .word text, rest =>
    if upperCase text = "IS" then StartsOperand (withoutNot rest)
    else upperCase text ∈ openers → StartsOperand rest
  | _, _ => True

def Orderly : List SqlToken → Prop
  | [] => True
  | token :: rest => OrderlyAt token rest ∧ Orderly rest

theorem Orderly.suffix {tokens rest : List SqlToken} (orderly : Orderly tokens)
    (behind : rest <:+ tokens) : Orderly rest := by
  obtain ⟨before, rfl⟩ := behind
  induction before with
  | nil => exact orderly
  | cons head tail inductionHypothesis => exact inductionHypothesis orderly.2

variable {token : SqlToken} {rest : List SqlToken} {text : String}

theorem isKeyword_iff : token.isKeyword text = true ↔ token.keyword? = some text :=
  beq_iff_eq

theorem OrderlyAt.symbol (orderly : OrderlyAt (.symbol text) rest) (notDot : text ≠ ".") :
    StartsOperand rest := by
  rwa [OrderlyAt, if_neg notDot] at orderly

theorem OrderlyAt.keyword (orderly : OrderlyAt token rest) (isWord : token.keyword? = some text)
    (opens : text ∈ openers) : StartsOperand rest := by
  cases token with
  | word written =>
      obtain rfl : upperCase written = text := Option.some.inj isWord
      have notIs : upperCase written ≠ "IS" := fun isIs => by simp [isIs, openers] at opens
      rw [OrderlyAt, if_neg notIs] at orderly
      exact orderly opens
  | _ => cases isWord

theorem OrderlyAt.identity (orderly : OrderlyAt token rest) (isWord : token.keyword? = some "IS") :
    StartsOperand (withoutNot rest) := by
  cases token with
  | word written => rwa [OrderlyAt, if_pos (Option.some.inj isWord)] at orderly
  | _ => cases isWord

theorem OrderlyAt.operator (orderly : OrderlyAt token rest)
    {found : SqlExpression.Level × BinaryOperator}
    (isOperator : SqlExpression.operator? token = some found) : StartsOperand rest := by
  cases token with
  | symbol text =>
      refine orderly.symbol fun isDot => ?_
      rw [isDot] at isOperator
      cases isOperator
  | word text =>
      obtain ⟨before, behind, split, _⟩ := List.lookup_eq_some_iff.mp isOperator
      have among : upperCase text ∈ SqlExpression.keywords.map Prod.fst := by
        rw [split]
        simp
      have opens : upperCase text ∈ openers := by
        simp only [SqlExpression.keywords, List.map_cons, List.map_nil, List.mem_cons,
          List.not_mem_nil, or_false] at among
        rcases among with same | same | same <;> simp [same, openers]
      exact orderly.keyword rfl opens
  | _ => cases isOperator

/-- Orderly tokens all of whose quoted names are of a kind. -/
structure NamesIn (named : String → Prop) (tokens : List SqlToken) : Prop where
  orderly : Orderly tokens
  names : ∀ name, SqlToken.name name ∈ tokens → named name

variable {named : String → Prop} {tokens : List SqlToken}

theorem NamesIn.suffix (within : NamesIn named tokens) (behind : rest <:+ tokens) :
    NamesIn named rest :=
  ⟨within.orderly.suffix behind, fun name member => within.names name (behind.mem member)⟩

theorem NamesIn.tail (within : NamesIn named (token :: rest)) : NamesIn named rest :=
  within.suffix (List.suffix_cons token rest)

theorem NamesIn.head (within : NamesIn named (token :: rest)) : OrderlyAt token rest :=
  within.orderly.1

end SqlToken

/-! ## Reading -/

namespace SqlExpression

open SqlToken (NamesIn StartsOperand)

/-- An expression that is read at the beginning of some tokens: its columns have names of a
kind, and what is left of the tokens is their end. -/
structure ReadIn (named : String → Prop) (tokens : List SqlToken) (expression : SqlExpression)
    (rest : List SqlToken) : Prop where
  columns : expression.ColumnsIn named
  suffix : rest <:+ tokens

/-- The same of the expressions of a list. -/
structure AllReadIn (named : String → Prop) (tokens : List SqlToken)
    (expressions : List SqlExpression) (rest : List SqlToken) : Prop where
  columns : ∀ expression ∈ expressions, expression.ColumnsIn named
  suffix : rest <:+ tokens

/-- What the reader does with some fuel. -/
structure ReadsIn (named : String → Prop) (fuel : Nat) : Prop where
  read : ∀ {rank tokens expression rest}, NamesIn named tokens → StartsOperand tokens →
    read fuel rank tokens = some (expression, rest) → ReadIn named tokens expression rest
  behind : ∀ {rank left tokens expression rest}, NamesIn named tokens → left.ColumnsIn named →
    readBehind fuel rank left tokens = some (expression, rest) →
      ReadIn named tokens expression rest
  test : ∀ {left tokens expression rest}, NamesIn named tokens → left.ColumnsIn named →
    readTest fuel left tokens = some (expression, rest) → ReadIn named tokens expression rest
  operand : ∀ {tokens expression rest}, NamesIn named tokens → StartsOperand tokens →
    readOperand fuel tokens = some (expression, rest) → ReadIn named tokens expression rest
  list : ∀ {tokens expressions rest}, NamesIn named tokens → StartsOperand tokens →
    readList fuel tokens = some (expressions, rest) → AllReadIn named tokens expressions rest

variable {named : String → Prop} {fuel rank : Nat} {left expression : SqlExpression}
  {tokens rest : List SqlToken}

theorem ReadIn.within (reads : ReadIn named tokens expression rest) {more : List SqlToken}
    (behind : tokens <:+ more) : ReadIn named more expression rest :=
  ⟨reads.columns, reads.suffix.trans behind⟩

theorem columnsIn_negatedWhen (negated : Bool) (columns : expression.ColumnsIn named) :
    (negatedWhen negated expression).ColumnsIn named := by
  cases negated with
  | false => exact columns
  | true => exact .unary .not columns

/-- A quoted name is the only operand that is a column. -/
theorem readIn_column {token : SqlToken} {after : List SqlToken}
    (names : NamesIn named (token :: after)) (starts : StartsOperand (token :: after))
    (notCall : ∀ function behind, token = .word function → after = .symbol "(" :: behind → False)
    (result : (do
      let first ← token.name?
      match after with
      | .symbol "." :: second :: rest => return (.column (some first) (← second.name?), rest)
      | _ => return (.column none first, after)) = some (expression, rest)) :
    ReadIn named (token :: after) expression rest := by
  obtain ⟨first, isName, result⟩ := Option.bind_eq_some_iff.mp result
  have isNamed : named first := by
    cases token with
    | name text =>
        obtain rfl : text = first := Option.some.inj isName
        exact names.names text List.mem_cons_self
    | word text =>
        rcases starts.2 with notName | isCall
        · rw [notName] at isName
          cases isName
        · obtain ⟨behind, isAfter⟩ := List.head?_eq_some_iff.mp isCall
          exact absurd isAfter (notCall text behind rfl)
    | _ => cases isName
  split at result
  · rename_i second behind _
    obtain ⟨column, isColumn, result⟩ := Option.bind_eq_some_iff.mp result
    cases result
    have written := names.tail.head
    simp only [SqlToken.OrderlyAt, if_true] at written
    cases second with
    | name text =>
        obtain rfl : text = column := Option.some.inj isColumn
        exact ⟨.column _ (names.names text (by simp)), ⟨[_, _, _], rfl⟩⟩
    | word text => exact absurd rfl (written text)
    | _ => cases isColumn
  · cases result
    exact ⟨.column none isNamed, List.suffix_cons ..⟩

namespace ReadsIn

variable (reads : ReadsIn named fuel)

include reads

theorem read_succ (names : NamesIn named tokens) (starts : StartsOperand tokens)
    (result : SqlExpression.read (fuel + 1) rank tokens = some (expression, rest)) :
    ReadIn named tokens expression rest := by
  rw [SqlExpression.read] at result
  obtain ⟨⟨operand, behind⟩, isOperand, result⟩ := Option.bind_eq_some_iff.mp result
  have first := reads.operand names starts isOperand
  exact (reads.behind (names.suffix first.suffix) first.columns result).within first.suffix

/-- Read on behind an operator and its right operand, which may be preceded by `NOT`. -/
theorem behind_right {token : SqlToken} {after : List SqlToken}
    (names : NamesIn named (token :: after)) {inner : List SqlToken} (suffix : inner <:+ after)
    (starts : StartsOperand inner) {rightRank : Nat}
    {combine : SqlExpression → SqlExpression}
    (combines : ∀ right, right.ColumnsIn named → (combine right).ColumnsIn named)
    (result : (SqlExpression.read fuel rightRank inner).bind (fun found =>
      readBehind fuel rank (combine found.1) found.2) = some (expression, rest)) :
    ReadIn named (token :: after) expression rest := by
  obtain ⟨⟨right, behind⟩, isRight, result⟩ := Option.bind_eq_some_iff.mp result
  have shorter := suffix.trans (List.suffix_cons token after)
  have second := reads.read (names.suffix shorter) starts isRight
  have remaining := second.suffix.trans shorter
  exact (reads.behind (names.suffix remaining) (combines right second.columns) result).within
    remaining

/-- Read on behind a test. -/
theorem behind_test (names : NamesIn named tokens) {inner : List SqlToken}
    (suffix : inner <:+ tokens) (inLeft : left.ColumnsIn named)
    {change : SqlExpression → SqlExpression}
    (changes : ∀ test, test.ColumnsIn named → (change test).ColumnsIn named)
    (result : (readTest fuel left inner).bind (fun found =>
      readBehind fuel rank (change found.1) found.2) = some (expression, rest)) :
    ReadIn named tokens expression rest := by
  obtain ⟨⟨test, behind⟩, isTest, result⟩ := Option.bind_eq_some_iff.mp result
  have first := reads.test (names.suffix suffix) inLeft isTest
  have remaining := first.suffix.trans suffix
  exact (reads.behind (names.suffix remaining) (changes test first.columns) result).within remaining

theorem behind_succ (names : NamesIn named tokens) (inLeft : left.ColumnsIn named)
    (result : readBehind (fuel + 1) rank left tokens = some (expression, rest)) :
    ReadIn named tokens expression rest := by
  have stays : ReadIn named tokens left tokens := ⟨inLeft, List.suffix_rfl⟩
  rw [readBehind.eq_def] at result
  dsimp only at result
  split at result
  · cases result
    exact stays
  · rename_i token after
    split at result
    · rename_i level operator isOperator
      split at result
      · cases result
        exact stays
      · exact reads.behind_right names List.suffix_rfl (names.head.operator isOperator)
          (fun right inRight => .binary operator inLeft inRight) result
    · split at result
      · cases result
        exact stays
      · split at result
        · exact (reads.behind names.tail (.isNull inLeft) result).within (List.suffix_cons ..)
        · exact (reads.behind names.tail (.unary .not (.isNull inLeft)) result).within
            (List.suffix_cons ..)
        · rename_i isIdentity
          have starts := names.head.identity isIdentity
          have combines (negated : Bool) (right : SqlExpression) (inRight : right.ColumnsIn named) :
              (negatedWhen negated (.binary .identical left right)).ColumnsIn named :=
            columnsIn_negatedWhen negated (.binary .identical inLeft inRight)
          cases after with
          | nil => exact reads.behind_right names List.suffix_rfl starts (combines false) result
          | cons next behind =>
              by_cases isNot : next.isKeyword "NOT"
              · simp only [isNot, if_true] at result
                rw [SqlToken.withoutNot, if_pos isNot] at starts
                exact reads.behind_right names (List.suffix_cons ..) starts (combines true) result
              · simp only [isNot, Bool.false_eq_true, if_false] at result
                rw [SqlToken.withoutNot, if_neg isNot] at starts
                exact reads.behind_right names List.suffix_rfl starts (combines false) result
        · split at result
          · rename_i next behind
            split at result
            · exact (reads.behind names.tail.tail (.unary .not (.isNull inLeft)) result).within
                ((List.suffix_cons ..).trans (List.suffix_cons ..))
            · exact reads.behind_test names (List.suffix_cons ..) inLeft
                (fun test inTest => .unary .not inTest) result
          · cases result
        · exact reads.behind_test names List.suffix_rfl inLeft (fun test inTest => inTest) result
        · exact reads.behind_test names List.suffix_rfl inLeft (fun test inTest => inTest) result
        · cases result
          exact stays

theorem test_succ (names : NamesIn named tokens) (inLeft : left.ColumnsIn named)
    (result : readTest (fuel + 1) left tokens = some (expression, rest)) :
    ReadIn named tokens expression rest := by
  rw [readTest.eq_def] at result
  dsimp only at result
  split at result
  · cases result
  · rename_i token after
    split at result
    · rename_i isLike
      obtain ⟨⟨right, behind⟩, isRight, result⟩ := Option.bind_eq_some_iff.mp result
      have second := reads.read names.tail (names.head.keyword isLike (by simp [SqlToken.openers]))
        isRight
      cases result
      exact ⟨.binary .like inLeft second.columns, second.suffix.trans (List.suffix_cons ..)⟩
    · cases result
      exact ⟨.among inLeft (by simp), ⟨[token, .symbol "(", .symbol ")"], rfl⟩⟩
    · obtain ⟨⟨elements, behind⟩, isList, result⟩ := Option.bind_eq_some_iff.mp result
      have listed := reads.list names.tail.tail (names.tail.head.symbol (by decide)) isList
      cases result
      exact ⟨.among inLeft listed.columns,
        listed.suffix.trans ((List.suffix_cons ..).trans (List.suffix_cons ..))⟩
    · rename_i isBetween
      obtain ⟨⟨lower, behind⟩, isLower, result⟩ := Option.bind_eq_some_iff.mp result
      have first := reads.read names.tail
        (names.head.keyword isBetween (by simp [SqlToken.openers])) isLower
      have inBehind := names.tail.suffix first.suffix
      split at result
      · rename_i next upperTokens isBehind
        obtain rfl : behind = next :: upperTokens := isBehind
        split at result
        · rename_i isAnd
          obtain ⟨⟨upper, last⟩, isUpper, result⟩ := Option.bind_eq_some_iff.mp result
          have second := reads.read inBehind.tail
            (inBehind.head.keyword (SqlToken.isKeyword_iff.mp isAnd) (by simp [SqlToken.openers]))
            isUpper
          cases result
          exact ⟨.binary .both (.binary _ inLeft first.columns) (.binary _ inLeft second.columns),
            second.suffix.trans ((List.suffix_cons ..).trans
              (first.suffix.trans (List.suffix_cons ..)))⟩
        · cases result
      · cases result
    · cases result

/-- An operand behind a sign or `NOT`. -/
theorem operand_unary {token : SqlToken} {after : List SqlToken}
    (names : NamesIn named (token :: after)) (starts : StartsOperand after)
    (operator : UnaryOperator)
    (result : (SqlExpression.read fuel rank after).bind (fun found =>
      some (.unary operator found.1, found.2)) = some (expression, rest)) :
    ReadIn named (token :: after) expression rest := by
  obtain ⟨⟨operand, behind⟩, isOperand, result⟩ := Option.bind_eq_some_iff.mp result
  have reading := reads.read names.tail starts isOperand
  cases result
  exact ⟨.unary operator reading.columns, reading.suffix.trans (List.suffix_cons ..)⟩

/-- The arguments of a function. -/
theorem operand_call (names : NamesIn named tokens) {inner : List SqlToken}
    (suffix : inner <:+ tokens) (starts : StartsOperand inner) (function : String)
    (distinct : Bool)
    (result : (readList fuel inner).bind (fun found =>
      some (.call function distinct found.1, found.2)) = some (expression, rest)) :
    ReadIn named tokens expression rest := by
  obtain ⟨⟨arguments, behind⟩, isList, result⟩ := Option.bind_eq_some_iff.mp result
  have listed := reads.list (names.suffix suffix) starts isList
  cases result
  exact ⟨.call function distinct listed.columns, listed.suffix.trans suffix⟩

theorem operand_succ (names : NamesIn named tokens) (starts : StartsOperand tokens)
    (result : readOperand (fuel + 1) tokens = some (expression, rest)) :
    ReadIn named tokens expression rest := by
  rw [readOperand.eq_def] at result
  dsimp only at result
  split at result
  · exact reads.operand_unary names (names.head.symbol (by decide)) .negate result
  · exact reads.operand_unary names (names.head.symbol (by decide)) .plus result
  · obtain ⟨⟨inner, behind⟩, isInner, result⟩ := Option.bind_eq_some_iff.mp result
    have reading := reads.read names.tail (names.head.symbol (by decide)) isInner
    split at result
    · rename_i isBehind
      cases isBehind
      cases result
      exact ⟨reading.columns, (List.suffix_cons ..).trans
        (reading.suffix.trans (List.suffix_cons ..))⟩
    · cases result
  · cases result
    exact ⟨.literal _, List.suffix_cons ..⟩
  · split at result
    · cases result
      exact ⟨.countAll, ⟨[_, _, _, _], rfl⟩⟩
    · cases result
  · cases result
    exact ⟨.call _ _ (by simp), ⟨[_, _, _], rfl⟩⟩
  · rename_i function after _ _
    have notNot : (upperCase function == "NOT") = false := beq_eq_false_iff_ne.mpr starts.1
    simp only [notNot, Bool.false_eq_true, if_false] at result
    have startsAfter : StartsOperand after := names.tail.head.symbol (by decide)
    cases after with
    | nil => exact reads.operand_call names (List.suffix_append [_, _] []) startsAfter _ _ result
    | cons next behind =>
        by_cases isDistinct : next.isKeyword "DISTINCT"
        · simp only [isDistinct, if_true] at result
          have starts := names.tail.tail.head.keyword (SqlToken.isKeyword_iff.mp isDistinct)
            (by simp [SqlToken.openers])
          exact reads.operand_call names (List.suffix_append [_, _, _] behind) starts _ _ result
        · simp only [isDistinct, Bool.false_eq_true, if_false] at result
          exact reads.operand_call names (List.suffix_append [_, _] _) startsAfter _ _ result
  · rename_i token after _ _ _ _ _ _ notCall
    split at result
    · rename_i isNot
      cases token with
      | word text => exact absurd (Option.some.inj isNot) starts.1
      | _ => cases isNot
    · cases result
      exact ⟨.literal _, List.suffix_cons ..⟩
    · cases result
      exact ⟨.literal _, List.suffix_cons ..⟩
    · cases result
      exact ⟨.literal _, List.suffix_cons ..⟩
    · exact readIn_column names starts notCall result
  · cases result

theorem list_succ (names : NamesIn named tokens) (starts : StartsOperand tokens)
    {expressions : List SqlExpression}
    (result : readList (fuel + 1) tokens = some (expressions, rest)) :
    AllReadIn named tokens expressions rest := by
  rw [readList] at result
  obtain ⟨⟨first, behind⟩, isFirst, result⟩ := Option.bind_eq_some_iff.mp result
  have reading := reads.read names starts isFirst
  have inBehind := names.suffix reading.suffix
  split at result
  · rename_i isBehind
    cases isBehind
    obtain ⟨⟨later, last⟩, isLater, result⟩ := Option.bind_eq_some_iff.mp result
    have others := reads.list inBehind.tail (inBehind.head.symbol (by decide)) isLater
    cases result
    exact ⟨List.forall_mem_cons.mpr ⟨reading.columns, others.columns⟩,
      others.suffix.trans ((List.suffix_cons ..).trans reading.suffix)⟩
  · rename_i isBehind
    cases isBehind
    cases result
    exact ⟨List.forall_mem_singleton.mpr reading.columns,
      (List.suffix_cons ..).trans reading.suffix⟩
  · cases result

end ReadsIn

theorem readsIn (named : String → Prop) (fuel : Nat) : ReadsIn named fuel := by
  induction fuel with
  | zero =>
      constructor
      · intro rank tokens expression rest _ _ result
        simp [SqlExpression.read] at result
      · intro rank left tokens expression rest _ _ result
        simp [readBehind] at result
      · intro left tokens expression rest _ _ result
        simp [readTest] at result
      · intro tokens expression rest _ _ result
        simp [readOperand] at result
      · intro tokens expressions rest _ _ result
        simp [readList] at result
  | succ fuel inductionHypothesis =>
      exact ⟨inductionHypothesis.read_succ, inductionHypothesis.behind_succ,
        inductionHypothesis.test_succ, inductionHypothesis.operand_succ,
        fun names starts => inductionHypothesis.list_succ names starts⟩

/-- Every column of an expression that is read from orderly tokens was written as a quoted
name. -/
theorem readIn_of_ofTokens? (names : NamesIn named tokens) (starts : StartsOperand tokens)
    (result : ofTokens? tokens = some (expression, rest)) : ReadIn named tokens expression rest :=
  (readsIn named _).read names starts result

end SqlExpression

end TableGraph
