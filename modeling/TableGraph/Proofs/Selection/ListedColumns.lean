import TableGraph.Proofs.Selection.Restriction
import TableGraph.Proofs.Sql.ClauseColumns

/-!
# Listed columns

Behind `GROUP BY` and `ORDER BY` the statements of untrusted callers list quoted names and
calls.  None of these terms is read as a number, which would stand for the column of this
place (`Query.noNumbers_of_names`, `Query.noNumbers_of_items`).
-/

namespace TableGraph

namespace Query

/-! ## Terms of a list -/

/-- Tokens that no operand goes on with. -/
def EndsTerm : List SqlToken → Prop
  | token :: _ => SqlExpression.operator? token = none ∧
      ∀ keyword ∈ ["ISNULL", "NOTNULL", "IS", "NOT", "IN", "BETWEEN"],
        token.keyword? ≠ some keyword
  | [] => True

variable {rest : List SqlToken}

theorem EndsTerm.readBehind (ends : EndsTerm rest) (fuel rank : Nat) (left : SqlExpression) :
    SqlExpression.readBehind (fuel + 1) rank left rest = some (left, rest) := by
  cases rest with
  | nil => rfl
  | cons token later =>
      obtain ⟨noOperator, noTest⟩ := ends
      rw [SqlExpression.readBehind.eq_def]
      simp only [noOperator]
      split
      · rfl
      · split
        · next isWord => exact absurd isWord (noTest _ (by simp))
        · next isWord => exact absurd isWord (noTest _ (by simp))
        · next isWord => exact absurd isWord (noTest _ (by simp))
        · next isWord => exact absurd isWord (noTest _ (by simp))
        · next isWord => exact absurd isWord (noTest _ (by simp))
        · next isWord => exact absurd isWord (noTest _ (by simp))
        · rfl

theorem ofTokens?_of_operand {tokens : List SqlToken} {operand : SqlExpression}
    (isOperand : ∀ fuel, SqlExpression.readOperand (fuel + 1) tokens = some (operand, rest))
    (ends : EndsTerm rest) :
    SqlExpression.ofTokens? tokens = some (operand, rest) := by
  have fuel : 3 * tokens.length + 3 = (3 * tokens.length + 1) + 1 + 1 := rfl
  rw [SqlExpression.ofTokens?, fuel, SqlExpression.read, isOperand]
  exact ends.readBehind _ _ _

theorem ofTokens?_name (text : String) (ends : EndsTerm rest)
    (noDot : rest.head? ≠ some (.symbol ".")) :
    SqlExpression.ofTokens? (.name text :: rest) = some (.column none text, rest) := by
  refine ofTokens?_of_operand (fun fuel => ?_) ends
  rw [SqlExpression.readOperand.eq_def]
  simp only [SqlToken.keyword?, SqlToken.name?, Option.bind_eq_bind, Option.bind_some]
  split
  · exact absurd rfl noDot
  · rfl

theorem ofTokens?_dottedName (table text : String) (ends : EndsTerm rest) :
    SqlExpression.ofTokens? (.name table :: .symbol "." :: .name text :: rest) =
      some (.column (some table) text, rest) :=
  ofTokens?_of_operand (fun _ => rfl) ends

theorem ofTokens?_random (ends : EndsTerm rest) :
    SqlExpression.ofTokens? (.word "RANDOM" :: .symbol "(" :: .symbol ")" :: rest) =
      some (.call "RANDOM" false [], rest) :=
  ofTokens?_of_operand (fun _ => rfl) ends

/-- A name is read as a column; parts behind a second dot are left over. -/
theorem ofTokens?_nameTokens (name : String) (ends : EndsTerm rest)
    (noDot : rest.head? ≠ some (.symbol ".")) :
    ∃ table column last,
      SqlExpression.ofTokens? (Lexeme.nameTokens name ++ rest) = some (.column table column, last) ∧
        (last = rest ∨ last.head? = some (.symbol ".")) := by
  rw [Lexeme.nameTokens]
  rcases parts : Identifier.parts name.toList with _ | ⟨table, _ | ⟨column, _ | ⟨third, others⟩⟩⟩
  · exact absurd parts (Identifier.parts_ne_nil _)
  · exact ⟨_, _, _, ofTokens?_name _ ends noDot, Or.inl rfl⟩
  · exact ⟨_, _, _, ofTokens?_dottedName _ _ ends, Or.inl rfl⟩
  · have dotEnds (later : List SqlToken) : EndsTerm (.symbol "." :: later) :=
      ⟨rfl, fun keyword _ isWord => by cases isWord⟩
    exact ⟨_, _, _, ofTokens?_dottedName _ _ (dotEnds _), Or.inr rfl⟩

/-! ## Lists -/

/-- The tokens that may stand behind the last term of a list. -/
def closers : List SqlToken := [.word "HAVING", .word "ORDER", .word "LIMIT", .symbol ")"]

/-- Tokens that may stand behind a list. -/
def EndsList (rest : List SqlToken) : Prop := ∀ token ∈ rest.head?, token ∈ closers

/-- Tokens that may stand behind a term of a list. -/
def EndsItem (rest : List SqlToken) : Prop := ∀ token ∈ rest.head?, token ∈ .symbol "," :: closers

theorem EndsList.endsItem (ends : EndsList rest) : EndsItem rest :=
  fun token isHead => List.mem_cons_of_mem _ (ends token isHead)

theorem EndsList.noComma (ends : EndsList rest) : rest.head? ≠ some (.symbol ",") :=
  fun isComma => absurd (ends _ isComma) (by decide)

theorem endsItem_comma (later : List SqlToken) : EndsItem (.symbol "," :: later) :=
  fun _ isHead => Option.some.inj isHead ▸ List.mem_cons_self

theorem EndsItem.noDot (ends : EndsItem rest) : rest.head? ≠ some (.symbol ".") :=
  fun isDot => absurd (ends _ isDot) (by decide)

theorem EndsItem.endsTerm (ends : EndsItem rest) : EndsTerm rest := by
  cases rest with
  | nil => trivial
  | cons token later =>
      have among : token ∈ .symbol "," :: closers := ends token rfl
      simp only [closers, List.mem_cons, List.not_mem_nil, or_false] at among
      rcases among with rfl | rfl | rfl | rfl | rfl <;>
        exact ⟨by decide +kernel, by decide +kernel⟩

theorem EndsItem.readDirection (ends : EndsItem rest) : readDirection rest = (false, rest) := by
  cases rest with
  | nil => rfl
  | cons token later =>
      have among : token ∈ .symbol "," :: closers := ends token rfl
      simp only [closers, List.mem_cons, List.not_mem_nil, or_false] at among
      rcases among with rfl | rfl | rfl | rfl | rfl <;> rfl

/-- Parts with commas between them. -/
def separated (parts : List (List SqlToken)) : List SqlToken :=
  (parts.intersperse [.symbol ","]).flatten

theorem separated_cons (first second : List SqlToken) (parts : List (List SqlToken)) :
    separated (first :: second :: parts) = first ++ .symbol "," :: separated (second :: parts) := rfl

theorem separated_singleton (only : List SqlToken) : separated [only] = only := by
  simp [separated]

/-! ### Groups -/

/-- The terms behind a first one stand behind a comma. -/
theorem readExpressions_of_first {fuel : Nat} {tokens behind last : List SqlToken}
    {first : SqlExpression} {expressions : List SqlExpression}
    (isFirst : SqlExpression.ofTokens? tokens = some (first, behind))
    (read : readExpressions fuel tokens = some (expressions, last)) :
    expressions = [first] ∨ ∃ fewer rest later, behind = .symbol "," :: rest ∧
      readExpressions fewer rest = some (later, last) ∧ expressions = first :: later := by
  cases fuel with
  | zero => cases read
  | succ fuel =>
      rw [readExpressions, isFirst] at read
      simp only [Option.bind_eq_bind, Option.bind_some] at read
      split at read
      · next isBehind =>
          cases isBehind
          obtain ⟨⟨later, last⟩, isLater, read⟩ := Option.bind_eq_some_iff.mp read
          cases read
          exact Or.inr ⟨fuel, _, later, rfl, isLater, rfl⟩
      · next isBehind =>
          cases isBehind
          cases read
          exact Or.inl rfl

/-- The names of a list are read as columns. -/
theorem noNumbers_of_names {fuel : Nat} (ends : EndsList rest) (first : String)
    (names : List String) {expressions : List SqlExpression} {last : List SqlToken}
    (read : readExpressions fuel
      (separated ((first :: names).map Lexeme.nameTokens) ++ rest) = some (expressions, last)) :
    ∀ expression ∈ expressions, ¬ expression.IsNumber := by
  induction names generalizing fuel first expressions with
  | nil =>
      rw [List.map_singleton, separated_singleton] at read
      obtain ⟨table, column, behind, isFirst, isBehind⟩ :=
        ofTokens?_nameTokens first ends.endsItem.endsTerm ends.endsItem.noDot
      rcases readExpressions_of_first isFirst read with rfl | ⟨_, others, _, rfl, _⟩
      · exact List.forall_mem_singleton.mpr id
      · rcases isBehind with rfl | isDot
        · exact absurd rfl ends.noComma
        · simp at isDot
  | cons second names inductionHypothesis =>
      rw [List.map_cons, List.map_cons, separated_cons, List.append_assoc, List.cons_append,
        ← List.map_cons] at read
      have ends := endsItem_comma (separated ((second :: names).map Lexeme.nameTokens) ++ rest)
      obtain ⟨table, column, behind, isFirst, isBehind⟩ :=
        ofTokens?_nameTokens first ends.endsTerm ends.noDot
      rcases readExpressions_of_first isFirst read with rfl | ⟨_, others, later, rfl, isLater, rfl⟩
      · exact List.forall_mem_singleton.mpr id
      · rcases isBehind with same | isDot
        · obtain rfl := (List.cons.inj same).2
          exact List.forall_mem_cons.mpr ⟨id, inductionHypothesis second isLater⟩
        · simp at isDot

/-! ### Orders -/

theorem readOrders_of_first {fuel : Nat} {tokens behind last : List SqlToken}
    {first : SqlExpression} {orders : List OrderTerm}
    (isFirst : SqlExpression.ofTokens? tokens = some (first, behind))
    (read : readOrders fuel tokens = some (orders, last)) :
    ∃ order later, order.expression = first ∧ orders = order :: later ∧
      (later = [] ∨ ∃ fewer rest, (readDirection behind).2 = .symbol "," :: rest ∧
        readOrders fewer rest = some (later, last)) := by
  cases fuel with
  | zero => cases read
  | succ fuel =>
      rw [readOrders, isFirst] at read
      simp only [Option.bind_eq_bind, Option.bind_some] at read
      split at read
      · next isBehind =>
          obtain ⟨⟨later, last⟩, isLater, read⟩ := Option.bind_eq_some_iff.mp read
          cases read
          exact ⟨_, later, rfl, rfl, Or.inr ⟨fuel, _, isBehind, isLater⟩⟩
      · cases read
        exact ⟨_, [], rfl, rfl, Or.inl rfl⟩

end Query

namespace OrderItem

open Query (EndsItem)

def boundTokens (item : OrderItem) : List SqlToken := item.slots.flatMap Slot.boundTokens

theorem boundTokens_column (name : String) (descending : Bool) :
    (column name descending).boundTokens =
      Lexeme.nameTokens name ++ [.word (if descending then "DESC" else "ASC")] := by
  cases descending <;> rfl

/-- An item is read as a column or as a call, with its direction behind it. -/
theorem ofTokens?_boundTokens (item : OrderItem) {rest : List SqlToken} (ends : EndsItem rest) :
    ∃ expression behind,
      SqlExpression.ofTokens? (item.boundTokens ++ rest) = some (expression, behind) ∧
        ¬ expression.IsNumber ∧ ((Query.readDirection behind).2 = rest ∨
          (Query.readDirection behind).2.head? = some (.symbol ".")) := by
  cases item with
  | column name descending =>
      have directionEnds : Query.EndsTerm (.word (if descending then "DESC" else "ASC") :: rest) := by
        cases descending <;> exact ⟨by decide +kernel, by decide +kernel⟩
      obtain ⟨table, column, behind, isFirst, isBehind⟩ :=
        Query.ofTokens?_nameTokens name directionEnds (by simp)
      rw [boundTokens_column, List.append_assoc]
      refine ⟨_, behind, isFirst, id, ?_⟩
      rcases isBehind with rfl | isDot
      · left
        cases descending <;> rfl
      · right
        cases behind with
        | nil => cases isDot
        | cons token later =>
            obtain rfl := Option.some.inj isDot
            rfl
  | random =>
      refine ⟨_, rest, Query.ofTokens?_random ends.endsTerm, id, Or.inl ?_⟩
      rw [ends.readDirection]

end OrderItem

namespace Query

/-- The items of an order are no numbers. -/
theorem noNumbers_of_items {fuel : Nat} (ends : EndsList rest) (first : OrderItem)
    (items : List OrderItem) {orders : List OrderTerm} {last : List SqlToken}
    (read : readOrders fuel
      (separated ((first :: items).map OrderItem.boundTokens) ++ rest) = some (orders, last)) :
    ∀ order ∈ orders, ¬ order.expression.IsNumber := by
  induction items generalizing fuel first orders with
  | nil =>
      rw [List.map_singleton, separated_singleton] at read
      obtain ⟨expression, behind, isFirst, noNumber, isBehind⟩ :=
        first.ofTokens?_boundTokens ends.endsItem
      obtain ⟨order, later, rfl, rfl, rfl | ⟨_, others, isComma, _⟩⟩ :=
        readOrders_of_first isFirst read
      · exact List.forall_mem_singleton.mpr noNumber
      · rw [isComma] at isBehind
        rcases isBehind with rfl | isDot
        · exact absurd rfl ends.noComma
        · simp at isDot
  | cons second items inductionHypothesis =>
      rw [List.map_cons, List.map_cons, separated_cons, List.append_assoc, List.cons_append,
        ← List.map_cons] at read
      obtain ⟨expression, behind, isFirst, noNumber, isBehind⟩ :=
        first.ofTokens?_boundTokens (endsItem_comma _)
      obtain ⟨order, later, rfl, rfl, rfl | ⟨_, others, isComma, isLater⟩⟩ :=
        readOrders_of_first isFirst read
      · exact List.forall_mem_singleton.mpr noNumber
      · rw [isComma] at isBehind
        rcases isBehind with same | isDot
        · obtain rfl := (List.cons.inj same).2
          exact List.forall_mem_cons.mpr ⟨noNumber, inductionHypothesis second isLater⟩
        · simp at isDot

end Query

end TableGraph
