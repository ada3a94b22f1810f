import TableGraph.Proofs.Selection.Template
import TableGraph.Proofs.Sql.Quotes

/-!
# Question marks in quotes

Expressions are cut at the question marks outside of string literals, and an apostrophe is taken
for the quote of a literal wherever it stands.  The quotes of names play no part, so a question
mark in a quoted name is taken for a placeholder, and an apostrophe in one changes what is seen
behind it.

The main statement, `PlaceholderToken.positions_eq_outsideMarks_iff`, tells for which texts the
placeholders are the question marks outside of both kinds of quotes: at each question mark, the
number of apostrophes in quoted names in front must be odd exactly when the mark itself stands in
a quoted name.  `OwnsMarks.expands` is that a text with all its marks in quotes can then stand in
any template as it is.
-/

namespace TableGraph

/-! ## Placeholders -/

namespace PlaceholderToken

/-- Whether the characters behind some text are taken for those of a string literal. -/
def quotedAfter (quoted : Bool) (text : List Char) : Bool := quoted ^^ text.count '\'' % 2 == 1

/-- The positions of the placeholders among tokens of which the first stands at a position. -/
def positionsFrom (position : Nat) : List PlaceholderToken → List Nat
  | [] => []
  | token :: rest =>
    (if token.isPlaceholder then [position] else []) ++
      positionsFrom (position + token.characters.length) rest

/-- The positions of the placeholders of an expression. -/
def positions (expression : String) : List Nat := positionsFrom 0 (tokens expression)

private theorem odd_one_add (count : Nat) : ((1 + count) % 2 == 1) = !(count % 2 == 1) := by
  rcases Nat.mod_two_eq_zero_or_one count with even | odd <;> simp [Nat.add_mod, *]

@[simp]
theorem quotedAfter_nil (quoted : Bool) : quotedAfter quoted [] = quoted := by
  simp [quotedAfter]

@[simp]
theorem quotedAfter_quote (quoted : Bool) (rest : List Char) :
    quotedAfter quoted ('\'' :: rest) = quotedAfter (!quoted) rest := by
  rw [quotedAfter, List.count_cons_self, Nat.add_comm, odd_one_add, quotedAfter, Bool.xor_not,
    Bool.not_xor]

theorem quotedAfter_cons {character : Char} (notQuote : character ≠ '\'') (quoted : Bool)
    (rest : List Char) : quotedAfter quoted (character :: rest) = quotedAfter quoted rest := by
  rw [quotedAfter, List.count_cons_of_ne notQuote, quotedAfter]

theorem afterName?_eq_some {text behind : List Char} (named : afterName? text = some behind) :
    text = 'n' :: 'a' :: 'm' :: 'e' :: behind ∧ behind.head?.any continuesWord = false := by
  unfold afterName? at named
  split at named
  · split at named
    · cases named
    · rename_i ends
      obtain rfl := Option.some.inj named
      exact ⟨rfl, Bool.not_eq_true _ ▸ ends⟩
  · cases named

/-- What holds of the tokens of a text at its end and of a step of the cutting holds of the
tokens of every text. -/
theorem tokensFrom_induction
    {motive : Bool → List Char → List Char → List PlaceholderToken → Prop}
    (ended : ∀ quoted reversed, motive quoted reversed [] (flush reversed))
    (quote : ∀ quoted reversed rest tokens, motive (!quoted) ('\'' :: reversed) rest tokens →
      motive quoted reversed ('\'' :: rest) tokens)
    (name : ∀ reversed behind tokens, behind.head?.any continuesWord = false →
      motive false [] behind tokens →
        motive false reversed ('?' :: 'n' :: 'a' :: 'm' :: 'e' :: behind)
          (flush reversed ++ .identifier :: tokens))
    (value : ∀ reversed rest tokens, afterName? rest = none → motive false [] rest tokens →
      motive false reversed ('?' :: rest) (flush reversed ++ .value :: tokens))
    (pass : ∀ quoted reversed character rest tokens, character ≠ '\'' →
      (character = '?' → quoted = true) → motive quoted (character :: reversed) rest tokens →
        motive quoted reversed (character :: rest) tokens)
    (quoted : Bool) (reversed text : List Char) :
    motive quoted reversed text (tokensFrom quoted reversed text) := by
  induction quoted, reversed, text using tokensFrom.induct with
  | case1 quoted reversed =>
      rw [tokensFrom]
      exact ended quoted reversed
  | case2 quoted reversed rest inductionHypothesis =>
      rw [tokensFrom, if_pos rfl]
      exact quote _ _ _ _ inductionHypothesis
  | case3 quoted reversed character rest _ isMark behind named inductionHypothesis =>
      obtain ⟨rfl, rfl⟩ : character = '?' ∧ quoted = false := by simpa using isMark
      obtain ⟨rfl, ends⟩ := afterName?_eq_some named
      rw [tokensFrom_identifier ends]
      exact name _ _ _ ends inductionHypothesis
  | case4 quoted reversed character rest _ isMark notNamed inductionHypothesis =>
      obtain ⟨rfl, rfl⟩ : character = '?' ∧ quoted = false := by simpa using isMark
      rw [tokensFrom_value notNamed]
      exact value _ _ _ notNamed inductionHypothesis
  | case5 quoted reversed character rest notQuote noMark inductionHypothesis =>
      rw [tokensFrom, if_neg notQuote, if_neg noMark]
      exact pass _ _ _ _ _ notQuote (by simpa using noMark) inductionHypothesis

theorem flatMap_flush (reversed : List Char) :
    (flush reversed).flatMap characters = reversed.reverse := by
  cases reversed with
  | nil => rfl
  | cons head tail => simp [flush, characters]

/-- Nothing of a text is lost. -/
theorem flatMap_tokensFrom (quoted : Bool) (reversed text : List Char) :
    (tokensFrom quoted reversed text).flatMap characters = reversed.reverse ++ text := by
  refine tokensFrom_induction (motive := fun _ reversed text tokens =>
    tokens.flatMap characters = reversed.reverse ++ text) ?ended ?quote ?name ?value ?pass
    quoted reversed text
  case ended => simp [flatMap_flush]
  case quote =>
    intro quoted reversed rest tokens whole
    simpa using whole
  case name =>
    intro reversed behind tokens _ whole
    simp [flatMap_flush, characters, whole]
  case value =>
    intro reversed rest tokens _ whole
    simp [flatMap_flush, characters, whole]
  case pass =>
    intro quoted reversed character rest tokens _ _ whole
    simpa using whole

/-- The word of a name placeholder has no question marks of its own. -/
theorem marksBehind_name (behind : List Char) :
    marksBehind (fun front => !quotedAfter false front) ('n' :: 'a' :: 'm' :: 'e' :: behind) =
      (marksBehind (fun front => !quotedAfter false front) behind).map (· + 4) := by
  simp only [marksBehind_cons, quotedAfter_cons, Char.reduceEq, ne_eq, not_false_eq_true,
    false_and, if_false, List.nil_append, List.map_map, Function.comp_def, Nat.add_assoc]

theorem length_positionsFrom (position : Nat) (tokens : List PlaceholderToken) :
    (positionsFrom position tokens).length = tokens.countP isPlaceholder := by
  induction tokens generalizing position with
  | nil => rfl
  | cons token rest inductionHypothesis =>
      rw [positionsFrom, List.length_append, inductionHypothesis, List.countP_cons, Nat.add_comm]
      split <;> rfl

/-- There is a position for each placeholder that takes a parameter. -/
theorem length_positions (expression : String) :
    (positions expression).length = (tokens expression).countP isPlaceholder :=
  length_positionsFrom 0 (tokens expression)

theorem positionsFrom_flush (position : Nat) (reversed : List Char)
    (rest : List PlaceholderToken) :
    positionsFrom position (flush reversed ++ rest) =
      positionsFrom (position + reversed.length) rest := by
  cases reversed with
  | nil => rfl
  | cons head tail => simp [flush, positionsFrom, isPlaceholder, characters]

private theorem map_add (marks : List Nat) (first second : Nat) :
    (marks.map (· + first)).map (· + second) = marks.map (· + (second + first)) := by
  simp [Nat.add_comm, Nat.add_left_comm]

/-- The placeholders found in a text are its question marks outside of what is taken for string
literals. -/
theorem positionsFrom_tokensFrom (quoted : Bool) (reversed text : List Char) :
    ∀ position, positionsFrom position (tokensFrom quoted reversed text) =
      (marksBehind (fun front => !quotedAfter quoted front) text).map
        (· + (position + reversed.length)) := by
  refine tokensFrom_induction (motive := fun quoted reversed text tokens =>
    ∀ position, positionsFrom position tokens =
      (marksBehind (fun front => !quotedAfter quoted front) text).map
        (· + (position + reversed.length))) ?ended ?quote ?name ?value ?pass quoted reversed text
  case ended =>
    intro quoted reversed position
    rw [← List.append_nil (flush reversed), positionsFrom_flush]
    rfl
  case quote =>
    intro quoted reversed rest tokens found position
    rw [found, marksBehind_cons]
    simp [Function.comp_def, Nat.add_comm, Nat.add_left_comm]
  case name =>
    intro reversed behind tokens _ found position
    rw [positionsFrom_flush, positionsFrom, found, marksBehind_cons]
    simp only [quotedAfter_cons (by decide : '?' ≠ '\''), marksBehind_name]
    simp [isPlaceholder, characters, map_add, -List.map_map]
  case value =>
    intro reversed rest tokens _ found position
    rw [positionsFrom_flush, positionsFrom, found, marksBehind_cons]
    simp only [quotedAfter_cons (by decide : '?' ≠ '\'')]
    simp [isPlaceholder, characters, map_add, -List.map_map]
  case pass =>
    intro quoted reversed character rest tokens notQuote noMark found position
    rw [found, marksBehind_cons]
    simp only [quotedAfter_cons notQuote]
    have unmarked : ¬ (character = '?' ∧ (!quotedAfter quoted []) = true) := by
      simpa [quotedAfter] using noMark
    rw [if_neg unmarked]
    simp [Function.comp_def, Nat.add_comm, Nat.add_left_comm]

theorem not_quotedAfter_false (front : List Char) :
    (!quotedAfter false front) = (front.count '\'' % 2 == 0) := by
  rcases Nat.mod_two_eq_zero_or_one (front.count '\'') with even | odd <;>
    simp [quotedAfter, *]

/-- The placeholders of an expression are its question marks with an even number of apostrophes
in front. -/
theorem positions_eq (expression : String) :
    positions expression =
      marksBehind (fun front => front.count '\'' % 2 == 0) expression.toList := by
  have found := positionsFrom_tokensFrom false [] expression.toList 0
  simpa [positions, tokens, not_quotedAfter_false] using found

/-- A text without placeholders is passed over. -/
theorem tokensFrom_unmarked {quoted : Bool} {text rest : List Char}
    (unmarked : marksBehind (fun front => !quotedAfter quoted front) text = [])
    (reversed : List Char) :
    tokensFrom quoted reversed (text ++ rest) =
      tokensFrom (quotedAfter quoted text) (text.reverse ++ reversed) rest := by
  induction text generalizing quoted reversed with
  | nil => simp
  | cons character tail inductionHypothesis =>
      rw [marksBehind_cons, List.append_eq_nil_iff, List.map_eq_nil_iff] at unmarked
      obtain ⟨headUnmarked, tailUnmarked⟩ := unmarked
      have noMark : ¬ (decide (character = '?') && !quoted) = true := by
        simpa using headUnmarked
      rw [List.cons_append, tokensFrom]
      by_cases isQuote : character = '\''
      · subst isQuote
        simp only [quotedAfter_quote] at tailUnmarked
        rw [if_pos rfl, inductionHypothesis tailUnmarked]
        simp
      · simp only [quotedAfter_cons isQuote] at tailUnmarked
        rw [if_neg isQuote, if_neg noMark, inductionHypothesis tailUnmarked,
          quotedAfter_cons isQuote]
        simp

/-! ## Apostrophes in names -/

theorem quotedAfter_not (quoted : Bool) (text : List Char) :
    quotedAfter (!quoted) text = !quotedAfter quoted text := by
  simp [quotedAfter]

/-- What is taken for a string literal is one, but for the apostrophes in names. -/
theorem quotedAfter_isLiteral (state : QuoteState) (text : List Char) :
    quotedAfter state.isLiteral text =
      ((state.after text).isLiteral ^^ state.straysFrom text % 2 == 1) := by
  induction text generalizing state with
  | nil => simp [QuoteState.after, QuoteState.straysFrom]
  | cons character rest inductionHypothesis =>
      have behind := inductionHypothesis (state.step character)
      rw [QuoteState.straysFrom, QuoteState.after_cons]
      by_cases isQuote : character = '\''
      · subst isQuote
        rw [quotedAfter_quote]
        cases state with
        | outside | literal =>
            simpa [QuoteState.step, QuoteState.isLiteral] using behind
        | name =>
            -- The apostrophe is part of a name, so no literal begins or ends.
            rw [quotedAfter_not, if_pos ⟨rfl, rfl⟩, odd_one_add, Bool.xor_not]
            exact congrArg not behind
      · rw [quotedAfter_cons isQuote, ← QuoteState.isLiteral_step isQuote, behind]
        simp [isQuote]

end PlaceholderToken

/-- At each question mark, the number of apostrophes in quoted names in front is odd exactly when
the mark itself stands in a quoted name. -/
def IsUndisturbed (text : List Char) : Prop :=
  ∀ position ∈ marksBehind (fun _ => true) text,
    QuoteState.outside.after (text.take position) = .name ↔
      QuoteState.strays (text.take position) % 2 = 1

instance (text : List Char) : Decidable (IsUndisturbed text) :=
  inferInstanceAs (Decidable (∀ position ∈ marksBehind (fun _ => true) text, _))

namespace PlaceholderToken

/-- Behind some text, the two readings of a question mark agree exactly when an odd number of
apostrophes in names goes together with a place in a name. -/
theorem seen_iff (front : List Char) :
    ((front.count '\'' % 2 == 0) = (QuoteState.outside.after front == .outside)) ↔
      (QuoteState.outside.after front = .name ↔ QuoteState.strays front % 2 = 1) := by
  have quoted : (front.count '\'' % 2 == 1) =
      ((QuoteState.outside.after front).isLiteral ^^ QuoteState.strays front % 2 == 1) := by
    have literal := quotedAfter_isLiteral .outside front
    rwa [QuoteState.isLiteral, quotedAfter, Bool.false_xor] at literal
  generalize QuoteState.outside.after front = state at quoted ⊢
  rcases Nat.mod_two_eq_zero_or_one (front.count '\'') with even | odd <;>
    rcases Nat.mod_two_eq_zero_or_one (QuoteState.strays front) with balanced | stray <;>
    cases state <;>
    simp_all [QuoteState.isLiteral]

/-- The placeholders of an expression are the question marks outside of quotes, exactly when
neither question marks nor apostrophes in quoted names disturb them. -/
theorem positions_eq_outsideMarks_iff (expression : String) :
    positions expression = outsideMarks expression.toList ↔ IsUndisturbed expression.toList := by
  rw [positions_eq, outsideMarks, marksBehind_eq_iff, IsUndisturbed]
  exact forall₂_congr fun position _ => seen_iff _

end PlaceholderToken

/-- A text whose quoted names have neither question marks nor apostrophes. -/
def HasPlainNames (text : List Char) : Prop :=
  ∀ position < text.length, QuoteState.outside.after (text.take position) = .name →
    text[position]? ≠ some '?' ∧ text[position]? ≠ some '\''

instance (text : List Char) : Decidable (HasPlainNames text) :=
  inferInstanceAs (Decidable (∀ position < text.length, _))

theorem QuoteState.straysFrom_eq_zero {state : QuoteState} {text : List Char}
    (plain : ∀ position, state.after (text.take position) = .name →
      text[position]? ≠ some '\'') :
    state.straysFrom text = 0 := by
  induction text generalizing state with
  | nil => rfl
  | cons character rest inductionHypothesis =>
      have here : ¬ (state = .name ∧ character = '\'') := by
        rintro ⟨inName, isQuote⟩
        exact plain 0 inName (congrArg some isQuote)
      rw [straysFrom, if_neg here, inductionHypothesis fun position => plain (position + 1)]

theorem HasPlainNames.strays_take {text : List Char} (plain : HasPlainNames text)
    (length : Nat) : QuoteState.strays (text.take length) = 0 := by
  refine QuoteState.straysFrom_eq_zero fun position inName isQuote => ?_
  rw [List.getElem?_take] at isQuote
  split at isQuote
  · rename_i within
    rw [List.take_take, Nat.min_eq_left (Nat.le_of_lt within)] at inName
    exact (plain position (List.getElem?_eq_some_iff.mp isQuote).1 inName).2 isQuote
  · cases isQuote

/-- Plain names disturb nothing. -/
theorem HasPlainNames.isUndisturbed {text : List Char} (plain : HasPlainNames text) :
    IsUndisturbed text := by
  intro position member
  have isMark : text[position]? = some '?' := (mem_marksBehind.mp member).1
  have outsideNames : QuoteState.outside.after (text.take position) ≠ .name := fun inName =>
    (plain position (List.getElem?_eq_some_iff.mp isMark).1 inName).1 isMark
  exact iff_of_false outsideNames (by simp [plain.strays_take position])

theorem HasPlainNames.balanced {text : List Char} (plain : HasPlainNames text) :
    QuoteState.strays text % 2 = 0 := by
  rw [← List.take_length (l := text), plain.strays_take]

/-! ## Texts with marks of their own -/

/-- A text whose literals and quoted names are closed, with all of its question marks inside of
them, and with no apostrophes in its quoted names that a reader of literals alone would miss. -/
structure OwnsMarks (text : List Char) : Prop where
  closed : QuoteState.outside.after text = .outside
  covered : outsideMarks text = []
  undisturbed : IsUndisturbed text
  balanced : QuoteState.strays text % 2 = 0

instance (text : List Char) : Decidable (OwnsMarks text) :=
  decidable_of_iff
    (QuoteState.outside.after text = .outside ∧ outsideMarks text = [] ∧ IsUndisturbed text ∧
      QuoteState.strays text % 2 = 0)
    ⟨fun ⟨closed, covered, undisturbed, balanced⟩ => ⟨closed, covered, undisturbed, balanced⟩,
      fun owns => ⟨owns.closed, owns.covered, owns.undisturbed, owns.balanced⟩⟩

namespace OwnsMarks

open PlaceholderToken

variable {text : List Char}

theorem unmarked (owns : OwnsMarks text) :
    marksBehind (fun front => !quotedAfter false front) text = [] := by
  rw [← owns.covered, outsideMarks, marksBehind_eq_iff]
  intro position member
  rw [not_quotedAfter_false]
  exact (seen_iff _).mpr (owns.undisturbed position member)

theorem quotedAfter_eq_false (owns : OwnsMarks text) : quotedAfter false text = false := by
  have literal := quotedAfter_isLiteral .outside text
  rw [owns.closed, ← QuoteState.strays, owns.balanced] at literal
  exact literal

/-- The text stands as it is in front of what the rest expands to. -/
theorem expands (owns : OwnsMarks text) {template written : List Char} {parameters : List Parameter}
    {binds : List Value} (expands : Expands template parameters written binds) :
    Expands (text ++ template) parameters (text ++ written) binds := by
  intro position reversed
  rw [tokensFrom_unmarked owns.unmarked, owns.quotedAfter_eq_false]
  simpa using expands position (text.reverse ++ reversed)

end OwnsMarks

end TableGraph
