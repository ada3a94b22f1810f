import TableGraph.Proofs.Selection.Rendering
import TableGraph.Sql.Query

/-!
# Bound statements

What a statement says once its values are bound: each parameter mark is replaced by
the value that is bound to it.  On the other hand each fragment of a statement says
something by itself, its own parameters standing in the places of its placeholders.

The main statement, `Binds.expand`, is that for pieces made of slots the two are the
same: the marks and the values of a rendered statement are in step.
-/

namespace TableGraph

open Lexeme (Fits Follows Separates)
open TableSelection (Piece expandPieces)

/-! ## What parts of a statement say -/

namespace Parameter

/-- The values that a parameter binds. -/
def values : Parameter → List Value
  | .value bound => [bound]
  | .list bound => bound
  | .identifier _ => []

/-- A list of values with commas between them; without values it is null. -/
def listTokens : List Value → List SqlToken
  | [] => [.word "NULL"]
  | [only] => [.literal (Cell.ofValue only)]
  | first :: rest => .literal (Cell.ofValue first) :: .symbol "," :: listTokens rest

/-- A parameter as it stands in the place of its placeholder. -/
def boundTokens : Parameter → List SqlToken
  | .value bound => [.literal (Cell.ofValue bound)]
  | .list bound => listTokens bound
  | .identifier name => Lexeme.nameTokens name

end Parameter

/-- The tokens of a text, none when it is malformed. -/
def SqlToken.ofText (text : String) : List SqlToken := (SqlToken.lex text).getD []

namespace Fragment

def values (fragment : Fragment) : List Value := fragment.parameters.flatMap Parameter.values

/-- The tokens of an expression with the parameters in the places of its
placeholders. -/
def substitute : List PlaceholderToken → List Parameter → List SqlToken
  | [], _ => []
  | .text characters :: rest, parameters =>
    SqlToken.ofText (String.ofList characters) ++ substitute rest parameters
  | .value :: rest, parameter :: parameters => parameter.boundTokens ++ substitute rest parameters
  | .identifier :: rest, parameter :: parameters =>
    parameter.boundTokens ++ substitute rest parameters
  | .value :: _, [] => []
  | .identifier :: _, [] => []

def boundTokens (fragment : Fragment) : List SqlToken :=
  substitute (PlaceholderToken.tokens fragment.expression) fragment.parameters

/-- Parameters that are put into the places of as many placeholders bind their values. -/
theorem binds_of_place {tokens : List PlaceholderToken} :
    ∀ {position : Nat} {parameters : List Parameter} {statement : Statement},
      tokens.countP PlaceholderToken.isPlaceholder = parameters.length →
        place position tokens parameters = .ok statement →
          statement.binds = parameters.flatMap Parameter.values := by
  have placed (parameter : Parameter) : (placed parameter).binds = parameter.values := by
    cases parameter <;> rfl
  induction tokens with
  | nil =>
      intro position parameters statement counted isPlaced
      obtain rfl := List.length_eq_zero_iff.mp counted.symm
      obtain rfl := Except.ok.inj isPlaced
      rfl
  | cons token rest inductionHypothesis =>
      intro position parameters statement counted isPlaced
      rw [List.countP_cons] at counted
      have behind {own : Statement} {later : List Parameter}
          (counted : rest.countP PlaceholderToken.isPlaceholder = later.length)
          (isPlaced : (place (position + 1) rest later).map own.append = .ok statement) :
          statement.binds = own.binds ++ later.flatMap Parameter.values := by
        cases found : place (position + 1) rest later with
        | error failure => simp [found, Except.map] at isPlaced
        | ok second =>
            rw [found] at isPlaced
            obtain rfl := Except.ok.inj isPlaced
            rw [Statement.append, inductionHypothesis counted found]
      cases token with
      | text characters => exact behind counted isPlaced
      | value =>
          cases parameters with
          | nil => cases isPlaced
          | cons parameter later =>
              have binds := behind (Nat.succ.inj counted) isPlaced
              rwa [placed] at binds
      | identifier =>
          cases parameters with
          | nil => cases isPlaced
          | cons parameter later =>
              cases parameter with
              | value | list => cases isPlaced
              | identifier name => exact behind (Nat.succ.inj counted) isPlaced

/-- A fragment that expands binds the values of its parameters, from left to right. -/
theorem binds_of_expand {fragment : Fragment} {statement : Statement}
    (expanded : fragment.expand = .ok statement) : statement.binds = fragment.values := by
  simp only [expand] at expanded
  split at expanded
  · cases expanded
  · rename_i counted
    exact binds_of_place (Decidable.not_not.mp counted) expanded

end Fragment

namespace TableSelection

def Piece.values : Piece → List Value
  | .text _ => []
  | .fragment part => part.values

def Piece.boundTokens : Piece → List SqlToken
  | .text written => SqlToken.ofText written
  | .fragment part => part.boundTokens

/-- The pieces of a statement with its closing. -/
def allPieces (selection : TableSelection) (head : Head) : List Piece :=
  selection.pieces head ++ [.text (selection.closing head)]

/-- What a statement says once its values are bound. -/
def boundTokens (selection : TableSelection) (head : Head) : List SqlToken :=
  (selection.allPieces head).flatMap Piece.boundTokens

/-- The values of a selection in the order of its clauses; a count leaves out the
order. -/
def values (selection : TableSelection) : Head → List Value
  | .rows =>
    (selection.filters ++ selection.group.toList ++ selection.havings ++
      selection.orders).flatMap Fragment.values
  | .count _ =>
    (selection.filters ++ selection.group.toList ++ selection.havings).flatMap Fragment.values

end TableSelection

/-! ## Binding values to marks -/

namespace Query

theorem bind_cons {token : SqlToken} (notMark : token ≠ .mark) (rest : List SqlToken)
    (cells : List Cell) :
    bind (token :: rest) cells = (bind rest cells).map fun later => token :: later := by
  cases token with
  | mark => exact absurd rfl notMark
  | word | name | literal | symbol => rfl

theorem bind_append {first second firstBound secondBound : List SqlToken}
    {firstCells secondCells : List Cell} (firstBinds : bind first firstCells = some firstBound)
    (secondBinds : bind second secondCells = some secondBound) :
    bind (first ++ second) (firstCells ++ secondCells) = some (firstBound ++ secondBound) := by
  induction first generalizing firstCells firstBound with
  | nil =>
      cases firstCells with
      | nil =>
          obtain rfl := Option.some.inj firstBinds
          exact secondBinds
      | cons cell cells => cases firstBinds
  | cons head tail inductionHypothesis =>
      by_cases isMark : head = .mark
      · subst isMark
        cases firstCells with
        | nil => cases firstBinds
        | cons cell cells =>
            obtain ⟨later, tailBinds, rfl⟩ := Option.map_eq_some_iff.mp firstBinds
            exact Option.map_eq_some_iff.mpr ⟨_, inductionHypothesis tailBinds, rfl⟩
      · rw [bind_cons isMark] at firstBinds
        obtain ⟨later, tailBinds, rfl⟩ := Option.map_eq_some_iff.mp firstBinds
        rw [List.cons_append, bind_cons isMark, inductionHypothesis tailBinds]
        rfl

/-- Tokens without marks bind nothing and stay as they are. -/
theorem bind_nil {tokens : List SqlToken} (unmarked : SqlToken.mark ∉ tokens) :
    bind tokens [] = some tokens := by
  induction tokens with
  | nil => rfl
  | cons head tail inductionHypothesis =>
      rw [List.mem_cons, not_or] at unmarked
      rw [bind_cons (Ne.symm unmarked.1), inductionHypothesis unmarked.2]
      rfl

/-- Values can be bound only to as many marks. -/
theorem count_mark_of_bind {tokens bound : List SqlToken} {cells : List Cell}
    (binds : bind tokens cells = some bound) : tokens.count .mark = cells.length := by
  induction tokens generalizing cells bound with
  | nil =>
      cases cells with
      | nil => rfl
      | cons cell cells => cases binds
  | cons head tail inductionHypothesis =>
      by_cases isMark : head = .mark
      · subst isMark
        cases cells with
        | nil => cases binds
        | cons cell cells =>
            obtain ⟨later, tailBinds, _⟩ := Option.map_eq_some_iff.mp binds
            rw [List.count_cons_self, inductionHypothesis tailBinds, List.length_cons]
      · rw [bind_cons isMark] at binds
        obtain ⟨later, tailBinds, _⟩ := Option.map_eq_some_iff.mp binds
        rw [List.count_cons_of_ne isMark, inductionHypothesis tailBinds]

end Query

/-! ## Slots -/

namespace Lexeme

/-- What can stand somewhere can stand at a beginning. -/
theorem fits_of_endsOpen? {lexemes : List Lexeme} {afterOpen behind : Bool}
    (ends : endsOpen? afterOpen lexemes = some behind) : Fits lexemes := by
  cases lexemes with
  | nil => exact ⟨false, rfl⟩
  | cons head tail =>
      rw [endsOpen?] at ends
      split at ends
      · cases ends
      · exact ⟨behind, ends⟩

end Lexeme

theorem Lexeme.mark_not_mem_tokens (lexeme : Lexeme) (notMark : lexeme ≠ .mark) :
    SqlToken.mark ∉ lexeme.tokens := by
  cases lexeme with
  | fixed piece => cases piece <;> simp [tokens, FixedLexeme.tokens]
  | mark => exact absurd rfl notMark
  | name text => exact SqlToken.not_mem_intersperse (by decide) (by simp)
  | number value => by_cases negative : value < 0 <;> simp [tokens, wholeLiteral, negative]

/-- The tokens of a text that is written as lexemes. -/
theorem SqlToken.ofText_eq {written : String} (lexemes : List Lexeme)
    (same : written.toList = lexemes.flatMap Lexeme.characters) (fits : Fits lexemes) :
    ofText written = lexemes.flatMap Lexeme.tokens := by
  obtain ⟨behind, ends⟩ := fits
  have lexed := lex_characters ends
  rw [← same, String.ofList_toList] at lexed
  rw [ofText, lexed]
  rfl

namespace Slot

/-- What stands in the place of a slot once its values are bound. -/
def boundTokens (slot : Slot) : List SqlToken :=
  match slot with
  | .fixed piece => piece.tokens
  | .value bound => (Parameter.value bound).boundTokens
  | .list bound => (Parameter.list bound).boundTokens
  | .column name => (Parameter.identifier name).boundTokens

theorem bind_marks (values : List Value) :
    Query.bind ((Lexeme.marks values.length).flatMap Lexeme.tokens) (values.map Cell.ofValue) =
      some (Parameter.listTokens values) := by
  induction values using Parameter.listTokens.induct with
  | case1 => rfl
  | case2 only => rfl
  | case3 first rest notEmpty inductionHypothesis =>
      obtain ⟨second, others, rfl⟩ := List.exists_cons_of_ne_nil notEmpty
      have marks :
          (Lexeme.marks (first :: second :: others).length).flatMap Lexeme.tokens =
            .mark :: .symbol "," ::
              (Lexeme.marks (second :: others).length).flatMap Lexeme.tokens := rfl
      rw [marks, List.map_cons, Query.bind, Query.bind_cons (by decide), inductionHypothesis]
      rfl

/-- The marks and the values of a slot are in step. -/
theorem bind_lexemes (slot : Slot) :
    Query.bind (slot.lexemes.flatMap Lexeme.tokens) (slot.binds.map Cell.ofValue) =
      some slot.boundTokens := by
  cases slot with
  | fixed piece =>
      have unmarked : SqlToken.mark ∉ piece.tokens :=
        Lexeme.mark_not_mem_tokens (.fixed piece) (by simp)
      simpa [lexemes, Lexeme.tokens, boundTokens, binds] using Query.bind_nil unmarked
  | value bound => rfl
  | list bound => exact bind_marks bound
  | column name =>
      have unmarked : SqlToken.mark ∉ Lexeme.nameTokens name :=
        Lexeme.mark_not_mem_tokens (.name name) (by simp)
      simpa [lexemes, Lexeme.tokens, boundTokens, binds, Parameter.boundTokens] using
        Query.bind_nil unmarked

theorem bind_slots (slots : List Slot) :
    Query.bind ((slots.flatMap lexemes).flatMap Lexeme.tokens)
        ((slots.flatMap binds).map Cell.ofValue) =
      some (slots.flatMap boundTokens) := by
  induction slots with
  | nil => rfl
  | cons head tail inductionHypothesis =>
      rw [List.flatMap_cons, List.flatMap_cons, List.flatMap_cons, List.flatMap_append,
        List.map_append]
      exact Query.bind_append head.bind_lexemes inductionHypothesis

theorem values_fragment (slots : List Slot) :
    (fragment slots).values = slots.flatMap binds := by
  induction slots with
  | nil => rfl
  | cons head tail inductionHypothesis =>
      rw [List.flatMap_cons, ← inductionHypothesis]
      cases head <;> rfl

theorem binds_separate :
    ∀ parts : List (List Slot), (separate parts).flatMap binds = parts.flatMap (List.flatMap binds)
  | [] => rfl
  | [only] => by simp [separate]
  | first :: second :: rest => by
      rw [separate_cons, List.flatMap_append, List.flatMap_append, binds_separate (second :: rest)]
      rfl

/-! ### Placeholders -/

/-- The pieces that stand in front of a placeholder. -/
theorem substitute_flush {pieces : List FixedLexeme} {afterOpen behind : Bool}
    (fits : Lexeme.endsOpen? afterOpen (Lexeme.run pieces) = some behind)
    (rest : List PlaceholderToken) (parameters : List Parameter) :
    Fragment.substitute
        (PlaceholderToken.flush (pieces.flatMap FixedLexeme.characters).reverse ++ rest)
        parameters =
      pieces.flatMap FixedLexeme.tokens ++ Fragment.substitute rest parameters := by
  obtain ⟨last, fitsFirst⟩ := Lexeme.fits_of_endsOpen? fits
  have lexed := SqlToken.lex_characters fitsFirst
  have characters :
      (Lexeme.run pieces).flatMap Lexeme.characters = pieces.flatMap FixedLexeme.characters := by
    rw [Lexeme.run, List.flatMap_map]
    rfl
  have tokens :
      (Lexeme.run pieces).flatMap Lexeme.tokens = pieces.flatMap FixedLexeme.tokens := by
    rw [Lexeme.run, List.flatMap_map]
    rfl
  rw [characters, tokens] at lexed
  cases written : pieces.flatMap FixedLexeme.characters with
  | nil =>
      rw [written] at lexed
      have nothing : pieces.flatMap FixedLexeme.tokens = [] := (Option.some.inj lexed).symm
      rw [nothing]
      rfl
  | cons first others =>
      rw [written] at lexed
      have flushed :
          PlaceholderToken.flush (first :: others).reverse = [.text (first :: others)] := by
        simp [PlaceholderToken.flush]
      rw [flushed, List.singleton_append, Fragment.substitute, SqlToken.ofText, lexed]
      rfl

/-- A placeholder with fixed pieces in front of it. -/
theorem substitute_placeholder {pieces : List FixedLexeme} {afterOpen behind : Bool}
    (fits : Lexeme.endsOpen? afterOpen (Lexeme.run pieces) = some behind) {head : Slot}
    {tail : List Slot} {token : PlaceholderToken} {parameter : Parameter}
    (isPlaceholder : head.parameter? = some parameter)
    (cut : ∀ reversed,
      PlaceholderToken.tokensFrom false reversed (head.template ++ tail.flatMap template) =
        PlaceholderToken.flush reversed ++
          token :: PlaceholderToken.tokensFrom false [] (tail.flatMap template))
    (substituted : ∀ rest parameters,
      Fragment.substitute (token :: rest) (parameter :: parameters) =
        head.boundTokens ++ Fragment.substitute rest parameters)
    (later : Fragment.substitute (PlaceholderToken.tokensFrom false [] (tail.flatMap template))
      (tail.filterMap parameter?) = tail.flatMap boundTokens) :
    Fragment.substitute
        (PlaceholderToken.tokensFrom false (pieces.flatMap FixedLexeme.characters).reverse
          ((head :: tail).flatMap template))
        ((head :: tail).filterMap parameter?) =
      pieces.flatMap FixedLexeme.tokens ++ (head :: tail).flatMap boundTokens := by
  rw [List.flatMap_cons, List.filterMap_cons_some isPlaceholder, cut, substitute_flush fits,
    substituted, List.flatMap_cons, later]

/-- The parameters of slots that fit stand in the places of their placeholders.
`pieces` are those read since the last one. -/
theorem substitute_slots {slots : List Slot} :
    ∀ (pieces : List FixedLexeme) {afterOpen behind : Bool},
      Lexeme.endsOpen? afterOpen (Lexeme.run pieces ++ slots.flatMap lexemes) = some behind →
        Fragment.substitute
            (PlaceholderToken.tokensFrom false (pieces.flatMap FixedLexeme.characters).reverse
              (slots.flatMap template))
            (slots.filterMap parameter?) =
          pieces.flatMap FixedLexeme.tokens ++ slots.flatMap boundTokens := by
  induction slots with
  | nil =>
      intro pieces afterOpen behind fits
      rw [List.flatMap_nil, List.append_nil] at fits
      have flushed := substitute_flush fits [] []
      rw [List.append_nil] at flushed
      rw [List.flatMap_nil, PlaceholderToken.tokensFrom]
      exact flushed
  | cons head tail inductionHypothesis =>
      intro pieces afterOpen behind fits
      rw [List.flatMap_cons, Lexeme.endsOpen?_append] at fits
      obtain ⟨middle, piecesFit, restFits⟩ := Option.bind_eq_some_iff.mp fits
      rw [Lexeme.endsOpen?_append] at restFits
      obtain ⟨last, headFits, tailFits⟩ := Option.bind_eq_some_iff.mp restFits
      cases head with
      | fixed piece =>
          have joined :
              Lexeme.endsOpen? afterOpen (Lexeme.run (pieces ++ [piece]) ++ tail.flatMap lexemes) =
                some behind := by
            have together := Lexeme.endsOpen?_append_of_eq
              (Lexeme.endsOpen?_append_of_eq piecesFit headFits) tailFits
            simpa [Lexeme.run, lexemes] using together
          have later := inductionHypothesis (pieces ++ [piece]) joined
          have noParameter : (fixed piece).parameter? = none := rfl
          rw [List.filterMap_cons_none noParameter, List.flatMap_cons, template,
            PlaceholderToken.tokensFrom_plain _ _ (isPlain_characters piece)]
          simpa [boundTokens] using later
      | value bound =>
          obtain ⟨_, rfl⟩ := endsOpen_of_placeholder headFits rfl
          obtain ⟨notNamed, _⟩ := notNamed_of_isDelimited (isDelimited_template tailFits)
          exact substitute_placeholder piecesFit rfl (PlaceholderToken.tokensFrom_value notNamed)
            (fun _ _ => rfl) (inductionHypothesis [] tailFits)
      | list bound =>
          obtain ⟨_, rfl⟩ := endsOpen_of_placeholder headFits rfl
          obtain ⟨notNamed, _⟩ := notNamed_of_isDelimited (isDelimited_template tailFits)
          exact substitute_placeholder piecesFit rfl (PlaceholderToken.tokensFrom_value notNamed)
            (fun _ _ => rfl) (inductionHypothesis [] tailFits)
      | column name =>
          obtain ⟨_, rfl⟩ := endsOpen_of_placeholder headFits rfl
          obtain ⟨_, ends⟩ := notNamed_of_isDelimited (isDelimited_template tailFits)
          exact substitute_placeholder piecesFit rfl (PlaceholderToken.tokensFrom_identifier ends)
            (fun _ _ => rfl) (inductionHypothesis [] tailFits)

/-- An expression made of slots says what its slots say. -/
theorem boundTokens_fragment {slots : List Slot} (fits : Fits (slots.flatMap lexemes)) :
    (fragment slots).boundTokens = slots.flatMap boundTokens := by
  obtain ⟨behind, ends⟩ := fits
  have substituted := substitute_slots [] ends
  rw [Fragment.boundTokens, PlaceholderToken.tokens, fragment, String.toList_ofList]
  exact substituted

end Slot

/-! ## Pieces -/

/-- Pieces that expand to lexemes whose marks are in step with the values of the
pieces. -/
structure Aligned (pieces : List Piece) (lexemes : List Lexeme) : Prop where
  expands : expandPieces pieces =
    .ok ⟨String.ofList (lexemes.flatMap Lexeme.characters), pieces.flatMap Piece.values⟩
  binds : Query.bind (lexemes.flatMap Lexeme.tokens)
      ((pieces.flatMap Piece.values).map Cell.ofValue) =
    some (pieces.flatMap Piece.boundTokens)

namespace Aligned

theorem nil : Aligned [] [] := ⟨rfl, rfl⟩

theorem append {first second : List Piece} {firstLexemes secondLexemes : List Lexeme}
    (firstAligned : Aligned first firstLexemes) (secondAligned : Aligned second secondLexemes) :
    Aligned (first ++ second) (firstLexemes ++ secondLexemes) := by
  constructor
  · rw [TableSelection.expandPieces_append firstAligned.expands secondAligned.expands,
      List.flatMap_append, List.flatMap_append, String.ofList_append]
    rfl
  · rw [List.flatMap_append, List.flatMap_append, List.flatMap_append, List.map_append]
    exact Query.bind_append firstAligned.binds secondAligned.binds

theorem text {written : String} {lexemes : List Lexeme}
    (same : written.toList = lexemes.flatMap Lexeme.characters) (fits : Fits lexemes)
    (unmarked : Lexeme.mark ∉ lexemes) : Aligned [.text written] lexemes := by
  constructor
  · simp [expandPieces, Piece.expand, Except.bind, Except.map, Statement.append, Statement.empty,
      Piece.values, ← same]
  · have noMarks : SqlToken.mark ∉ lexemes.flatMap Lexeme.tokens := by
      intro found
      obtain ⟨lexeme, member, inTokens⟩ := List.mem_flatMap.mp found
      exact Lexeme.mark_not_mem_tokens lexeme (fun isMark => unmarked (isMark ▸ member)) inTokens
    simpa [Piece.values, Piece.boundTokens, SqlToken.ofText_eq lexemes same fits] using
      Query.bind_nil noMarks

theorem fragment {slots : List Slot} (fits : Fits (slots.flatMap Slot.lexemes)) :
    Aligned [.fragment (Slot.fragment slots)] (slots.flatMap Slot.lexemes) := by
  have spelled := Slot.boundTokens_fragment fits
  obtain ⟨behind, ends⟩ := fits
  constructor
  · simp [expandPieces, Piece.expand, Slot.expand_fragment ends, Except.bind, Except.map,
      Statement.append, Statement.empty, Slot.characters, Piece.values, Slot.values_fragment]
  · simpa [Piece.values, Piece.boundTokens, Slot.values_fragment, spelled] using Slot.bind_slots slots

end Aligned

/-- Pieces that can be the beginning of a statement. -/
def Begins (pieces : List Piece) : Prop := ∃ lexemes, Aligned pieces lexemes ∧ Fits lexemes

/-- Pieces that can stand behind any others. -/
def Continues (pieces : List Piece) : Prop := ∃ lexemes, Aligned pieces lexemes ∧ Follows lexemes

/-- A text that can stand between any pieces. -/
def Divides (written : String) : Prop :=
  ∃ lexemes, Aligned [.text written] lexemes ∧ Separates lexemes

theorem Continues.nil : Continues [] := ⟨[], Aligned.nil, Lexeme.follows_nil⟩

theorem Continues.begins {pieces : List Piece} (continues : Continues pieces) : Begins pieces := by
  obtain ⟨lexemes, aligned, follows⟩ := continues
  exact ⟨lexemes, aligned, follows false⟩

theorem Continues.append {first second : List Piece} (firstContinues : Continues first)
    (secondContinues : Continues second) : Continues (first ++ second) := by
  obtain ⟨firstLexemes, firstAligned, firstFollows⟩ := firstContinues
  obtain ⟨secondLexemes, secondAligned, secondFollows⟩ := secondContinues
  exact ⟨_, firstAligned.append secondAligned, firstFollows.append secondFollows⟩

theorem Begins.append {first second : List Piece} (begins : Begins first)
    (continues : Continues second) : Begins (first ++ second) := by
  obtain ⟨firstLexemes, firstAligned, fits⟩ := begins
  obtain ⟨secondLexemes, secondAligned, follows⟩ := continues
  exact ⟨_, firstAligned.append secondAligned, fits.append follows⟩

/-- What stands behind a separating text can be a beginning. -/
theorem Divides.continues {written : String} (divides : Divides written) {pieces : List Piece}
    (begins : Begins pieces) : Continues (.text written :: pieces) := by
  obtain ⟨firstLexemes, firstAligned, separates⟩ := divides
  obtain ⟨secondLexemes, secondAligned, fits⟩ := begins
  exact ⟨_, firstAligned.append secondAligned, separates.append fits⟩

theorem Divides.of_run {written : String} (pieces : List FixedLexeme)
    (same : written.toList = (Lexeme.run pieces).flatMap Lexeme.characters)
    (separates : Separates (Lexeme.run pieces)) : Divides written := by
  refine ⟨Lexeme.run pieces, Aligned.text same ⟨false, separates false⟩ ?_, separates⟩
  intro member
  obtain ⟨piece, _, isMark⟩ := List.mem_map.mp member
  cases isMark

/-! ### Statements -/

/-- The marks of a statement and its values are in step: bound from left to right,
the values stand in the places of the placeholders. -/
theorem Begins.bind {pieces : List Piece} (begins : Begins pieces) :
    ∃ statement tokens, expandPieces pieces = .ok statement ∧
      SqlToken.lex statement.text = some tokens ∧
        statement.binds = pieces.flatMap Piece.values ∧
          Query.bind tokens (statement.binds.map Cell.ofValue) =
            some (pieces.flatMap Piece.boundTokens) := by
  obtain ⟨lexemes, aligned, behind, ends⟩ := begins
  exact ⟨_, _, aligned.expands, SqlToken.lex_characters ends, rfl, aligned.binds⟩

end TableGraph
