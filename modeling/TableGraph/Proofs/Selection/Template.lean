import TableGraph.Proofs.Sql.Lexeme
import TableGraph.Selection.Basic

/-!
# Templates made of slots

The expressions of callers that are not trusted are templates: fixed lexemes, and
placeholders for values, lists of values and names.  Such an expression is a list
of slots, and the main statement, `Slot.expand_fragment`, is that expanding it
writes the lexemes of its slots and binds their values.
-/

namespace TableGraph

def Lexeme.marks : Nat → List Lexeme
  | 0 => [.fixed (.keyword .null)]
  | 1 => [.mark]
  | count + 1 => .mark :: .fixed .comma :: .fixed .blank :: marks count

/-- A piece of a template with what is put into its place. -/
inductive Slot where
  | fixed (piece : FixedLexeme)
  | value (bound : Value)
  | list (bound : List Value)
  | column (name : String)
  deriving DecidableEq, Repr

namespace Slot

def run (pieces : List FixedLexeme) : List Slot := pieces.map .fixed

/-- The slot as it is written in the template. -/
def template : Slot → List Char
  | .fixed piece => piece.characters
  | .value _ => ['?']
  | .list _ => ['?']
  | .column _ => ['?', 'n', 'a', 'm', 'e']

def parameter? : Slot → Option Parameter
  | .fixed _ => none
  | .value bound => some (.value bound)
  | .list bound => some (.list bound)
  | .column name => some (.identifier name)

/-- What is written in place of the slot. -/
def lexemes : Slot → List Lexeme
  | .fixed piece => [.fixed piece]
  | .value _ => [.mark]
  | .list bound => Lexeme.marks bound.length
  | .column name => [.name name]

def binds : Slot → List Value
  | .fixed _ => []
  | .value bound => [bound]
  | .list bound => bound
  | .column _ => []

/-- The expression of some slots, with their parameters. -/
def fragment (slots : List Slot) : Fragment :=
  ⟨String.ofList (slots.flatMap template), slots.filterMap parameter?⟩

def characters (slots : List Slot) : List Char :=
  (slots.flatMap lexemes).flatMap Lexeme.characters

end Slot

/-! ## Cutting templates -/

namespace PlaceholderToken

/-- A character that begins neither a placeholder nor a string literal. -/
def IsPlain (character : Char) : Prop := character ≠ '\'' ∧ character ≠ '?'

theorem tokensFrom_plain {rest : List Char} :
    ∀ (text reversed : List Char), (∀ character ∈ text, IsPlain character) →
      tokensFrom false reversed (text ++ rest) = tokensFrom false (text.reverse ++ reversed) rest
  | [], _, _ => rfl
  | head :: tail, reversed, plain => by
      obtain ⟨noQuote, noMark⟩ := plain head List.mem_cons_self
      have cut :
          tokensFrom false reversed (head :: (tail ++ rest)) =
            tokensFrom false (head :: reversed) (tail ++ rest) := by
        rw [tokensFrom]
        simp [noQuote, noMark]
      rw [List.cons_append, cut,
        tokensFrom_plain tail _ fun character member =>
          plain character (List.mem_cons_of_mem head member)]
      simp

theorem tokensFrom_value {rest : List Char} (notNamed : afterName? rest = none)
    (reversed : List Char) :
    tokensFrom false reversed ('?' :: rest) =
      flush reversed ++ .value :: tokensFrom false [] rest := by
  rw [tokensFrom]
  simp only [Char.reduceEq, if_false, Bool.not_false, Bool.and_true, decide_true, if_true]
  split
  · rename_i named
    rw [notNamed] at named
    cases named
  · rfl

theorem tokensFrom_identifier {rest : List Char} (ends : rest.head?.any continuesWord = false)
    (reversed : List Char) :
    tokensFrom false reversed ('?' :: 'n' :: 'a' :: 'm' :: 'e' :: rest) =
      flush reversed ++ .identifier :: tokensFrom false [] rest := by
  have named : afterName? ('n' :: 'a' :: 'm' :: 'e' :: rest) = some rest := by
    simp [afterName?, ends]
  rw [tokensFrom]
  simp only [Char.reduceEq, if_false, Bool.not_false, Bool.and_true, decide_true, if_true]
  split
  · rename_i behind found
    rw [named, Option.some.injEq] at found
    rw [found]
  · rename_i found
    rw [named] at found
    cases found

end PlaceholderToken

/-! ## Expanding templates -/

/-- A template with its parameters expands to a text, whatever was read before it. -/
def Expands (template : List Char) (parameters : List Parameter) (text : List Char)
    (binds : List Value) : Prop :=
  ∀ position reversed,
    Fragment.place position (PlaceholderToken.tokensFrom false reversed template) parameters =
        .ok ⟨String.ofList (reversed.reverse ++ text), binds⟩ ∧
      (PlaceholderToken.tokensFrom false reversed template).countP PlaceholderToken.isPlaceholder =
        parameters.length

namespace Expands

open PlaceholderToken

variable {template text : List Char} {parameters : List Parameter} {binds : List Value}

/-- The text read so far stands in front of what the rest expands to. -/
private theorem place_flush {position : Nat} {reversed : List Char}
    {rest : List PlaceholderToken}
    (placed : ∀ position, Fragment.place position rest parameters =
      .ok ⟨String.ofList text, binds⟩) :
    Fragment.place position (flush reversed ++ rest) parameters =
      .ok ⟨String.ofList (reversed.reverse ++ text), binds⟩ := by
  cases reversed with
  | nil => exact placed position
  | cons head tail =>
      have flushed : flush (head :: tail) = [.text (head :: tail).reverse] := rfl
      rw [flushed, List.singleton_append, Fragment.place, placed]
      simp only [Except.map, Statement.append, String.ofList_append, List.nil_append]

private theorem countP_flush (reversed : List Char) :
    (flush reversed).countP isPlaceholder = 0 := by
  unfold flush
  split <;> rfl

theorem nil : Expands [] [] [] [] := by
  intro position reversed
  rw [tokensFrom]
  refine ⟨?_, countP_flush reversed⟩
  have placed :
      Fragment.place position (flush reversed ++ []) [] =
        .ok ⟨String.ofList (reversed.reverse ++ []), []⟩ :=
    place_flush fun _ => rfl
  rwa [List.append_nil] at placed

theorem plain (expands : Expands template parameters text binds) {characters : List Char}
    (isPlain : ∀ character ∈ characters, IsPlain character) :
    Expands (characters ++ template) parameters (characters ++ text) binds := by
  intro position reversed
  rw [tokensFrom_plain characters reversed isPlain]
  simpa using expands position (characters.reverse ++ reversed)

theorem value (expands : Expands template parameters text binds) {parameter : Parameter}
    {own : List Char} {ownBinds : List Value} (notNamed : afterName? template = none)
    (placed : Fragment.placed parameter = ⟨String.ofList own, ownBinds⟩) :
    Expands ('?' :: template) (parameter :: parameters) (own ++ text) (ownBinds ++ binds) := by
  intro position reversed
  rw [tokensFrom_value notNamed]
  refine ⟨place_flush fun position => ?_, ?_⟩
  · simp only [Fragment.place, (expands _ []).1, placed, Except.map, Statement.append,
      String.ofList_append, List.reverse_nil, List.nil_append]
  · rw [List.countP_append, countP_flush, List.countP_cons_of_pos rfl, (expands 0 []).2,
      List.length_cons, Nat.zero_add]

theorem identifier (expands : Expands template parameters text binds) (name : String)
    (ends : template.head?.any continuesWord = false) :
    Expands ('?' :: 'n' :: 'a' :: 'm' :: 'e' :: template) (.identifier name :: parameters)
      (Identifier.quote name.toList ++ text) binds := by
  intro position reversed
  rw [tokensFrom_identifier ends]
  refine ⟨place_flush fun position => ?_, ?_⟩
  · simp only [Fragment.place, Fragment.placed, (expands _ []).1, Except.map, Statement.append,
      String.ofList_append, List.reverse_nil, List.nil_append]
  · rw [List.countP_append, countP_flush, List.countP_cons_of_pos rfl, (expands 0 []).2,
      List.length_cons, Nat.zero_add]

theorem expand (expands : Expands template parameters text binds) :
    Fragment.expand ⟨String.ofList template, parameters⟩ = .ok ⟨String.ofList text, binds⟩ := by
  obtain ⟨placed, counted⟩ := expands 0 []
  simp only [Fragment.expand, tokens, String.toList_ofList, counted, ne_eq, not_true_eq_false,
    if_false]
  exact placed

end Expands

/-! ## Expanding slots -/

namespace Slot

theorem marks_eq_characters (count : Nat) :
    (Fragment.marks count).toList = (Lexeme.marks count).flatMap Lexeme.characters := by
  induction count using Fragment.marks.induct with
  | case1 => rfl
  | case2 => rfl
  | case3 count notZero inductionHypothesis =>
      simp [Fragment.marks, Lexeme.marks, inductionHypothesis]
      rfl

/-- Marks end open, and do not fit behind an open lexeme. -/
theorem endsOpen?_marks : ∀ count : Nat,
    Lexeme.endsOpen? false (Lexeme.marks count) = some true ∧
      Lexeme.endsOpen? true (Lexeme.marks count) = none
  | 0 => ⟨rfl, rfl⟩
  | 1 => ⟨rfl, rfl⟩
  | count + 2 => ⟨(endsOpen?_marks (count + 1)).1, rfl⟩

/-- Every placeholder ends open, and does not fit behind an open lexeme. -/
theorem endsOpen?_placeholder {slot : Slot} {parameter : Parameter}
    (isPlaceholder : slot.parameter? = some parameter) :
    Lexeme.endsOpen? false slot.lexemes = some true ∧
      Lexeme.endsOpen? true slot.lexemes = none := by
  cases slot with
  | fixed piece => cases isPlaceholder
  | value bound => exact ⟨rfl, rfl⟩
  | list bound => exact endsOpen?_marks bound.length
  | column name => exact ⟨rfl, rfl⟩

theorem endsOpen_of_placeholder {slot : Slot} {afterOpen behind : Bool} {parameter : Parameter}
    (fits : Lexeme.endsOpen? afterOpen slot.lexemes = some behind)
    (isPlaceholder : slot.parameter? = some parameter) :
    afterOpen = false ∧ behind = true := by
  obtain ⟨behindClosed, behindOpen⟩ := endsOpen?_placeholder isPlaceholder
  cases afterOpen with
  | true =>
      rw [behindOpen] at fits
      cases fits
  | false =>
      rw [behindClosed, Option.some.injEq] at fits
      exact ⟨rfl, fits.symm⟩

/-- What stands behind an open lexeme is delimited in the template, too. -/
theorem isDelimited_template {slots : List Slot} {behind : Bool}
    (fits : Lexeme.endsOpen? true (slots.flatMap lexemes) = some behind) :
    IsDelimited (slots.flatMap template) := by
  cases slots with
  | nil => intro character member; cases member
  | cons head tail =>
      rw [List.flatMap_cons, Lexeme.endsOpen?_append] at fits
      obtain ⟨middle, headFits, _⟩ := Option.bind_eq_some_iff.mp fits
      cases head with
      | fixed piece =>
          have delimits : piece.delimits = true := by
            cases isDelimiting : piece.delimits with
            | true => rfl
            | false => simp [lexemes, Lexeme.endsOpen?, Lexeme.delimits, isDelimiting] at headFits
          exact FixedLexeme.isDelimited_of_delimits delimits _
      | value | list | column =>
          cases (endsOpen_of_placeholder headFits rfl).1

theorem isPlain_characters (piece : FixedLexeme) :
    ∀ character ∈ piece.characters, PlaceholderToken.IsPlain character := by
  cases piece with
  | blank | opening | closing | comma | star =>
      simp [FixedLexeme.characters, PlaceholderToken.IsPlain]
  | keyword word =>
      cases word <;>
        simp [FixedLexeme.characters, Keyword.characters, PlaceholderToken.IsPlain]
  | relation symbol =>
      cases symbol <;>
        simp [FixedLexeme.characters, Comparison.characters, PlaceholderToken.IsPlain]

/-- A delimiter begins neither the word of a name placeholder nor more of it. -/
theorem notNamed_of_isDelimited {text : List Char} (delimited : IsDelimited text) :
    PlaceholderToken.afterName? text = none ∧
      text.head?.any PlaceholderToken.continuesWord = false := by
  cases text with
  | nil => exact ⟨rfl, rfl⟩
  | cons head tail =>
      have apart :
          ∀ other ∈ delimiters, other ≠ 'n' ∧ PlaceholderToken.continuesWord other = false :=
        forall_delimiters.mpr (by decide)
      obtain ⟨notNamed, ends⟩ := apart head (delimited head rfl)
      refine ⟨?_, ends⟩
      unfold PlaceholderToken.afterName?
      split
      · rename_i same
        exact absurd (List.cons.inj same).1 notNamed
      · rfl

theorem characters_cons (head : Slot) (tail : List Slot) :
    characters (head :: tail) = head.lexemes.flatMap Lexeme.characters ++ characters tail := by
  simp [characters]

/-- Slots whose lexemes fit expand to them. -/
theorem expands {slots : List Slot} :
    ∀ {afterOpen behind : Bool},
      Lexeme.endsOpen? afterOpen (slots.flatMap lexemes) = some behind →
        Expands (slots.flatMap template) (slots.filterMap parameter?) (characters slots)
          (slots.flatMap binds) := by
  induction slots with
  | nil => exact fun _ => Expands.nil
  | cons head tail inductionHypothesis =>
      intro afterOpen behind fits
      rw [List.flatMap_cons, Lexeme.endsOpen?_append] at fits
      obtain ⟨middle, headFits, tailFits⟩ := Option.bind_eq_some_iff.mp fits
      have tailExpands := inductionHypothesis tailFits
      rw [List.flatMap_cons, characters_cons]
      cases head with
      | fixed piece =>
          simpa [template, parameter?, lexemes, binds, Lexeme.characters, List.filterMap_cons] using
            tailExpands.plain (isPlain_characters piece)
      | value bound =>
          obtain ⟨_, rfl⟩ := endsOpen_of_placeholder headFits rfl
          obtain ⟨notNamed, _⟩ := notNamed_of_isDelimited (isDelimited_template tailFits)
          exact tailExpands.value notNamed rfl
      | list bound =>
          obtain ⟨_, rfl⟩ := endsOpen_of_placeholder headFits rfl
          obtain ⟨notNamed, _⟩ := notNamed_of_isDelimited (isDelimited_template tailFits)
          refine tailExpands.value notNamed ?_
          rw [Fragment.placed, lexemes, ← marks_eq_characters, String.ofList_toList]
          rfl
      | column name =>
          obtain ⟨_, rfl⟩ := endsOpen_of_placeholder headFits rfl
          obtain ⟨_, ends⟩ := notNamed_of_isDelimited (isDelimited_template tailFits)
          simpa [template, parameter?, lexemes, binds, Lexeme.characters] using
            tailExpands.identifier name ends

/-- The expression of slots that fit expands to their lexemes and binds their
values. -/
theorem expand_fragment {slots : List Slot} {behind : Bool}
    (fits : Lexeme.endsOpen? false (slots.flatMap lexemes) = some behind) :
    (fragment slots).expand = .ok ⟨String.ofList (characters slots), slots.flatMap binds⟩ :=
  (expands fits).expand

end Slot

end TableGraph
