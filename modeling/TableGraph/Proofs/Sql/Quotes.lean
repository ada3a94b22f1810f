import TableGraph.Sql.Token

/-!
# Quotes

SQL knows two kinds of quotes in which a question mark is no parameter mark: those of string
literals and those of names.  `QuoteState` follows them through a text, whatever else the text
holds.

The main statement, `SqlToken.lex_marks`, is that the lexer follows them in the same way: when it
cuts a text without comments and without names in other quotes, all quotes are closed and its
parameter marks are the question marks outside of quotes.
-/

namespace TableGraph

/-! ## Quotes -/

/-- What the characters behind some text stand in: no quotes, a string literal or a quoted
name. -/
inductive QuoteState where
  | outside
  | literal
  | name
  deriving DecidableEq, Repr

namespace QuoteState

/-- Read a character.  A quote of the other kind is part of the text, and a doubled quote closes
and opens again. -/
def step : QuoteState → Char → QuoteState
  | .outside, '\'' => .literal
  | .outside, '"' => .name
  | .literal, '\'' => .outside
  | .name, '"' => .outside
  | state, _ => state

def isLiteral : QuoteState → Bool
  | .outside => false
  | .literal => true
  | .name => false

def after (state : QuoteState) (text : List Char) : QuoteState := text.foldl step state

/-- The number of apostrophes in quoted names. -/
def straysFrom : QuoteState → List Char → Nat
  | _, [] => 0
  | state, character :: rest =>
    (if state = .name ∧ character = '\'' then 1 else 0) + straysFrom (state.step character) rest

def strays (text : List Char) : Nat := straysFrom .outside text

theorem after_cons (state : QuoteState) (character : Char) (rest : List Char) :
    state.after (character :: rest) = (state.step character).after rest := rfl

/-- Only an apostrophe begins or ends a string literal. -/
theorem isLiteral_step {character : Char} (notQuote : character ≠ '\'') (state : QuoteState) :
    (state.step character).isLiteral = state.isLiteral := by
  cases state <;> unfold step <;> split <;> simp_all [isLiteral]

end QuoteState

/-! ## Positions of question marks -/

/-- The positions of the question marks in front of which stands a wanted text. -/
def marksBehind (wanted : List Char → Bool) (text : List Char) : List Nat :=
  (List.range text.length).filter fun position =>
    text[position]? == some '?' && wanted (text.take position)

/-- The question marks that stand in no quotes. -/
def outsideMarks (text : List Char) : List Nat :=
  marksBehind (fun front => QuoteState.outside.after front == .outside) text

theorem mem_marksBehind {wanted : List Char → Bool} {text : List Char} {position : Nat} :
    position ∈ marksBehind wanted text ↔
      text[position]? = some '?' ∧ wanted (text.take position) = true := by
  rw [marksBehind, List.mem_filter, List.mem_range, Bool.and_eq_true, beq_iff_eq]
  refine and_iff_right_of_imp fun found => ?_
  exact (List.getElem?_eq_some_iff.mp found.1).1

theorem marksBehind_cons (wanted : List Char → Bool) (character : Char) (rest : List Char) :
    marksBehind wanted (character :: rest) =
      (if character = '?' ∧ wanted [] = true then [0] else []) ++
        (marksBehind (fun front => wanted (character :: front)) rest).map (· + 1) := by
  have shifted : (List.range rest.length).map Nat.succ = (List.range rest.length).map (· + 1) := rfl
  simp only [marksBehind, List.length_cons, List.range_succ_eq_map, List.filter_cons,
    List.filter_map, shifted]
  by_cases isMark : character = '?' <;> by_cases isWanted : wanted [] = true <;>
    simp [isMark, isWanted, Function.comp_def]

theorem marksBehind_eq_iff {first second : List Char → Bool} {text : List Char} :
    marksBehind first text = marksBehind second text ↔
      ∀ position ∈ marksBehind (fun _ => true) text,
        first (text.take position) = second (text.take position) := by
  constructor
  · intro same position member
    have mark : text[position]? = some '?' := (mem_marksBehind.mp member).1
    have wanted_iff (wanted : List Char → Bool) :
        position ∈ marksBehind wanted text ↔ wanted (text.take position) = true :=
      mem_marksBehind.trans (and_iff_right mark)
    rw [Bool.eq_iff_iff, ← wanted_iff, ← wanted_iff, same]
  · intro same
    refine List.filter_congr fun position _ => ?_
    by_cases mark : text[position]? = some '?'
    · rw [same position (mem_marksBehind.mpr ⟨mark, rfl⟩)]
    · rw [beq_eq_false_iff_ne.mpr mark, Bool.false_and, Bool.false_and]

/-! ## The lexer -/

namespace SqlToken

namespace State

/-- The quotes in which the automaton stands. -/
def quotes : State → QuoteState
  | .quoted closing _ => if closing = '\'' then .literal else .name
  | _ => .outside

/-- A state that texts without comments and without other quotes lead to. -/
def IsPlain : State → Prop
  | .quoted closing _ => closing = '\'' ∨ closing = '"'
  | .closed closing _ => closing = '\'' ∨ closing = '"'
  | .lineComment => False
  | .blockComment _ => False
  | .failed => False
  | _ => True

/-- The character that may begin a comment together with the next one. -/
def pending : State → List Char
  | .symbol first => [first]
  | _ => []

end State

/-- A character that begins no name in other quotes. -/
def IsKept (character : Char) : Prop := character ≠ '[' ∧ character.toNat ≠ 96

/-- Two characters in front begin a comment. -/
def BeginsComment (text : List Char) : Prop := ['-', '-'] <+: text ∨ ['/', '*'] <+: text

theorem BeginsComment.of_prefix {front text : List Char} (begins : BeginsComment front)
    (within : front <+: text) : BeginsComment text :=
  begins.imp (fun line => line.trans within) fun block => block.trans within

/-- A text in which no comment and no name in other quotes begins outside of quotes. -/
def IsSimpleFrom : QuoteState → List Char → Prop
  | _, [] => True
  | place, character :: rest =>
    (place = .outside → IsKept character ∧ ¬ BeginsComment (character :: rest)) ∧
      IsSimpleFrom (place.step character) rest

def IsSimple (text : List Char) : Prop := IsSimpleFrom .outside text

/-- What reading a character yields: it moves between the same quotes, and a mark is completed by
a question mark outside of them. -/
structure Keeps (place : QuoteState) (character : Char) (read : List SqlToken × State) : Prop where
  plain : read.2.IsPlain
  quotes : read.2.quotes = place.step character
  marks : read.1.count .mark = if character = '?' ∧ place = .outside then 1 else 0
  pending : ∀ first ∈ read.2.pending, first = character ∧ place = .outside

/-- A character that is neither a quote nor a question mark. -/
def IsOrdinary (character : Char) : Prop :=
  character ≠ '\'' ∧ character ≠ '"' ∧ character ≠ '?'

theorem step_ordinary {character : Char} (ordinary : IsOrdinary character) (place : QuoteState) :
    place.step character = place := by
  obtain ⟨noQuote, noNameQuote, _⟩ := ordinary
  cases place <;> unfold QuoteState.step <;> split <;> simp_all

/-- An ordinary character leaves the quotes as they are and completes no mark. -/
theorem Keeps.ordinary {character : Char} (ordinary : IsOrdinary character) {place : QuoteState}
    {completed : List SqlToken} {next : State} (plain : next.IsPlain)
    (quotes : next.quotes = place) (unmarked : completed.count .mark = 0)
    (pending : ∀ first ∈ next.pending, first = character ∧ place = .outside) :
    Keeps place character (completed, next) where
  plain := plain
  quotes := quotes.trans (step_ordinary ordinary place).symm
  marks := by rw [if_neg fun both => ordinary.2.2 both.1, unmarked]
  pending := pending

theorem keeps_start {character : Char} (kept : IsKept character)
    (reads : (start character).2 ≠ .failed) : Keeps .outside character (start character) := by
  by_cases ordinary : IsOrdinary character
  · obtain ⟨noQuote, noNameQuote, noMark⟩ := id ordinary
    have starts : start character =
        if isSqlBlank character then ([], .between)
        else if startsWord character then ([], .word [character])
        else if character.isDigit then ([], .number [character])
        else if isSingle character then ([.symbol (String.singleton character)], .between)
        else if startsPair character then ([], .symbol character)
        else ([], .failed) := by
      simp [start, noQuote, noNameQuote, noMark, kept.1, kept.2]
    rw [starts] at reads ⊢
    split
    · exact .ordinary ordinary trivial rfl rfl (List.forall_mem_nil _)
    split
    · exact .ordinary ordinary trivial rfl rfl (List.forall_mem_nil _)
    split
    · exact .ordinary ordinary trivial rfl rfl (List.forall_mem_nil _)
    split
    · exact .ordinary ordinary trivial rfl (by simp) (List.forall_mem_nil _)
    split
    · exact .ordinary ordinary trivial rfl rfl (by simp [State.pending])
    · simp_all
  · have special : character = '\'' ∨ character = '"' ∨ character = '?' := by
      grind [IsOrdinary]
    rcases special with rfl | rfl | rfl
    · exact ⟨Or.inl rfl, rfl, rfl, List.forall_mem_nil _⟩
    · exact ⟨Or.inr rfl, rfl, rfl, List.forall_mem_nil _⟩
    · exact ⟨trivial, rfl, rfl, List.forall_mem_nil _⟩

/-- A character that is read afresh behind tokens that are no marks. -/
theorem keeps_afresh {character : Char} (kept : IsKept character) {completed : List SqlToken}
    (unmarked : completed.count .mark = 0) (reads : (afresh completed character).2 ≠ .failed) :
    Keeps .outside character (afresh completed character) := by
  have starts := keeps_start kept reads
  exact { starts with marks := by simpa [afresh, unmarked] using starts.marks }

theorem quotedToken_ne_mark (closing : Char) (reversed : List Char) :
    quotedToken closing reversed ≠ .mark := by
  unfold quotedToken
  split <;> simp

theorem numberToken?_ne_mark {written : List Char} {token : SqlToken}
    (number : numberToken? written = some token) : token ≠ .mark := by
  obtain ⟨leading, _, complete⟩ := Option.bind_eq_some_iff.mp number
  split at complete
  · rw [← Option.some.inj complete]
    simp
  · cases complete

/-- The second character of a pair is ordinary. -/
theorem isOrdinary_of_pair {first character : Char}
    (joins : pairs.contains (String.ofList [first, character]) = true) :
    IsOrdinary character := by
  have seconds : ∀ pair ∈ pairs, ∀ second ∈ pair.toList.getLast?,
      second ≠ '\'' ∧ second ≠ '"' ∧ second ≠ '?' := by
    simp [pairs]
  exact seconds _ (by simpa using joins) character (by simp)

theorem keeps_step {state : State} {character : Char} (plain : state.IsPlain)
    (kept : state.quotes = .outside → IsKept character)
    (apart : ∀ first ∈ state.pending, ¬ BeginsComment [first, character])
    (reads : (step state character).2 ≠ .failed) :
    Keeps state.quotes character (step state character) := by
  cases state with
  | between => exact keeps_start (kept rfl) reads
  | word reversed =>
      rw [step] at reads ⊢
      split
      · rename_i continues
        have ordinary : IsOrdinary character := by
          refine ⟨?_, ?_, ?_⟩ <;> rintro rfl <;> exact absurd continues (by decide)
        exact .ordinary ordinary trivial rfl rfl (List.forall_mem_nil _)
      split
      · rename_i opens
        obtain ⟨rfl, _⟩ : character = '\'' ∧ _ := by simpa using opens
        exact ⟨Or.inl rfl, rfl, by simp, List.forall_mem_nil _⟩
      · refine keeps_afresh (kept rfl) (by simp) ?_
        simp_all
  | number reversed =>
      rw [step] at reads ⊢
      split
      · rename_i continues
        have ordinary : IsOrdinary character := by
          refine ⟨?_, ?_, ?_⟩ <;> rintro rfl <;> simp at continues
        exact .ordinary ordinary trivial rfl rfl (List.forall_mem_nil _)
      split
      · rename_i token number
        refine keeps_afresh (kept rfl) (by simp [numberToken?_ne_mark number]) ?_
        simp_all
      · simp_all
  | quoted closing reversed =>
      rw [step]
      rcases id plain with rfl | rfl
      all_goals
        split
        · rename_i closes
          subst closes
          exact ⟨plain, rfl, rfl, List.forall_mem_nil _⟩
        · rename_i inside
          exact ⟨plain, by simp [State.quotes, QuoteState.step, inside], by simp [State.quotes],
            List.forall_mem_nil _⟩
  | closed closing reversed =>
      rw [step] at reads ⊢
      rcases id plain with rfl | rfl
      all_goals
        split
        · rename_i doubled
          obtain rfl : character = _ := by simpa using doubled
          exact ⟨plain, rfl, rfl, List.forall_mem_nil _⟩
        · refine keeps_afresh (kept rfl) ?_ ?_
          · simp [quotedToken_ne_mark]
          · simp_all
  | symbol first =>
      have noComment : String.ofList [first, character] ≠ "--" ∧
          String.ofList [first, character] ≠ "/*" := by
        have apart := apart first List.mem_cons_self
        rw [BeginsComment, not_or] at apart
        refine ⟨fun same => apart.1 ?_, fun same => apart.2 ?_⟩
        all_goals
          obtain ⟨rfl, rfl⟩ : first = _ ∧ character = _ := by
            simpa using congrArg String.toList same
          exact List.prefix_refl _
      simp only [step, noComment.1, noComment.2, if_false] at reads ⊢
      split
      · rename_i joins
        exact .ordinary (isOrdinary_of_pair joins) trivial rfl (by simp) (List.forall_mem_nil _)
      · refine keeps_afresh (kept rfl) (by simp) ?_
        simp_all
  | lineComment => exact absurd plain id
  | blockComment => exact absurd plain id
  | failed => exact absurd plain id

theorem lexFrom_failed (text : List Char) : lexFrom .failed text = none := by
  induction text with
  | nil => rfl
  | cons character rest inductionHypothesis =>
      change (lexFrom .failed rest).map _ = none
      rw [inductionHypothesis, Option.map_none]

/-- At the end of a text that is cut, no quotes are open, and what is completed is no mark. -/
theorem finish_closed {state : State} {tokens : List SqlToken}
    (finished : finish state = some tokens) : state.quotes = .outside ∧ tokens.count .mark = 0 := by
  cases state with
  | between | word | symbol | lineComment | blockComment =>
      obtain rfl := Option.some.inj finished
      exact ⟨rfl, by simp⟩
  | number reversed =>
      obtain ⟨token, number, rfl⟩ := Option.map_eq_some_iff.mp finished
      exact ⟨rfl, by simp [numberToken?_ne_mark number]⟩
  | closed closing reversed =>
      obtain rfl := Option.some.inj finished
      exact ⟨rfl, by simp [quotedToken_ne_mark]⟩
  | quoted | failed => cases finished

/-- The lexer follows the quotes of a text, from any state. -/
theorem lexFrom_marks {text : List Char} :
    ∀ {state : State} {tokens : List SqlToken}, state.IsPlain → IsSimpleFrom state.quotes text →
      (∀ first ∈ state.pending, ¬ BeginsComment (first :: text)) →
      lexFrom state text = some tokens →
        state.quotes.after text = .outside ∧
          tokens.count .mark =
            (marksBehind (fun front => state.quotes.after front == .outside) text).length := by
  induction text with
  | nil =>
      intro state tokens _ _ _ finished
      exact finish_closed finished
  | cons character rest inductionHypothesis =>
      intro state tokens plain simple apart cut
      obtain ⟨later, restCut, rfl⟩ :
          ∃ later, lexFrom (step state character).2 rest = some later ∧
            (step state character).1 ++ later = tokens := Option.map_eq_some_iff.mp cut
      have reads : (step state character).2 ≠ .failed := by
        intro failed
        rw [failed, lexFrom_failed] at restCut
        cases restCut
      have keeps := keeps_step plain (fun outside => (simple.1 outside).1)
        (fun first member begins => apart first member (begins.of_prefix (by simp))) reads
      have restApart :
          ∀ first ∈ (step state character).2.pending, ¬ BeginsComment (first :: rest) := by
        intro first member
        obtain ⟨rfl, outside⟩ := keeps.pending first member
        exact (simple.1 outside).2
      obtain ⟨closed, counted⟩ :=
        inductionHypothesis keeps.plain (keeps.quotes ▸ simple.2) restApart restCut
      rw [keeps.quotes] at closed counted
      refine ⟨closed, ?_⟩
      rw [List.count_append, keeps.marks, counted, marksBehind_cons, List.length_append,
        List.length_map]
      congr 1
      by_cases isMark : character = '?' <;> by_cases isOutside : state.quotes = .outside <;>
        simp [QuoteState.after, isMark, isOutside]

/-- Joining blobs keeps the marks. -/
theorem count_mark_joinBlobs {tokens joined : List SqlToken}
    (joins : joinBlobs tokens = some joined) :
    joined.count .mark = tokens.count .mark := by
  induction tokens using joinBlobs.induct generalizing joined with
  | case1 =>
      obtain rfl := Option.some.inj joins
      rfl
  | case2 bytes rest blob isBlob inductionHypothesis =>
      rw [joinBlobs, isBlob] at joins
      obtain ⟨later, restJoins, rfl⟩ := Option.map_eq_some_iff.mp joins
      simp [inductionHypothesis restJoins]
  | case3 bytes rest noBlob =>
      rw [joinBlobs, noBlob] at joins
      cases joins
  | case4 token rest apart inductionHypothesis =>
      rw [joinBlobs.eq_3 _ _ apart] at joins
      obtain ⟨later, restJoins, rfl⟩ := Option.map_eq_some_iff.mp joins
      rw [List.count_cons, List.count_cons, inductionHypothesis restJoins]

/-- In a text without comments and without names in other quotes, the parameter marks that the
lexer sees are the question marks outside of quotes. -/
theorem lex_marks {text : String} {tokens : List SqlToken} (simple : IsSimple text.toList)
    (cut : lex text = some tokens) :
    QuoteState.outside.after text.toList = .outside ∧
      tokens.count .mark = (outsideMarks text.toList).length := by
  obtain ⟨pieces, cutPieces, joins⟩ := Option.bind_eq_some_iff.mp cut
  rw [count_mark_joinBlobs joins]
  have plain : State.between.IsPlain := trivial
  exact lexFrom_marks plain simple (List.forall_mem_nil _) cutPieces

end SqlToken

end TableGraph
