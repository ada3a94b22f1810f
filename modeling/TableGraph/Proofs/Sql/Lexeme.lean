import TableGraph.Selection.Placeholder
import TableGraph.Sql.Expression

/-!
# Lexemes of written statements

A statement is written as lexemes, one behind the other.  A lexeme is one of a few
fixed words and symbols, a number, or a name in quotes, so that nothing but names
can carry text from outside.

The main statement, `lex_characters`, is that the written text is cut into the
tokens of its lexemes, when each lexeme that more text could continue stands in
front of a delimiter.
-/

namespace TableGraph

inductive Keyword where
  | select
  | count
  | source
  | restrict
  | group
  | having
  | order
  | along
  | limit
  | offset
  | ascending
  | descending
  | random
  | both
  | either
  | negation
  | among
  | is
  | null
  | like
  deriving DecidableEq, Repr

def Keyword.characters : Keyword → List Char
  | .select => ['S', 'E', 'L', 'E', 'C', 'T']
  | .count => ['C', 'O', 'U', 'N', 'T']
  | .source => ['F', 'R', 'O', 'M']
  | .restrict => ['W', 'H', 'E', 'R', 'E']
  | .group => ['G', 'R', 'O', 'U', 'P']
  | .having => ['H', 'A', 'V', 'I', 'N', 'G']
  | .order => ['O', 'R', 'D', 'E', 'R']
  | .along => ['B', 'Y']
  | .limit => ['L', 'I', 'M', 'I', 'T']
  | .offset => ['O', 'F', 'F', 'S', 'E', 'T']
  | .ascending => ['A', 'S', 'C']
  | .descending => ['D', 'E', 'S', 'C']
  | .random => ['R', 'A', 'N', 'D', 'O', 'M']
  | .both => ['A', 'N', 'D']
  | .either => ['O', 'R']
  | .negation => ['N', 'O', 'T']
  | .among => ['I', 'N']
  | .is => ['I', 'S']
  | .null => ['N', 'U', 'L', 'L']
  | .like => ['L', 'I', 'K', 'E']

def Comparison.characters : Comparison → List Char
  | .equal => ['=']
  | .notEqual => ['!', '=']
  | .less => ['<']
  | .lessEqual => ['<', '=']
  | .greater => ['>']
  | .greaterEqual => ['>', '=']

/-- A lexeme that is the same in all statements. -/
inductive FixedLexeme where
  | blank
  | opening
  | closing
  | comma
  | star
  | keyword (word : Keyword)
  | relation (symbol : Comparison)
  deriving DecidableEq, Repr

/-- A piece of a written statement. -/
inductive Lexeme where
  | fixed (piece : FixedLexeme)
  /-- A parameter mark. -/
  | mark
  /-- A name whose parts stand between dots, each part in quotes. -/
  | name (text : String)
  | number (value : Int)
  deriving DecidableEq, Repr

namespace FixedLexeme

def characters : FixedLexeme → List Char
  | .blank => [' ']
  | .opening => ['(']
  | .closing => [')']
  | .comma => [',']
  | .star => ['*']
  | .keyword word => word.characters
  | .relation symbol => symbol.characters

def tokens : FixedLexeme → List SqlToken
  | .blank => []
  | .opening => [.symbol "("]
  | .closing => [.symbol ")"]
  | .comma => [.symbol ","]
  | .star => [.symbol "*"]
  | .keyword word => [.word (String.ofList word.characters)]
  | .relation symbol => [.symbol (String.ofList symbol.characters)]

/-- Whether more text could continue a lexeme. -/
def isOpen : FixedLexeme → Bool
  | .keyword _ => true
  | .relation _ => true
  | _ => false

/-- Whether a lexeme ends the one before it. -/
def delimits : FixedLexeme → Bool
  | .blank => true
  | .opening => true
  | .closing => true
  | .comma => true
  | _ => false

end FixedLexeme

namespace Lexeme

def run (pieces : List FixedLexeme) : List Lexeme := pieces.map .fixed

def characters : Lexeme → List Char
  | .fixed piece => piece.characters
  | .mark => ['?']
  | .name text => Identifier.quote text.toList
  | .number value => (decimalText value).toList

def wholeLiteral (digits : List Char) : SqlToken :=
  .literal (LeadingNumeral.toCell ⟨false, ⟨digits, [], 0⟩, true, true⟩)

/-- The parts of a name as quoted names with dots between them. -/
def nameTokens (name : String) : List SqlToken :=
  ((Identifier.parts name.toList).map fun part => SqlToken.name (String.ofList part)).intersperse
    (.symbol ".")

def tokens : Lexeme → List SqlToken
  | .fixed piece => piece.tokens
  | .mark => [.mark]
  | .name text => nameTokens text
  | .number value =>
    (if value < 0 then [.symbol "-"] else []) ++ [wholeLiteral (Nat.toDigits 10 value.natAbs)]

def isOpen : Lexeme → Bool
  | .fixed piece => piece.isOpen
  | _ => true

def delimits : Lexeme → Bool
  | .fixed piece => piece.delimits
  | _ => false

/-- Whether lexemes that stand behind an open lexeme, or not, end with an open one;
absent when an open lexeme is not followed by one that delimits it. -/
def endsOpen? (afterOpen : Bool) : List Lexeme → Option Bool
  | [] => some afterOpen
  | lexeme :: rest =>
    if afterOpen && !lexeme.delimits then none else endsOpen? lexeme.isOpen rest

theorem endsOpen?_append (afterOpen : Bool) (first second : List Lexeme) :
    endsOpen? afterOpen (first ++ second) =
      (endsOpen? afterOpen first).bind fun behind => endsOpen? behind second := by
  induction first generalizing afterOpen with
  | nil => rfl
  | cons head tail inductionHypothesis =>
      simp only [List.cons_append, endsOpen?]
      by_cases clash : (afterOpen && !head.delimits) = true
      · simp [clash]
      · simp [clash, inductionHypothesis]

end Lexeme

/-! ## Parts of names -/

namespace Identifier

theorem parts_ne_nil (name : List Char) : parts name ≠ [] := by
  cases name with
  | nil => simp [parts]
  | cons head tail =>
      simp only [parts]
      split
      · simp
      · split <;> simp

/-- The parts of a name are what stands between its dots: with dots between them they
are the name again. -/
theorem joinParts_parts (name : List Char) : joinParts (parts name) = name := by
  induction name with
  | nil => rfl
  | cons head tail inductionHypothesis =>
      cases tailParts : parts tail with
      | nil => exact absurd tailParts (parts_ne_nil tail)
      | cons first later =>
          rw [tailParts] at inductionHypothesis
          by_cases isDot : head = '.'
          · simp [parts, isDot, tailParts, joinParts, inductionHypothesis]
          · cases later <;> simp_all [parts, joinParts]

theorem dot_not_mem_parts (name : List Char) : ∀ part ∈ parts name, '.' ∉ part := by
  induction name with
  | nil => simp [parts]
  | cons head tail inductionHypothesis =>
      cases tailParts : parts tail with
      | nil => exact absurd tailParts (parts_ne_nil tail)
      | cons first later =>
          rw [tailParts] at inductionHypothesis
          by_cases isDot : head = '.'
          · simpa [parts, isDot, tailParts] using inductionHypothesis
          · have notDot : ¬ '.' = head := fun same => isDot same.symm
            simpa [parts, isDot, notDot, tailParts] using inductionHypothesis

end Identifier

/-! ## Characters that end a token -/

/-- Characters that no open token is continued by. -/
def delimiters : List Char := [' ', '(', ')', ',']

theorem forall_delimiters {property : Char → Prop} :
    (∀ other ∈ delimiters, property other) ↔
      property ' ' ∧ property '(' ∧ property ')' ∧ property ',' := by
  simp [delimiters]

/-- A text that is empty or begins with a delimiter. -/
def IsDelimited (text : List Char) : Prop := ∀ character ∈ text.head?, character ∈ delimiters

theorem FixedLexeme.isDelimited_of_delimits {piece : FixedLexeme} (delimits : piece.delimits = true)
    (rest : List Char) : IsDelimited (piece.characters ++ rest) := by
  intro character member
  cases piece <;>
    simp_all [FixedLexeme.delimits, FixedLexeme.characters, delimiters, eq_comm]

theorem Lexeme.isDelimited_of_delimits {lexeme : Lexeme} (delimits : lexeme.delimits = true)
    (rest : List Char) : IsDelimited (lexeme.characters ++ rest) := by
  cases lexeme with
  | fixed piece => exact FixedLexeme.isDelimited_of_delimits delimits rest
  | mark | name | number => cases delimits

namespace SqlToken

/-- A state whose tokens are complete in front of a delimiter. -/
def Completes (state : State) (completed : List SqlToken) : Prop :=
  finish state = some completed ∧
    ∀ character ∈ delimiters, step state character = afresh completed character

/-- A character that ends a token is read once more behind it. -/
theorem lexFrom_of_afresh {state : State} {completed : List SqlToken} {character : Char}
    (ends : step state character = afresh completed character) (rest : List Char) :
    lexFrom state (character :: rest) =
      (lexFrom .between (character :: rest)).map (completed ++ ·) := by
  have started : step .between character = start character := rfl
  simp only [lexFrom, ends, afresh, started, Option.map_map]
  congr 1
  funext later
  simp

theorem lexFrom_of_completes {state : State} {completed : List SqlToken}
    (completes : Completes state completed) {rest : List Char} (delimited : IsDelimited rest) :
    lexFrom state rest = (lexFrom .between rest).map (completed ++ ·) := by
  cases rest with
  | nil =>
      rw [lexFrom, completes.1]
      simp [lexFrom, finish]
  | cons head tail => exact lexFrom_of_afresh (completes.2 head (delimited head rfl)) tail

theorem lexFrom_silent {state next : State} {character : Char}
    (silent : step state character = ([], next)) (rest : List Char) :
    lexFrom state (character :: rest) = lexFrom next rest := by
  simp [lexFrom, silent]

theorem lexFrom_emit {state : State} {character : Char} {completed : List SqlToken}
    (emits : step state character = (completed, .between)) (rest : List Char) :
    lexFrom state (character :: rest) = (lexFrom .between rest).map (completed ++ ·) := by
  simp [lexFrom, emits]

theorem completes_word (reversed : List Char) :
    Completes (.word reversed) [.word (String.ofList reversed.reverse)] := by
  refine ⟨rfl, fun character delimiter => ?_⟩
  have noWord : ∀ other ∈ delimiters, continuesSqlWord other = false ∧ other ≠ '\'' :=
    forall_delimiters.mpr (by decide)
  simp [step, noWord character delimiter]

theorem completes_number {reversed : List Char} {token : SqlToken}
    (found : numberToken? reversed.reverse = some token) :
    Completes (.number reversed) [token] := by
  refine ⟨by simp [finish, found], fun character delimiter => ?_⟩
  have noNumber :
      ∀ other ∈ delimiters,
        other.isAlphanum = false ∧ other ≠ '.' ∧ other ≠ '+' ∧ other ≠ '-' :=
    forall_delimiters.mpr (by decide)
  simp [step, noNumber character delimiter, found]

/-- A symbol that could begin a pair, but no delimiter makes it one. -/
theorem completes_symbol {first : Char} (isRelation : first ∈ ['=', '<', '>']) :
    Completes (.symbol first) [.symbol (String.singleton first)] := by
  refine ⟨rfl, fun character delimiter => ?_⟩
  have noPair :
      ∀ other ∈ delimiters,
        String.ofList [first, other] ≠ "--" ∧ String.ofList [first, other] ≠ "/*" ∧
          ¬ pairs.contains (String.ofList [first, other]) = true := by
    simp only [List.mem_cons, List.not_mem_nil, or_false] at isRelation
    rcases isRelation with rfl | rfl | rfl <;> exact forall_delimiters.mpr (by decide)
  obtain ⟨notLine, notBlock, notPair⟩ := noPair character delimiter
  simp only [step]
  rw [if_neg notLine, if_neg notBlock, if_neg notPair]

/-! ## Words -/

theorem lexFrom_continued (rest : List Char) :
    ∀ (word reversed : List Char), (∀ character ∈ word, continuesSqlWord character = true) →
      lexFrom (.word reversed) (word ++ rest) = lexFrom (.word (word.reverse ++ reversed)) rest
  | [], _, _ => rfl
  | head :: tail, reversed, continues => by
      have silent : step (.word reversed) head = ([], .word (head :: reversed)) := by
        simp [step, continues head List.mem_cons_self]
      rw [List.cons_append, lexFrom_silent silent,
        lexFrom_continued rest tail _ fun character member =>
          continues character (List.mem_cons_of_mem head member)]
      simp

theorem lexFrom_keyword (keyword : Keyword) {rest : List Char} (delimited : IsDelimited rest) :
    lexFrom .between (keyword.characters ++ rest) =
      (lexFrom .between rest).map ([.word (String.ofList keyword.characters)] ++ ·) := by
  obtain ⟨first, others, spelled, starts, continues⟩ :
      ∃ first others, keyword.characters = first :: others ∧
        step .between first = ([], .word [first]) ∧
          ∀ character ∈ others, continuesSqlWord character = true := by
    cases keyword <;> exact ⟨_, _, rfl, rfl, List.all_eq_true.mp rfl⟩
  have completes := completes_word (others.reverse ++ [first])
  rw [spelled, List.cons_append, lexFrom_silent starts, lexFrom_continued rest others _ continues,
    lexFrom_of_completes completes delimited]
  simp

/-! ## Relations -/

theorem lexFrom_relation (relation : Comparison) {rest : List Char} (delimited : IsDelimited rest) :
    lexFrom .between (relation.characters ++ rest) =
      (lexFrom .between rest).map ([.symbol (String.ofList relation.characters)] ++ ·) := by
  have single :
      ∀ first ∈ ['=', '<', '>'],
        lexFrom .between ([first] ++ rest) =
          (lexFrom .between rest).map ([.symbol (String.singleton first)] ++ ·) := by
    intro first isRelation
    have starts : ∀ other ∈ ['=', '<', '>'], step .between other = ([], .symbol other) := by
      simp [step, start, isSingle, startsPair, isSqlBlank, startsWord]
    rw [List.cons_append, lexFrom_silent (starts first isRelation)]
    exact lexFrom_of_completes (completes_symbol isRelation) delimited
  have pair :
      ∀ first ∈ ['!', '<', '>'],
        lexFrom .between ([first, '='] ++ rest) =
          (lexFrom .between rest).map ([.symbol (String.ofList [first, '='])] ++ ·) := by
    intro first isRelation
    have starts : ∀ other ∈ ['!', '<', '>'], step .between other = ([], .symbol other) := by
      simp [step, start, isSingle, startsPair, isSqlBlank, startsWord]
    have joins :
        ∀ other ∈ ['!', '<', '>'],
          step (.symbol other) '=' = ([.symbol (String.ofList [other, '='])], .between) := by
      intro other member
      simp only [List.mem_cons, List.not_mem_nil, or_false] at member
      rcases member with rfl | rfl | rfl <;> rfl
    rw [List.cons_append, lexFrom_silent (starts first isRelation)]
    exact lexFrom_emit (joins first isRelation) rest
  cases relation with
  | equal => exact single '=' (by decide)
  | less => exact single '<' (by decide)
  | greater => exact single '>' (by decide)
  | notEqual => exact pair '!' (by decide)
  | lessEqual => exact pair '<' (by decide)
  | greaterEqual => exact pair '>' (by decide)

/-! ## Names -/

/-- A character of a name as it stands between quotes. -/
def escaped (character : Char) : List Char :=
  if character = '"' then ['"', '"'] else [character]

theorem lexFrom_escaped (rest : List Char) :
    ∀ (part reversed : List Char),
      lexFrom (.quoted '"' reversed) (part.flatMap escaped ++ '"' :: rest) =
        lexFrom (.closed '"' (part.reverse ++ reversed)) rest
  | [], reversed => lexFrom_silent (by simp [step]) rest
  | head :: tail, reversed => by
      have continued := lexFrom_escaped rest tail (head :: reversed)
      rw [List.flatMap_cons, List.append_assoc, List.reverse_cons, List.append_assoc,
        List.singleton_append, ← continued]
      by_cases isQuote : head = '"'
      · have closes : step (.quoted '"' reversed) '"' = ([], .closed '"' reversed) := by
          simp [step]
        have reopens : step (.closed '"' reversed) '"' = ([], .quoted '"' ('"' :: reversed)) := by
          simp [step]
        rw [escaped, if_pos isQuote, isQuote]
        exact (lexFrom_silent closes _).trans (lexFrom_silent reopens _)
      · have continues : step (.quoted '"' reversed) head = ([], .quoted '"' (head :: reversed)) := by
          simp [step, isQuote]
        rw [escaped, if_neg isQuote]
        exact lexFrom_silent continues _

theorem lexFrom_quotePart (part rest : List Char) :
    lexFrom .between (Identifier.quotePart part ++ rest) =
      lexFrom (.closed '"' part.reverse) rest := by
  have opens : step .between '"' = ([], .quoted '"' []) := by
    simp [step, start, isSqlBlank, startsWord]
  have inside := lexFrom_escaped rest part []
  rw [List.append_nil] at inside
  rw [← inside, Identifier.quotePart, List.append_assoc, List.cons_append, lexFrom_silent opens]
  rfl

/-- A quoted name is complete in front of everything but one more quote. -/
theorem lexFrom_closed {rest : List Char} (apart : rest.head? ≠ some '"') (reversed : List Char) :
    lexFrom (.closed '"' reversed) rest =
      (lexFrom .between rest).map ([.name (String.ofList reversed.reverse)] ++ ·) := by
  cases rest with
  | nil => rfl
  | cons head tail =>
      have noQuote : head ≠ '"' := fun same => apart (congrArg some same)
      have ends : step (.closed '"' reversed) head =
          afresh [.name (String.ofList reversed.reverse)] head := by
        simp [step, noQuote, quotedToken]
      exact lexFrom_of_afresh ends tail

theorem lexFrom_parts {rest : List Char} (apart : rest.head? ≠ some '"') :
    ∀ parts : List (List Char), parts ≠ [] →
      lexFrom .between (Identifier.joinParts (parts.map Identifier.quotePart) ++ rest) =
        (lexFrom .between rest).map
          ((parts.map fun part => SqlToken.name (String.ofList part)).intersperse (.symbol ".") ++ ·)
  | [], nonempty => absurd rfl nonempty
  | [only], _ => by
      have completed := lexFrom_closed apart only.reverse
      rw [List.reverse_reverse] at completed
      exact (lexFrom_quotePart only rest).trans completed
  | first :: second :: others, _ => by
      have later := lexFrom_parts apart (second :: others) (List.cons_ne_nil second others)
      have separates :
          step (.closed '"' first.reverse) '.' =
            ([.name (String.ofList first), .symbol "."], .between) := by
        simp [step, afresh, start, isSqlBlank, startsWord, isSingle, quotedToken]
      have split :
          Identifier.joinParts ((first :: second :: others).map Identifier.quotePart) ++ rest =
            Identifier.quotePart first ++
              '.' :: (Identifier.joinParts ((second :: others).map Identifier.quotePart) ++ rest) := by
        simp [Identifier.joinParts]
      rw [split, lexFrom_quotePart, lexFrom_emit separates, later, Option.map_map]
      rfl

/-! ## Numbers -/

theorem lexFrom_digits (rest : List Char) :
    ∀ (digits reversed : List Char), (∀ digit ∈ digits, digit.isDigit = true) →
      lexFrom (.number reversed) (digits ++ rest) =
        lexFrom (.number (digits.reverse ++ reversed)) rest
  | [], _, _ => rfl
  | head :: tail, reversed, areDigits => by
      have continues : step (.number reversed) head = ([], .number (head :: reversed)) := by
        simp [step, Char.isAlphanum, areDigits head List.mem_cons_self]
      rw [List.cons_append, lexFrom_silent continues,
        lexFrom_digits rest tail _ fun digit member =>
          areDigits digit (List.mem_cons_of_mem head member)]
      simp

/-- A digit is neither a blank nor a sign, nor does it begin a word. -/
theorem apart_of_isDigit {digit : Char} (isDigit : digit.isDigit = true) :
    isSqlBlank digit = false ∧ startsWord digit = false ∧ digit ≠ '-' ∧ digit ≠ '+' := by
  obtain ⟨low, high⟩ : 48 ≤ digit.toNat ∧ digit.toNat ≤ 57 := Char.isDigit_iff_toNat.mp isDigit
  have ne : ∀ other : Char, (other.toNat < 48 ∨ 57 < other.toNat) → digit ≠ other := by
    intro other outside same
    rw [same] at low high
    omega
  have noLetter : ¬ digit.isAlpha = true := by
    intro letter
    rcases Bool.or_eq_true_iff.mp letter with upper | lower
    · have range : digit.val ≥ 'A'.val ∧ digit.val ≤ 'Z'.val := of_decide_eq_true upper
      have least : 65 ≤ digit.toNat := UInt32.le_iff_toNat_le.mp range.1
      omega
    · have first : digit.val ≥ 'a'.val := of_decide_eq_true (Bool.and_eq_true_iff.mp lower).1
      have least : 97 ≤ digit.toNat := UInt32.le_iff_toNat_le.mp first
      omega
  refine ⟨?_, ?_, ne '-' (by decide), ne '+' (by decide)⟩
  · have code : digit.toNat = digit.val.toNat := rfl
    simp only [isSqlBlank, beq_eq_false_iff_ne.mpr (ne ' ' (by decide)), Bool.false_or]
    simp
    omega
  · simp only [startsWord, beq_eq_false_iff_ne.mpr (ne '_' (by decide)),
      Bool.eq_false_iff.mpr noLetter, Bool.false_or, decide_eq_false_iff_not]
    omega

theorem numberToken?_digits {digits : List Char} (nonempty : digits ≠ [])
    (areDigits : ∀ digit ∈ digits, digit.isDigit = true) :
    numberToken? digits = some (Lexeme.wholeLiteral digits) := by
  cases digits with
  | nil => exact absurd rfl nonempty
  | cons first others =>
      obtain ⟨noBlank, _, noMinus, noPlus⟩ := apart_of_isDigit (areDigits first List.mem_cons_self)
      have unsigned : splitSign (first :: others) = (false, first :: others) := by
        unfold splitSign
        split <;> simp_all
      have whole :
          (first :: others ++ []).takeWhile Char.isDigit = first :: others ++ [] :=
        List.takeWhile_append_of_pos areDigits
      have behind : (first :: others ++ []).dropWhile Char.isDigit = [] :=
        List.dropWhile_append_of_pos areDigits
      rw [List.append_nil] at whole behind
      have started : (first :: others).dropWhile isSqlBlank = first :: others := by
        simp [noBlank]
      simp [numberToken?, LeadingNumeral.ofText?, started, unsigned, whole, behind,
        LeadingNumeral.splitExponent, Lexeme.wholeLiteral]

/-- A minus in front of a digit is a symbol of its own. -/
theorem step_minus_digit {digit : Char} (isDigit : digit.isDigit = true) :
    step (.symbol '-') digit = afresh [.symbol "-"] digit := by
  obtain ⟨_, _, noMinus, _⟩ := apart_of_isDigit isDigit
  have notLine : String.ofList ['-', digit] ≠ "--" := by
    intro same
    have characters := congrArg String.toList same
    simp [noMinus] at characters
  have notBlock : String.ofList ['-', digit] ≠ "/*" := by
    intro same
    have characters := congrArg String.toList same
    simp at characters
  have notPair : ¬ pairs.contains (String.ofList ['-', digit]) = true := by
    intro isPair
    have first : ∀ pair ∈ pairs, pair.toList.head? ≠ some '-' := by simp [pairs]
    exact first _ (List.contains_iff_mem.mp isPair) (by simp)
  simp only [step]
  rw [if_neg notLine, if_neg notBlock, if_neg notPair]
  rfl

theorem lexFrom_wholeLiteral {digits rest : List Char} (nonempty : digits ≠ [])
    (areDigits : ∀ digit ∈ digits, digit.isDigit = true) (delimited : IsDelimited rest) :
    lexFrom .between (digits ++ rest) =
      (lexFrom .between rest).map ([Lexeme.wholeLiteral digits] ++ ·) := by
  have found := numberToken?_digits nonempty areDigits
  cases digits with
  | nil => exact absurd rfl nonempty
  | cons first others =>
      have isDigit := areDigits first List.mem_cons_self
      obtain ⟨noBlank, noWord, _, _⟩ := apart_of_isDigit isDigit
      have starts : step .between first = ([], .number [first]) := by
        simp [step, start, noBlank, noWord, isDigit]
      have completes : Completes (.number (others.reverse ++ [first]))
          [Lexeme.wholeLiteral (first :: others)] :=
        completes_number (by simpa using found)
      rw [List.cons_append, lexFrom_silent starts,
        lexFrom_digits rest others _ fun digit member =>
          areDigits digit (List.mem_cons_of_mem first member)]
      exact lexFrom_of_completes completes delimited

theorem lexFrom_number (value : Int) {rest : List Char} (delimited : IsDelimited rest) :
    lexFrom .between ((decimalText value).toList ++ rest) =
      (lexFrom .between rest).map ((Lexeme.number value).tokens ++ ·) := by
  have areDigits : ∀ digit ∈ Nat.toDigits 10 value.natAbs, digit.isDigit = true :=
    fun digit member => Nat.isDigit_of_mem_toDigits (by decide) (by decide) member
  have whole := lexFrom_wholeLiteral Nat.toDigits_ne_nil areDigits delimited
  by_cases negative : value < 0
  · simp only [decimalText, negative, if_true, String.toList_ofList, Lexeme.tokens]
    have starts : step .between '-' = ([], .symbol '-') := by
      simp [step, start, isSingle, startsPair, isSqlBlank, startsWord]
    cases digits : Nat.toDigits 10 value.natAbs with
    | nil => exact absurd digits Nat.toDigits_ne_nil
    | cons first others =>
        rw [digits] at whole areDigits
        have minus := lexFrom_of_afresh (step_minus_digit (areDigits first List.mem_cons_self))
          (others ++ rest)
        rw [List.append_assoc, List.singleton_append, lexFrom_silent starts, List.cons_append, minus]
        rw [List.cons_append] at whole
        rw [whole, Option.map_map]
        rfl
  · simpa [decimalText, negative, Lexeme.tokens] using whole

/-! ## Lexemes -/

theorem lexFrom_fixed (piece : FixedLexeme) {rest : List Char}
    (delimited : piece.isOpen = true → IsDelimited rest) :
    lexFrom .between (piece.characters ++ rest) =
      (lexFrom .between rest).map (piece.tokens ++ ·) := by
  cases piece with
  | blank => exact lexFrom_emit rfl rest
  | opening | closing | comma | star =>
      exact lexFrom_emit (by simp [step, start, isSingle, isSqlBlank, startsWord]; rfl) rest
  | keyword word => exact lexFrom_keyword word (delimited rfl)
  | relation symbol => exact lexFrom_relation symbol (delimited rfl)

/-- A lexeme is cut into its tokens, in front of a delimiter when it is open. -/
theorem lexFrom_lexeme (lexeme : Lexeme) {rest : List Char}
    (delimited : lexeme.isOpen = true → IsDelimited rest) :
    lexFrom .between (lexeme.characters ++ rest) =
      (lexFrom .between rest).map (lexeme.tokens ++ ·) := by
  cases lexeme with
  | fixed piece => exact lexFrom_fixed piece delimited
  | mark => exact lexFrom_emit (by simp [step, start, isSqlBlank, startsWord]; rfl) rest
  | name text =>
      have apart : rest.head? ≠ some '"' := fun isQuote =>
        absurd (delimited rfl '"' isQuote) (by decide)
      exact lexFrom_parts apart _ (Identifier.parts_ne_nil text.toList)
  | number value => exact lexFrom_number value (delimited rfl)

/-! ## Statements -/

theorem isDelimited_of_endsOpen? {rest : List Char} :
    ∀ {lexemes : List Lexeme} {behind : Bool}, Lexeme.endsOpen? true lexemes = some behind →
      (behind = true → IsDelimited rest) → IsDelimited (lexemes.flatMap Lexeme.characters ++ rest)
  | [], behind, fits, delimited => by
      simp only [Lexeme.endsOpen?, Option.some.injEq] at fits
      exact delimited fits.symm
  | head :: tail, behind, fits, delimited => by
      have delimits : head.delimits = true := by
        cases isDelimiting : head.delimits with
        | true => rfl
        | false => simp [Lexeme.endsOpen?, isDelimiting] at fits
      rw [List.flatMap_cons, List.append_assoc]
      exact Lexeme.isDelimited_of_delimits delimits _

theorem lexFrom_characters {rest : List Char} :
    ∀ {lexemes : List Lexeme} {afterOpen behind : Bool},
      Lexeme.endsOpen? afterOpen lexemes = some behind → (behind = true → IsDelimited rest) →
        lexFrom .between (lexemes.flatMap Lexeme.characters ++ rest) =
          (lexFrom .between rest).map (lexemes.flatMap Lexeme.tokens ++ ·)
  | [], _, _, _, _ => by simp
  | head :: tail, afterOpen, behind, fits, delimited => by
      have tailFits : Lexeme.endsOpen? head.isOpen tail = some behind := by
        rw [Lexeme.endsOpen?] at fits
        split at fits
        · cases fits
        · exact fits
      have headDelimited :
          head.isOpen = true → IsDelimited (tail.flatMap Lexeme.characters ++ rest) := by
        intro isOpen
        rw [isOpen] at tailFits
        exact isDelimited_of_endsOpen? tailFits delimited
      rw [List.flatMap_cons, List.append_assoc, lexFrom_lexeme head headDelimited,
        lexFrom_characters tailFits delimited, Option.map_map]
      congr 1
      funext later
      simp

/-- Tokens without the mark of a blob stay as they are, whatever stands behind them. -/
theorem joinBlobs_append (rest : List SqlToken) :
    ∀ {tokens : List SqlToken}, SqlToken.symbol "x" ∉ tokens →
      joinBlobs (tokens ++ rest) = (joinBlobs rest).map (tokens ++ ·)
  | [], _ => by simp
  | head :: tail, noMark => by
      have tailSame := joinBlobs_append rest fun member => noMark (List.mem_cons_of_mem head member)
      rw [List.cons_append]
      conv =>
        lhs
        unfold joinBlobs
      split
      · contradiction
      · rename_i isMark
        have head_eq : head = .symbol "x" := by injection isMark
        exact absurd (by rw [head_eq]; exact List.mem_cons_self) noMark
      · rename_i same
        obtain ⟨rfl, rfl⟩ := List.cons.inj same
        rw [tailSame, Option.map_map]
        rfl

theorem joinBlobs_eq_self {tokens : List SqlToken} (noMark : SqlToken.symbol "x" ∉ tokens) :
    joinBlobs tokens = some tokens := by
  have joined := joinBlobs_append [] noMark
  rwa [List.append_nil, joinBlobs, Option.map_some, List.append_nil] at joined

theorem not_mem_intersperse {token separator : SqlToken} (other : token ≠ separator) :
    ∀ {tokens : List SqlToken}, token ∉ tokens → token ∉ tokens.intersperse separator
  | [], absent => absent
  | [only], absent => absent
  | first :: second :: rest, absent => by
      have later := not_mem_intersperse other fun member => absent (List.mem_cons_of_mem first member)
      intro member
      rcases List.mem_cons.mp member with rfl | behind
      · exact absent List.mem_cons_self
      · rcases List.mem_cons.mp behind with rfl | last
        · exact other rfl
        · exact later last

/-- No lexeme is taken for the mark of a blob. -/
theorem not_mem_tokens (lexeme : Lexeme) : SqlToken.symbol "x" ∉ lexeme.tokens := by
  cases lexeme with
  | fixed piece =>
      cases piece with
      | blank | opening | closing | comma | star => simp [Lexeme.tokens, FixedLexeme.tokens]
      | keyword word => simp [Lexeme.tokens, FixedLexeme.tokens]
      | relation symbol => cases symbol <;> decide
  | mark => simp [Lexeme.tokens]
  | name text => exact not_mem_intersperse (by decide) (by simp)
  | number value =>
      by_cases negative : value < 0 <;> simp [Lexeme.tokens, Lexeme.wholeLiteral, negative]

/-- The text of lexemes that fit is cut into their tokens. -/
theorem lex_characters {lexemes : List Lexeme} {behind : Bool}
    (fits : Lexeme.endsOpen? false lexemes = some behind) :
    lex (String.ofList (lexemes.flatMap Lexeme.characters)) =
      some (lexemes.flatMap Lexeme.tokens) := by
  have atEnd : behind = true → IsDelimited [] := fun _ character member => by cases member
  have scanned := lexFrom_characters fits atEnd
  have noMark : SqlToken.symbol "x" ∉ lexemes.flatMap Lexeme.tokens := by
    intro member
    obtain ⟨lexeme, _, found⟩ := List.mem_flatMap.mp member
    exact not_mem_tokens lexeme found
  rw [List.append_nil] at scanned
  rw [lex, String.toList_ofList, scanned]
  simpa [lexFrom, finish] using joinBlobs_eq_self noMark

end SqlToken

end TableGraph
