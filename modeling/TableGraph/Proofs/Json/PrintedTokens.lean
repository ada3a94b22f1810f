import Mathlib.Data.List.Forall2
import Mathlib.Data.List.TakeWhile
import TableGraph.Json.Lexer
import TableGraph.Json.Printer
import TableGraph.Proofs.Number.Numeral

/-!
# Tokens of printed documents

The lexer finds in the characters of a printed document the tokens of the document and
nothing else, whatever stands behind it that does not go on with a word
(`IsExact.lexes`).  Quotes, backslashes and control characters are read back from their
escapes one by one, and a printed integer is the word of this integer.
-/

namespace TableGraph.Json

/-! ## Exact documents -/

/-- A document of at most some depth that is printed without loss: it holds no float, and only
integers that stay integers when they are read. -/
inductive IsExact : Nat → Json → Prop where
  | null {depth : Nat} : IsExact depth .null
  | bool {depth : Nat} (value : Bool) : IsExact depth (.bool value)
  | integer {depth : Nat} {value : Int} (lower : -(signedBound : Int) ≤ value)
      (upper : value < unsignedBound) : IsExact depth (.integer value)
  | text {depth : Nat} (value : String) : IsExact depth (.text value)
  | array {depth : Nat} {elements : List Json}
      (exact : ∀ element ∈ elements, IsExact depth element) : IsExact (depth + 1) (.array elements)
  | object {depth : Nat} {fields : List (String × Json)}
      (exact : ∀ field ∈ fields, IsExact depth field.2) : IsExact (depth + 1) (.object fields)

mutual

/-- The tokens of a document. -/
def tokens : Json → List Token
  | .text value => [.text value]
  | .array elements =>
    .openArray :: ([Token.comma].intercalate (elementTokens elements) ++ [.closeArray])
  | .object fields =>
    .openObject :: ([Token.comma].intercalate (fieldTokens fields) ++ [.closeObject])
  | .null => [.scalar .null]
  | .bool value => [.scalar (.bool value)]
  | .integer value => [.scalar (.integer value)]
  | .float value => [.scalar (.float value)]

/-- The tokens of the elements of an array. -/
def elementTokens : List Json → List (List Token)
  | [] => []
  | element :: rest => tokens element :: elementTokens rest

/-- The tokens of the fields of an object, each behind its name. -/
def fieldTokens : List (String × Json) → List (List Token)
  | [] => []
  | (name, value) :: rest => (.text name :: .colon :: tokens value) :: fieldTokens rest

end

theorem elementTokens_eq_map (elements : List Json) :
    elementTokens elements = elements.map tokens := by
  induction elements with
  | nil => rfl
  | cons element rest inductionHypothesis => rw [elementTokens, inductionHypothesis, List.map_cons]

/-- The tokens of a field of an object. -/
def tokensOfField (field : String × Json) : List Token := .text field.1 :: .colon :: tokens field.2

theorem fieldTokens_eq_map (fields : List (String × Json)) :
    fieldTokens fields = fields.map tokensOfField := by
  induction fields with
  | nil => rfl
  | cons field rest inductionHypothesis =>
      rw [fieldTokens, inductionHypothesis, List.map_cons, tokensOfField]

theorem printElements_eq_map (elements : List Json) :
    printElements elements = elements.map print := by
  induction elements with
  | nil => rfl
  | cons element rest inductionHypothesis => rw [printElements, inductionHypothesis, List.map_cons]

theorem printFields_eq_map (fields : List (String × Json)) :
    printFields fields = fields.map fun field => quote field.1 ++ ':' :: print field.2 := by
  induction fields with
  | nil => rfl
  | cons field rest inductionHypothesis => rw [printFields, inductionHypothesis, List.map_cons]

/-! ## Steps of the lexer -/

theorem lexFrom_cons (state : LexState) (character : Char) (rest : List Char) :
    lexFrom state (character :: rest) =
      (lexFrom (lexStep state character).2 rest).map fun later =>
        (lexStep state character).1 ++ later := by
  cases state with
  | failed => cases rest <;> rfl
  | between => rfl
  | word reversed => rfl
  | string reversed => rfl
  | escape reversed => rfl
  | code reversed high owed value => rfl
  | pair reversed high sawBackslash => rfl

theorem lexFrom_of_step {state : LexState} {character : Char} (next : LexState) (rest : List Char)
    (step : lexStep state character = ([], next)) :
    lexFrom state (character :: rest) = lexFrom next rest := by
  rw [lexFrom_cons, step]
  exact Option.map_id'

/-! ## Texts -/

theorem hexValue?_hexDigit {value : Nat} (bound : value < 16) :
    hexValue? (hexDigit value) = some value := by
  have all : ∀ digit : Fin 16, hexValue? (hexDigit digit) = some digit.val := by decide
  exact all ⟨value, bound⟩

/-- The code of a control character is read back. -/
theorem lexFrom_code {character : Char} (control : character.toNat < 32)
    (reversed rest : List Char) :
    lexFrom (.string reversed) ('\\' :: 'u' :: '0' :: '0' :: hexDigit (character.toNat / 16) ::
        hexDigit (character.toNat % 16) :: rest) =
      lexFrom (.string (character :: reversed)) rest := by
  have high : hexValue? (hexDigit (character.toNat / 16)) = some (character.toNat / 16) :=
    hexValue?_hexDigit (by omega)
  have low : hexValue? (hexDigit (character.toNat % 16)) = some (character.toNat % 16) :=
    hexValue?_hexDigit (by omega)
  have value : 16 * (character.toNat / 16) + character.toNat % 16 = character.toNat := by omega
  have finished : finishCode reversed none character.toNat = .string (character :: reversed) := by
    have notHigh : ¬ 0xD800 ≤ character.toNat := by omega
    have notLow : ¬ 0xDC00 ≤ character.toNat := by omega
    simp [finishCode, notHigh, notLow]
  rw [lexFrom_of_step (.escape reversed) _ rfl,
    lexFrom_of_step (.code reversed none 4 0) _ rfl,
    lexFrom_of_step (.code reversed none 3 0) _ rfl,
    lexFrom_of_step (.code reversed none 2 0) _ rfl,
    lexFrom_of_step (.code reversed none 1 (character.toNat / 16)) _ (by simp [lexStep, high]),
    lexFrom_of_step (.string (character :: reversed)) _ (by simp [lexStep, low, value, finished])]

/-- A character of a string is read back from its escape. -/
theorem lexFrom_escapeCharacter (character : Char) (reversed rest : List Char) :
    lexFrom (.string reversed) (escapeCharacter character ++ rest) =
      lexFrom (.string (character :: reversed)) rest := by
  have short (letter : Char) (escaped : shortEscape? letter = some character)
      (notCode : letter ≠ 'u') :
      lexFrom (.string reversed) ('\\' :: letter :: rest) =
        lexFrom (.string (character :: reversed)) rest := by
    rw [lexFrom_of_step (.escape reversed) _ rfl,
      lexFrom_of_step (.string (character :: reversed)) _ (by simp [lexStep, notCode, escaped])]
  by_cases quoteMark : character = '"'
  · subst quoteMark
    exact short '"' rfl (by decide)
  by_cases backslash : character = '\\'
  · subst backslash
    exact short '\\' rfl (by decide)
  by_cases plain : 32 ≤ character.toNat
  · rw [escapeCharacter, if_neg quoteMark, if_neg backslash, if_pos plain, List.singleton_append]
    refine lexFrom_of_step _ rest ?_
    rw [lexStep, if_neg quoteMark, if_neg backslash, if_neg (by omega)]
  have control : character.toNat < 32 := Nat.lt_of_not_le plain
  by_cases lineFeed : character = '\n'
  · subst lineFeed
    exact short 'n' rfl (by decide)
  by_cases carriageReturn : character = '\r'
  · subst carriageReturn
    exact short 'r' rfl (by decide)
  by_cases tab : character = '\t'
  · subst tab
    exact short 't' rfl (by decide)
  rw [escapeCharacter, if_neg quoteMark, if_neg backslash, if_neg plain, if_neg lineFeed,
    if_neg carriageReturn, if_neg tab]
  by_cases backspace : character.toNat = 8
  · rw [if_pos backspace]
    have same : character = Char.ofNat 8 := by rw [← backspace, Char.ofNat_toNat]
    exact short 'b' (congrArg some same.symm) (by decide)
  by_cases formFeed : character.toNat = 12
  · rw [if_neg backspace, if_pos formFeed]
    have same : character = Char.ofNat 12 := by rw [← formFeed, Char.ofNat_toNat]
    exact short 'f' (congrArg some same.symm) (by decide)
  rw [if_neg backspace, if_neg formFeed]
  exact lexFrom_code control reversed rest

theorem lexFrom_flatMap_escapeCharacter (characters reversed rest : List Char) :
    lexFrom (.string reversed) (characters.flatMap escapeCharacter ++ rest) =
      lexFrom (.string (characters.reverse ++ reversed)) rest := by
  induction characters generalizing reversed with
  | nil => rfl
  | cons first others inductionHypothesis =>
      rw [List.flatMap_cons, List.append_assoc, lexFrom_escapeCharacter, inductionHypothesis,
        List.reverse_cons, List.append_assoc, List.singleton_append]

/-! ## What characters are read as -/

/-- Whether characters do not go on with a word that stands in front of them. -/
def EndsWord (rest : List Char) : Prop := ∀ next ∈ rest.head?, isWordStart next = false

/-- Characters that are read as some tokens in front of everything that ends a word. -/
def Lexes (characters : List Char) (found : List Token) : Prop :=
  ∀ rest, EndsWord rest →
    lexFrom .between (characters ++ rest) = (lexFrom .between rest).map fun later => found ++ later

theorem lexes_quote (text : String) : Lexes (quote text) [.text text] := by
  intro rest _
  rw [quote, List.append_assoc, List.append_assoc, List.singleton_append,
    lexFrom_of_step (.string []) _ rfl, lexFrom_flatMap_escapeCharacter,
    List.singleton_append, lexFrom_cons]
  have closed : lexStep (.string (text.toList.reverse ++ [])) '"' = ([.text text], .between) := by
    rw [lexStep, if_pos rfl, List.append_nil, List.reverse_reverse, String.ofList_toList]
  rw [closed]

/-! ## Words -/

theorem ne_of_isWordStart {character other : Char} (start : isWordStart character = true)
    (notStart : isWordStart other = false) : character ≠ other := by
  rintro rfl
  rw [start] at notStart
  cases notStart

theorem lexStart_of_isWordStart {character : Char} (start : isWordStart character = true) :
    lexStart character = ([], .word [character]) := by
  have apart (other : Char) (notStart : isWordStart other = false) : character ≠ other :=
    ne_of_isWordStart start notStart
  have notBlank : isBlank character = false := by
    simp [isBlank, apart ' ' (by decide), apart '\n' (by decide),
      apart '\r' (by decide), apart '\t' (by decide)]
  rw [lexStart, notBlank, if_neg Bool.false_ne_true, if_neg (apart _ (by decide)),
    if_neg (apart _ (by decide)), if_neg (apart _ (by decide)), if_neg (apart _ (by decide)),
    if_neg (apart _ (by decide)), if_neg (apart _ (by decide)), if_neg (apart _ (by decide)),
    if_pos start]

/-- A word goes on up to its end and is then classified. -/
theorem lexFrom_word {characters rest reversed : List Char} {token : Token}
    (isWord : ∀ character ∈ characters, isWordStart character = true) (ends : EndsWord rest)
    (classified : wordToken? (reversed.reverse ++ characters) = some token) :
    lexFrom (.word reversed) (characters ++ rest) =
      (lexFrom .between rest).map fun later => [token] ++ later := by
  induction characters generalizing reversed with
  | nil =>
      rw [List.append_nil] at classified
      cases rest with
      | nil => exact congrArg (Option.map fun token => [token]) classified
      | cons next behind =>
          have step : lexStep (.word reversed) next =
              (token :: (lexStep .between next).1, (lexStep .between next).2) := by
            have notStart : isWordStart next = false := ends next rfl
            simp only [lexStep, notStart, Bool.false_eq_true, if_false, classified]
          rw [List.nil_append, lexFrom_cons, lexFrom_cons, step, Option.map_map]
          rfl
  | cons first others inductionHypothesis =>
      have step : lexStep (.word reversed) first = ([], .word (first :: reversed)) := by
        rw [lexStep, if_pos (isWord first List.mem_cons_self)]
      rw [List.cons_append, lexFrom_of_step _ _ step]
      refine inductionHypothesis (fun character member =>
        isWord character (List.mem_cons_of_mem _ member)) ?_
      rw [List.reverse_cons, List.append_assoc, List.singleton_append]
      exact classified

theorem lexes_word {word : List Char} {token : Token} (nonempty : word ≠ [])
    (isWord : ∀ character ∈ word, isWordStart character = true)
    (classified : wordToken? word = some token) : Lexes word [token] := by
  intro rest ends
  obtain ⟨first, others, rfl⟩ := List.exists_cons_of_ne_nil nonempty
  have start : lexStep .between first = ([], .word [first]) :=
    lexStart_of_isWordStart (isWord first List.mem_cons_self)
  rw [List.cons_append, lexFrom_of_step _ _ start]
  exact lexFrom_word (fun character member => isWord character (List.mem_cons_of_mem _ member)) ends
    classified

/-! ## Numbers -/

theorem isWordStart_of_isDigit {digit : Char} (isDigit : digit.isDigit = true) :
    isWordStart digit = true := by
  simp [isWordStart, Char.isAlphanum, isDigit]

theorem takeWhile_toDigits (value : Nat) :
    (Nat.toDigits 10 value).takeWhile Char.isDigit = Nat.toDigits 10 value :=
  List.takeWhile_eq_self_iff.mpr (areDigits_toDigits value)

theorem dropWhile_toDigits (value : Nat) : (Nat.toDigits 10 value).dropWhile Char.isDigit = [] :=
  List.dropWhile_eq_nil_iff.mpr (areDigits_toDigits value)

/-- A decimal form has no superfluous zero in front. -/
theorem leads_toDigits (value : Nat) :
    (Nat.toDigits 10 value == ['0'] || (!(Nat.toDigits 10 value).isEmpty &&
      (Nat.toDigits 10 value).head? != some '0')) = true := by
  by_cases zero : value = 0
  · rw [zero]
    rfl
  · obtain ⟨first, rest, form, nonzero⟩ := exists_toDigits_eq_cons (Nat.pos_of_ne_zero zero)
    simp [form, nonzero]

theorem number?_natural {value : Nat} (bound : value < unsignedBound) :
    number? (Nat.toDigits 10 value) = some (.integer value) := by
  have unsigned : ∀ rest, Nat.toDigits 10 value = '-' :: rest → False := by
    intro rest form
    have isDigit := areDigits_toDigits value '-' (form ▸ List.mem_cons_self)
    cases isDigit
  rw [number?]
  · simp only [takeWhile_toDigits, dropWhile_toDigits, leads_toDigits, naturalOfDigits_eq,
      Nat.ofDigitChars_ten_toDigits]
    simp [bound]
  · exact unsigned

theorem number?_negative {value : Nat} (positive : 0 < value) (bound : value ≤ signedBound) :
    number? ('-' :: Nat.toDigits 10 value) = some (.integer (-(value : Int))) := by
  have nonzero : value ≠ 0 := Nat.pos_iff_ne_zero.mp positive
  simp only [number?, takeWhile_toDigits, dropWhile_toDigits, leads_toDigits, naturalOfDigits_eq,
    Nat.ofDigitChars_ten_toDigits]
  simp [nonzero, bound]

theorem number?_decimalText {value : Int} (lower : -(signedBound : Int) ≤ value)
    (upper : value < unsignedBound) :
    number? (decimalText value).toList = some (.integer value) := by
  obtain ⟨nonnegative, form⟩ | ⟨negative, form⟩ := decimalText_cases value
  · rw [form, number?_natural (by omega), Int.natAbs_of_nonneg nonnegative]
  · have same : -(value.natAbs : Int) = value := by omega
    rw [form, number?_negative (by omega) (by omega), same]

theorem lexes_integer {value : Int} (lower : -(signedBound : Int) ≤ value)
    (upper : value < unsignedBound) :
    Lexes (decimalText value).toList [.scalar (.integer value)] := by
  -- Digits and a sign are in none of the three literals.
  have noLetter {literal : List Char} (letter : Char) (member : letter ∈ literal)
      (isLetter : ¬ (letter = '-' ∨ letter.isDigit = true)) :
      (decimalText value).toList ≠ literal :=
    fun same => isLetter (mem_decimalText (same ▸ member))
  have classified : wordToken? (decimalText value).toList = some (.scalar (.integer value)) := by
    rw [wordToken?, if_neg (noLetter 'n' (by decide) (by decide)),
      if_neg (noLetter 't' (by decide) (by decide)),
      if_neg (noLetter 'f' (by decide) (by decide)), number?_decimalText lower upper]
    rfl
  refine lexes_word ?_ (fun character member => ?_) classified
  · obtain ⟨_, form⟩ | ⟨_, form⟩ := decimalText_cases value
    · rw [form]
      exact Nat.toDigits_ne_nil
    · rw [form]
      exact List.cons_ne_nil _ _
  · rcases mem_decimalText member with rfl | isDigit
    · rfl
    · exact isWordStart_of_isDigit isDigit

/-! ## Documents -/

theorem lexes_nil : Lexes [] [] := by
  intro rest _
  exact Option.map_id'.symm

theorem lexes_cons_symbol {symbol : Char} {token : Token} {characters : List Char}
    {found : List Token} (isSymbol : lexStart symbol = ([token], .between))
    (behind : Lexes characters found) : Lexes (symbol :: characters) (token :: found) := by
  intro rest ends
  rw [List.cons_append, lexFrom_cons, lexStep, isSymbol, behind rest ends, Option.map_map]
  rfl

theorem isWordStart_of_symbol {symbol : Char} {token : Token}
    (isSymbol : lexStart symbol = ([token], .between)) : isWordStart symbol = false := by
  by_contra start
  rw [lexStart_of_isWordStart (Bool.not_eq_false _ ▸ start)] at isSymbol
  cases isSymbol

/-- A symbol ends what stands in front of it. -/
theorem Lexes.append_symbol {before behind : List Char} {found later : List Token} {symbol : Char}
    {token : Token} (lexes : Lexes before found) (isSymbol : lexStart symbol = ([token], .between))
    (lexesBehind : Lexes behind later) :
    Lexes (before ++ symbol :: behind) (found ++ token :: later) := by
  intro rest ends
  have symbolEnds : EndsWord (symbol :: behind ++ rest) := by
    intro next isNext
    rw [← Option.mem_some.mp isNext]
    exact isWordStart_of_symbol isSymbol
  rw [List.append_assoc, lexes _ symbolEnds, lexes_cons_symbol isSymbol lexesBehind rest ends,
    Option.map_map]
  simp only [Function.comp_def, List.append_assoc]

/-- Parts that commas separate, up to a symbol that closes them. -/
theorem lexes_separated {parts : List (List Char)} {found : List (List Token)} {symbol : Char}
    {token : Token} (each : List.Forall₂ Lexes parts found)
    (isSymbol : lexStart symbol = ([token], .between)) :
    Lexes (separated parts ++ [symbol]) ([Token.comma].intercalate found ++ [token]) := by
  have closed : Lexes [symbol] [token] := lexes_cons_symbol isSymbol lexes_nil
  induction each with
  | nil => exact closed
  | cons lexes others inductionHypothesis =>
      cases others with
      | nil =>
          rw [separated, List.intercalate_singleton]
          exact lexes.append_symbol isSymbol lexes_nil
      | cons second rest =>
          rw [separated, List.intercalate_cons_cons, List.append_assoc, List.append_assoc,
            List.append_assoc]
          · exact lexes.append_symbol rfl inductionHypothesis
          · exact List.cons_ne_nil _ _

/-- The characters of an exact document are read as its tokens. -/
theorem IsExact.lexes {depth : Nat} {document : Json} (exact : IsExact depth document) :
    Lexes (print document) (tokens document) := by
  induction exact with
  | null => exact lexes_word (by decide) (List.all_eq_true.mp rfl) rfl
  | bool value =>
      cases value with
      | false => exact lexes_word (by decide) (List.all_eq_true.mp rfl) rfl
      | true => exact lexes_word (by decide) (List.all_eq_true.mp rfl) rfl
  | integer lower upper => exact lexes_integer lower upper
  | text value => exact lexes_quote value
  | array _ inductionHypothesis =>
      rw [print, tokens, printElements_eq_map, elementTokens_eq_map]
      refine lexes_cons_symbol rfl (lexes_separated ?_ rfl)
      exact List.forall₂_map_left_iff.mpr
        (List.forall₂_map_right_iff.mpr (List.forall₂_same.mpr inductionHypothesis))
  | object _ inductionHypothesis =>
      rw [print, tokens, printFields_eq_map, fieldTokens_eq_map]
      refine lexes_cons_symbol rfl (lexes_separated ?_ rfl)
      refine List.forall₂_map_left_iff.mpr
        (List.forall₂_map_right_iff.mpr (List.forall₂_same.mpr fun field member => ?_))
      exact (lexes_quote field.1).append_symbol rfl (inductionHypothesis field member)

end TableGraph.Json
