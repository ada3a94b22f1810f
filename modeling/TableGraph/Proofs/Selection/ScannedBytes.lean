import Mathlib.Data.List.Chain
import TableGraph.Proofs.Selection.QuotedMarks
import TableGraph.Proofs.Text.Slice

/-!
# Scanning expressions by bytes

An expression can be cut into tokens by one pass over its bytes: two positions mark the text
since the last placeholder, and what is kept of it is sliced out of the expression.

The main statement, `PlaceholderToken.scan?_exact`, is that all slices are taken at boundaries of
characters and the tokens are those of the expression.  Nothing of the expression is lost, texts
are neither empty nor next to each other, and there is a placeholder for each byte that is a
question mark behind an even number of apostrophes.
-/

namespace TableGraph

open Utf8 (encode)

namespace PlaceholderToken

/-! ## The scanner -/

/-- An ASCII letter, a digit or an underscore. -/
def continuesWordByte (byte : UInt8) : Bool :=
  ('a'.toUInt8 ≤ byte && byte ≤ 'z'.toUInt8) || ('A'.toUInt8 ≤ byte && byte ≤ 'Z'.toUInt8) ||
    ('0'.toUInt8 ≤ byte && byte ≤ '9'.toUInt8) || byte == '_'.toUInt8

/-- The text between two positions as a token, unless there is none. -/
def textBetween? (text : String) (start stop : Nat) : Option (List PlaceholderToken) :=
  if start < stop then (slice? text start stop).map fun part => [.text part.toList] else some []

/-- Whether the question mark in front of a position is that of a name placeholder. -/
def namedAt? (text : String) (position : Nat) : Option Bool :=
  (slice? text position (Cell.bytesOf text).length).map fun behind =>
    ['n', 'a', 'm', 'e'].isPrefixOf behind.toList &&
      !(Cell.bytesOf text)[position + 4]?.any continuesWordByte

/-- Cut a text from a position in bytes on.  `quoted` tells whether the position is inside a
string literal, `start` is the position behind the last placeholder. -/
def scanFrom (text : String) (quoted : Bool) (start position : Nat) :
    Option (List PlaceholderToken) :=
  match _read : (Cell.bytesOf text)[position]? with
  | none => textBetween? text start (Cell.bytesOf text).length
  | some byte =>
    if byte = '\''.toUInt8 then scanFrom text (!quoted) start (position + 1)
    else if byte = '?'.toUInt8 && !quoted then
      (textBetween? text start position).bind fun front =>
        (namedAt? text (position + 1)).bind fun named =>
          if named then
            (scanFrom text false (position + 5) (position + 5)).map fun later =>
              front ++ .identifier :: later
          else
            (scanFrom text false (position + 1) (position + 1)).map fun later =>
              front ++ .value :: later
    else scanFrom text quoted start (position + 1)
  termination_by (Cell.bytesOf text).length - position
  decreasing_by
    all_goals
      have within := (List.getElem?_eq_some_iff.mp _read).1
      omega

/-- The tokens of an expression, absent when a slice would begin or end inside a character. -/
def scan? (expression : String) : Option (List PlaceholderToken) :=
  scanFrom expression false 0 0

/-! ## Single steps -/

section

variable {text : String} {quoted : Bool} {start position : Nat}

theorem scanFrom_end (ended : (Cell.bytesOf text)[position]? = none) :
    scanFrom text quoted start position =
      textBetween? text start (Cell.bytesOf text).length := by
  rw [scanFrom]
  split
  · rfl
  · simp_all

theorem scanFrom_byte {byte : UInt8} (read : (Cell.bytesOf text)[position]? = some byte) :
    scanFrom text quoted start position =
      if byte = '\''.toUInt8 then scanFrom text (!quoted) start (position + 1)
      else if byte = '?'.toUInt8 && !quoted then
        (textBetween? text start position).bind fun front =>
          (namedAt? text (position + 1)).bind fun named =>
            if named then
              (scanFrom text false (position + 5) (position + 5)).map fun later =>
                front ++ .identifier :: later
            else
              (scanFrom text false (position + 1) (position + 1)).map fun later =>
                front ++ .value :: later
      else scanFrom text quoted start (position + 1) := by
  rw [scanFrom]
  split
  · simp_all
  · rename_i found same
    obtain rfl := Option.some.inj (read.symm.trans same)
    rfl

/-- A byte that is neither an apostrophe nor a placeholder is passed over. -/
theorem scanFrom_pass {byte : UInt8} (read : (Cell.bytesOf text)[position]? = some byte)
    (notQuote : byte ≠ '\''.toUInt8) (unmarked : byte = '?'.toUInt8 → quoted = true) :
    scanFrom text quoted start position = scanFrom text quoted start (position + 1) := by
  have noMark : ¬ (decide (byte = '?'.toUInt8) && !quoted) = true := by
    simpa using unmarked
  rw [scanFrom_byte read, if_neg notQuote, if_neg noMark]

theorem scanFrom_quote (read : (Cell.bytesOf text)[position]? = some '\''.toUInt8) :
    scanFrom text quoted start position = scanFrom text (!quoted) start (position + 1) := by
  rw [scanFrom_byte read, if_pos rfl]

theorem scanFrom_mark (read : (Cell.bytesOf text)[position]? = some '?'.toUInt8)
    {front : List PlaceholderToken} (between : textBetween? text start position = some front)
    {named : Bool} (names : namedAt? text (position + 1) = some named) :
    scanFrom text false start position =
      if named then
        (scanFrom text false (position + 5) (position + 5)).map fun later =>
          front ++ .identifier :: later
      else
        (scanFrom text false (position + 1) (position + 1)).map fun later =>
          front ++ .value :: later := by
  rw [scanFrom_byte read, if_neg (by decide), if_pos (by decide), between, names]
  rfl

end

/-! ## Characters -/

theorem continuesWordByte_of_wide {byte : UInt8} (wide : 128 ≤ byte.toNat) :
    continuesWordByte byte = false := by
  have beyond (ascii : Char) (narrow : ascii.toUInt8.toNat < 128) : ¬ byte ≤ ascii.toUInt8 := by
    rw [UInt8.le_iff_toNat_le]
    omega
  have noUnderscore : byte ≠ '_'.toUInt8 := by
    rintro rfl
    exact absurd wide (by decide)
  simp only [continuesWordByte, decide_eq_false (beyond 'z' (by decide)),
    decide_eq_false (beyond 'Z' (by decide)), decide_eq_false (beyond '9' (by decide)),
    beq_eq_false_iff_ne.mpr noUnderscore, Bool.and_false, Bool.or_self]

theorem continuesWord_of_wide {character : Char} (wide : 128 ≤ character.toNat) :
    continuesWord character = false := by
  have code : character.toNat = character.val.toNat := rfl
  have beyond (ascii : Char) (narrow : ascii.val.toNat < 128) :
      ¬ character.val ≤ ascii.val := by
    rw [UInt32.le_iff_toNat_le]
    omega
  have noUnderscore : character ≠ '_' := by
    rintro rfl
    exact absurd wide (by decide)
  have ranges : continuesWord character =
      ((decide (character.val ≥ 'A'.val ∧ character.val ≤ 'Z'.val) ||
        (decide (character.val ≥ 'a'.val) && decide (character.val ≤ 'z'.val))) ||
          (decide (character.val ≥ '0'.val) && decide (character.val ≤ '9'.val)) ||
            character == '_') := rfl
  have noCapital : ¬ (character.val ≥ 'A'.val ∧ character.val ≤ 'Z'.val) := fun within =>
    beyond 'Z' (by decide) within.2
  rw [ranges, decide_eq_false noCapital, decide_eq_false (beyond 'z' (by decide)),
    decide_eq_false (beyond '9' (by decide)), beq_eq_false_iff_ne.mpr noUnderscore]
  simp only [Bool.and_false, Bool.or_self]

theorem continuesWordByte_of_ascii :
    ∀ code < 128, continuesWordByte (Char.ofNat code).toUInt8 = continuesWord (Char.ofNat code) := by
  decide

/-- The first byte of a character continues a word exactly when the character does. -/
theorem any_head?_encode (characters : List Char) :
    (encode characters)[0]?.any continuesWordByte = characters.head?.any continuesWord := by
  cases characters with
  | nil => rfl
  | cons character rest =>
      rw [Utf8.encode_cons, List.head?_cons, Option.any_some]
      by_cases narrow : character.toNat < 128
      · have same := continuesWordByte_of_ascii character.toNat narrow
        rw [Char.ofNat_toNat] at same
        rw [Utf8.utf8EncodeChar_of_ascii narrow]
        exact same
      · have wide := Nat.le_of_not_lt narrow
        cases bytes : String.utf8EncodeChar character with
        | nil => exact absurd bytes String.utf8EncodeChar_ne_nil
        | cons first others =>
            have member : first ∈ String.utf8EncodeChar character := bytes ▸ List.mem_cons_self
            rw [continuesWord_of_wide wide]
            exact continuesWordByte_of_wide (Utf8.le_of_mem_utf8EncodeChar wide first member)

variable {text : String} {quoted : Bool} {start : Nat}

theorem scanFrom_pass_all (part : List UInt8) :
    ∀ position, (∀ offset < part.length,
        (Cell.bytesOf text)[position + offset]? = part[offset]?) →
      (∀ byte ∈ part, byte ≠ '\''.toUInt8 ∧ (byte = '?'.toUInt8 → quoted = true)) →
        scanFrom text quoted start position =
          scanFrom text quoted start (position + part.length) := by
  induction part with
  | nil => exact fun _ _ _ => rfl
  | cons byte rest inductionHypothesis =>
      intro position read passed
      obtain ⟨notQuote, unmarked⟩ := passed byte List.mem_cons_self
      have here : (Cell.bytesOf text)[position]? = some byte := read 0 (Nat.zero_lt_succ _)
      rw [scanFrom_pass here notQuote unmarked, inductionHypothesis (position + 1)]
      · rw [List.length_cons, Nat.add_assoc, Nat.add_comm 1]
      · intro offset within
        have later := read (offset + 1) (Nat.succ_lt_succ within)
        rwa [List.getElem?_cons_succ, ← Nat.add_assoc, Nat.add_right_comm] at later
      · exact fun other member => passed other (List.mem_cons_of_mem byte member)

theorem passed_utf8EncodeChar {character : Char} (notQuote : character ≠ '\'')
    (unmarked : character = '?' → quoted = true) :
    ∀ byte ∈ String.utf8EncodeChar character,
      byte ≠ '\''.toUInt8 ∧ (byte = '?'.toUInt8 → quoted = true) := by
  refine fun byte member => ⟨?_, ?_⟩
  · rintro rfl
    exact notQuote (Utf8.eq_of_mem_utf8EncodeChar (by decide) member)
  · rintro rfl
    exact unmarked (Utf8.eq_of_mem_utf8EncodeChar (by decide) member)

/-- The bytes of a character that is neither an apostrophe nor begins a placeholder are passed
over. -/
theorem scanFrom_character {front behind : List Char} {character : Char}
    (split : text.toList = front ++ character :: behind) (notQuote : character ≠ '\'')
    (unmarked : character = '?' → quoted = true) :
    scanFrom text quoted start (encode front).length =
      scanFrom text quoted start (encode (front ++ [character])).length := by
  have length : (encode (front ++ [character])).length =
      (encode front).length + (String.utf8EncodeChar character).length := by
    simp [Utf8.encode_cons]
  rw [length]
  refine scanFrom_pass_all _ _ (fun offset within => ?_) (passed_utf8EncodeChar notQuote unmarked)
  rw [getElem?_bytesOf split, Utf8.encode_cons, List.getElem?_append_left within]

theorem textBetween?_encode {front middle behind : List Char}
    (split : text.toList = front ++ middle ++ behind) :
    textBetween? text (encode front).length (encode (front ++ middle)).length =
      some (flush middle.reverse) := by
  have sliced := slice?_encode split
  rw [textBetween?, sliced]
  cases middle with
  | nil => simp [flush]
  | cons head tail =>
      have nonempty : 0 < (encode (head :: tail)).length :=
        List.length_pos_iff.mpr fun empty => List.cons_ne_nil _ _ (Utf8.encode_eq_nil_iff.mp empty)
      have ordered : (encode front).length < (encode (front ++ head :: tail)).length := by
        rw [Utf8.encode_append, List.length_append]
        omega
      rw [if_pos ordered]
      simp [flush]

/-- Whether a question mark is that of a name placeholder, told from the characters behind it and
from the fifth of their bytes. -/
theorem isSome_afterName? (behind : List Char) :
    (afterName? behind).isSome =
      (['n', 'a', 'm', 'e'].isPrefixOf behind && !(encode behind)[4]?.any continuesWordByte) := by
  by_cases begins : ['n', 'a', 'm', 'e'] <+: behind
  · obtain ⟨rest, rfl⟩ := begins
    have fifth : (encode (['n', 'a', 'm', 'e'] ++ rest))[4]? = (encode rest)[0]? := rfl
    have word : ['n', 'a', 'm', 'e'] ++ rest = 'n' :: 'a' :: 'm' :: 'e' :: rest := rfl
    rw [fifth, any_head?_encode, List.isPrefixOf_iff_prefix.mpr (List.prefix_append _ _), word,
      afterName?]
    cases rest.head?.any continuesWord <;> rfl
  · have notNamed : afterName? behind = none := by
      unfold afterName?
      split
      · rename_i rest
        exact absurd ⟨rest, rfl⟩ begins
      · rfl
    have noPrefix : ['n', 'a', 'm', 'e'].isPrefixOf behind = false :=
      Bool.eq_false_iff.mpr fun isPrefix => begins (List.isPrefixOf_iff_prefix.mp isPrefix)
    rw [notNamed, noPrefix]
    rfl

theorem namedAt?_encode {front behind : List Char} (split : text.toList = front ++ behind) :
    namedAt? text (encode front).length = some (afterName? behind).isSome := by
  have whole : (Cell.bytesOf text).length = (encode (front ++ behind)).length := by
    rw [← split]
    rfl
  have sliced := slice?_encode (split.trans (List.append_nil _).symm)
  rw [namedAt?, whole, sliced, Option.map_some, String.toList_ofList, getElem?_bytesOf split,
    isSome_afterName?]

/-! ## The tokens of the scanner -/

/-- The byte at which the scanner stands begins what is behind. -/
private theorem read_behind {front behind : List Char} (split : text.toList = front ++ behind) :
    (Cell.bytesOf text)[(encode front).length]? = (encode behind)[0]? :=
  getElem?_bytesOf split 0

/-- The scanner stands where the characters behind `reversed` begin, with the text since the
last placeholder in front of it. -/
theorem scanFrom_tokensFrom (quoted : Bool) (reversed rest : List Char) :
    ∀ front, text.toList = front ++ reversed.reverse ++ rest →
      scanFrom text quoted (encode front).length (encode (front ++ reversed.reverse)).length =
        some (tokensFrom quoted reversed rest) := by
  refine tokensFrom_induction (motive := fun quoted reversed rest tokens =>
    ∀ front, text.toList = front ++ reversed.reverse ++ rest →
      scanFrom text quoted (encode front).length (encode (front ++ reversed.reverse)).length =
        some tokens) ?ended ?quote ?name ?value ?pass quoted reversed rest
  case ended =>
    intro quoted reversed front split
    have whole : (Cell.bytesOf text).length = (encode (front ++ reversed.reverse)).length := by
      rw [List.append_nil] at split
      rw [← split]
      rfl
    rw [scanFrom_end (read_behind split), whole, textBetween?_encode split, List.reverse_reverse]
  case quote =>
    intro quoted reversed rest tokens scanned front split
    have later := scanned front (by simpa using split)
    rw [List.reverse_cons, ← List.append_assoc, Utf8.encode_append, List.length_append] at later
    rw [scanFrom_quote (read_behind split)]
    exact later
  case name =>
    intro reversed behind tokens ends scanned front split
    have named : afterName? ('n' :: 'a' :: 'm' :: 'e' :: behind) = some behind := by
      simp [afterName?, ends]
    have names := namedAt?_encode (split.trans (List.append_cons _ _ _))
    have later := scanned (front ++ reversed.reverse ++ ['?', 'n', 'a', 'm', 'e'])
      (by simpa using split)
    rw [Utf8.encode_append, List.length_append] at names
    rw [List.reverse_nil, List.append_nil, Utf8.encode_append, List.length_append] at later
    rw [scanFrom_mark (read_behind split) (textBetween?_encode split) names, named,
      Option.isSome_some, if_pos rfl, List.reverse_reverse]
    exact congrArg (Option.map _) later
  case value =>
    intro reversed rest tokens notNamed scanned front split
    have names := namedAt?_encode (split.trans (List.append_cons _ _ _))
    have later := scanned (front ++ reversed.reverse ++ ['?']) (by simpa using split)
    rw [Utf8.encode_append, List.length_append] at names
    rw [List.reverse_nil, List.append_nil, Utf8.encode_append, List.length_append] at later
    rw [scanFrom_mark (read_behind split) (textBetween?_encode split) names, notNamed,
      Option.isSome_none, if_neg Bool.false_ne_true, List.reverse_reverse]
    exact congrArg (Option.map _) later
  case pass =>
    intro quoted reversed character rest tokens notQuote unmarked scanned front split
    have later := scanned front (by simpa using split)
    rw [List.reverse_cons, ← List.append_assoc] at later
    rw [scanFrom_character split notQuote unmarked, later]

/-! ## Texts between placeholders -/

/-- Texts are not empty, and of two tokens next to each other one is a placeholder. -/
structure AreSeparated (tokens : List PlaceholderToken) : Prop where
  nonempty : .text [] ∉ tokens
  chain : tokens.IsChain fun first second => first.isPlaceholder ∨ second.isPlaceholder

namespace AreSeparated

theorem flush (reversed : List Char) : AreSeparated (flush reversed) := by
  cases reversed with
  | nil => exact ⟨List.not_mem_nil, List.isChain_nil⟩
  | cons head tail =>
      refine ⟨?_, List.isChain_singleton _⟩
      simp [PlaceholderToken.flush]

/-- A placeholder keeps the text in front of it from what is behind. -/
theorem placeholder {token : PlaceholderToken} (isPlaceholder : token.isPlaceholder)
    {tokens : List PlaceholderToken} (separated : AreSeparated tokens) (reversed : List Char) :
    AreSeparated (PlaceholderToken.flush reversed ++ token :: tokens) := by
  have front := AreSeparated.flush reversed
  have notText : .text [] ≠ token := by
    rintro rfl
    cases isPlaceholder
  refine ⟨?_, ?_⟩
  · simp [front.nonempty, notText, separated.nonempty]
  · refine List.isChain_append.mpr ⟨front.chain, ?_, ?_⟩
    · exact List.isChain_cons.mpr ⟨fun _ _ => Or.inl isPlaceholder, separated.chain⟩
    · intro first _ second member
      obtain rfl := Option.mem_some.mp member
      exact Or.inr isPlaceholder

end AreSeparated

theorem areSeparated_tokensFrom (quoted : Bool) (reversed text : List Char) :
    AreSeparated (tokensFrom quoted reversed text) := by
  refine tokensFrom_induction (motive := fun _ _ _ tokens => AreSeparated tokens)
    ?ended ?quote ?name ?value ?pass quoted reversed text
  case ended => exact fun _ reversed => .flush reversed
  case quote => exact fun _ _ _ _ separated => separated
  case name => exact fun reversed _ _ _ separated => separated.placeholder rfl reversed
  case value => exact fun reversed _ _ _ separated => separated.placeholder rfl reversed
  case pass => exact fun _ _ _ _ _ _ _ separated => separated

/-! ## Placeholders among the bytes -/

/-- The placeholder whose question mark stands in front of some bytes. -/
def placeholderBefore (behind : List UInt8) : PlaceholderToken :=
  if (['n', 'a', 'm', 'e'].map Char.toUInt8).isPrefixOf behind &&
      !behind[4]?.any continuesWordByte then
    .identifier
  else .value

/-- The question marks among bytes for which the bytes in front are as wanted, each with its
position and its placeholder. -/
def placeholdersBehind (wanted : List UInt8 → Bool) (bytes : List UInt8) :
    List (Nat × PlaceholderToken) :=
  (List.range bytes.length).filterMap fun position =>
    if bytes[position]? = some '?'.toUInt8 ∧ wanted (bytes.take position) = true then
      some (position, placeholderBefore (bytes.drop (position + 1)))
    else none

/-- The placeholders among tokens, each with its position in bytes when the first token stands at
a position. -/
def placedFrom (position : Nat) : List PlaceholderToken → List (Nat × PlaceholderToken)
  | [] => []
  | token :: rest =>
    (if token.isPlaceholder then [(position, token)] else []) ++
      placedFrom (position + (encode token.characters).length) rest

/-- Some bytes further behind. -/
def further (count : Nat) : Nat × PlaceholderToken → Nat × PlaceholderToken := Prod.map (· + count) id

/-- Whether a place behind some bytes is in no string literal. -/
def unquotedAfter (quoted : Bool) (front : List UInt8) : Bool :=
  quoted == (front.count '\''.toUInt8 % 2 == 1)

theorem placeholderBefore_encode (behind : List Char) :
    placeholderBefore (encode behind) =
      if (afterName? behind).isSome then .identifier else .value := by
  have word : (['n', 'a', 'm', 'e'].map Char.toUInt8).isPrefixOf (encode behind) =
      ['n', 'a', 'm', 'e'].isPrefixOf behind := by
    rw [Bool.eq_iff_iff, List.isPrefixOf_iff_prefix, List.isPrefixOf_iff_prefix]
    exact Utf8.map_toUInt8_prefix_iff (by simp)
  rw [placeholderBefore, word, isSome_afterName?]

theorem placeholdersBehind_cons (wanted : List UInt8 → Bool) (byte : UInt8) (rest : List UInt8) :
    placeholdersBehind wanted (byte :: rest) =
      (if byte = '?'.toUInt8 ∧ wanted [] = true then [(0, placeholderBefore rest)] else []) ++
        (placeholdersBehind (fun front => wanted (byte :: front)) rest).map (further 1) := by
  have later : ∀ position, (if (byte :: rest)[position + 1]? = some '?'.toUInt8 ∧
        wanted ((byte :: rest).take (position + 1)) = true then
          some (position + 1, placeholderBefore ((byte :: rest).drop (position + 1 + 1)))
        else none) =
      (if rest[position]? = some '?'.toUInt8 ∧ wanted (byte :: rest.take position) = true then
          some (position, placeholderBefore (rest.drop (position + 1)))
        else none).map (further 1) := by
    intro position
    split <;> simp_all [further]
  rw [placeholdersBehind, List.length_cons, List.range_succ_eq_map, List.filterMap_cons,
    List.filterMap_map]
  simp only [Function.comp_def, Nat.succ_eq_add_one, later]
  rw [placeholdersBehind, List.map_filterMap]
  split <;> split <;> simp_all

theorem map_further (placed : List (Nat × PlaceholderToken)) (first second : Nat) :
    (placed.map (further first)).map (further second) = placed.map (further (second + first)) := by
  rw [List.map_map, Nat.add_comm]
  exact List.map_congr_left fun _ _ => Prod.ext (Nat.add_assoc _ _ _) rfl

theorem further_zero (count : Nat) (token : PlaceholderToken) :
    further count (0, token) = (count, token) :=
  Prod.ext (Nat.zero_add count) rfl

theorem unquotedAfter_quote (quoted : Bool) (front : List UInt8) :
    unquotedAfter quoted ('\''.toUInt8 :: front) = unquotedAfter (!quoted) front := by
  rw [unquotedAfter, unquotedAfter, List.count_cons_self]
  rcases Nat.mod_two_eq_zero_or_one (front.count '\''.toUInt8) with even | odd <;>
    cases quoted <;> simp [Nat.add_mod, *]

theorem unquotedAfter_cons {byte : UInt8} (notQuote : byte ≠ '\''.toUInt8) (quoted : Bool)
    (front : List UInt8) : unquotedAfter quoted (byte :: front) = unquotedAfter quoted front := by
  rw [unquotedAfter, List.count_cons_of_ne notQuote, unquotedAfter]

/-- Bytes that are neither apostrophes nor begin placeholders have none among them. -/
theorem placeholdersBehind_pass {quoted : Bool} {part : List UInt8}
    (passed : ∀ byte ∈ part, byte ≠ '\''.toUInt8 ∧ (byte = '?'.toUInt8 → quoted = true))
    (rest : List UInt8) :
    placeholdersBehind (unquotedAfter quoted) (part ++ rest) =
      (placeholdersBehind (unquotedAfter quoted) rest).map (further part.length) := by
  induction part with
  | nil => exact (List.map_id _).symm
  | cons byte later inductionHypothesis =>
      obtain ⟨⟨notQuote, unmarked⟩, laterPassed⟩ := List.forall_mem_cons.mp passed
      have noMark : ¬ (byte = '?'.toUInt8 ∧ unquotedAfter quoted [] = true) := by
        rintro ⟨isMark, unquoted⟩
        simp [unmarked isMark, unquotedAfter] at unquoted
      rw [List.cons_append, placeholdersBehind_cons, if_neg noMark, List.nil_append]
      simp only [unquotedAfter_cons notQuote]
      rw [inductionHypothesis laterPassed, map_further, List.length_cons, Nat.add_comm]

theorem placeholdersBehind_quote (quoted : Bool) (rest : List UInt8) :
    placeholdersBehind (unquotedAfter quoted) ('\''.toUInt8 :: rest) =
      (placeholdersBehind (unquotedAfter (!quoted)) rest).map (further 1) := by
  rw [placeholdersBehind_cons, if_neg fun isMark => absurd isMark.1 (by decide), List.nil_append]
  simp only [unquotedAfter_quote]

theorem placeholdersBehind_mark (rest : List UInt8) :
    placeholdersBehind (unquotedAfter false) ('?'.toUInt8 :: rest) =
      (0, placeholderBefore rest) ::
        (placeholdersBehind (unquotedAfter false) rest).map (further 1) := by
  rw [placeholdersBehind_cons, if_pos (by decide), List.singleton_append]
  simp only [unquotedAfter_cons (by decide : '?'.toUInt8 ≠ '\''.toUInt8)]

theorem placedFrom_flush (position : Nat) (reversed : List Char)
    (rest : List PlaceholderToken) :
    placedFrom position (flush reversed ++ rest) =
      placedFrom (position + (encode reversed.reverse).length) rest := by
  cases reversed with
  | nil => rfl
  | cons head tail => simp [flush, placedFrom, isPlaceholder, characters]

theorem placedFrom_placeholder {token : PlaceholderToken}
    (isPlaceholder : token.isPlaceholder = true) (position : Nat)
    (rest : List PlaceholderToken) :
    placedFrom position (token :: rest) =
      (position, token) :: placedFrom (position + (encode token.characters).length) rest := by
  rw [placedFrom, if_pos isPlaceholder, List.singleton_append]

/-- The placeholders among the tokens of a text are those of its bytes. -/
theorem placedFrom_tokensFrom (quoted : Bool) (reversed text : List Char) :
    ∀ position, placedFrom position (tokensFrom quoted reversed text) =
      (placeholdersBehind (unquotedAfter quoted) (encode text)).map
        (further (position + (encode reversed.reverse).length)) := by
  refine tokensFrom_induction (motive := fun quoted reversed text tokens =>
    ∀ position, placedFrom position tokens =
      (placeholdersBehind (unquotedAfter quoted) (encode text)).map
        (further (position + (encode reversed.reverse).length)))
    ?ended ?quote ?name ?value ?pass quoted reversed text
  case ended =>
    intro quoted reversed position
    rw [← List.append_nil (flush reversed), placedFrom_flush]
    rfl
  case quote =>
    intro quoted reversed rest tokens found position
    have bytes : encode ('\'' :: rest) = '\''.toUInt8 :: encode rest := rfl
    have size : (encode ['\'']).length = 1 := rfl
    rw [found, bytes, placeholdersBehind_quote, map_further, List.reverse_cons,
      Utf8.encode_append, List.length_append, size, Nat.add_assoc]
  case name =>
    intro reversed behind tokens ends found position
    have bytes : encode ('?' :: 'n' :: 'a' :: 'm' :: 'e' :: behind) =
        '?'.toUInt8 :: (['n', 'a', 'm', 'e'].map Char.toUInt8 ++ encode behind) := rfl
    have named : placeholderBefore (['n', 'a', 'm', 'e'].map Char.toUInt8 ++ encode behind) =
        .identifier := by
      have before := placeholderBefore_encode ('n' :: 'a' :: 'm' :: 'e' :: behind)
      rwa [afterName?, ends, if_neg Bool.false_ne_true, Option.isSome_some, if_pos rfl] at before
    have size : (encode PlaceholderToken.identifier.characters).length = 5 := rfl
    have behindName := found (position + (encode reversed.reverse).length + 5)
    rw [List.reverse_nil, Utf8.encode_nil, List.length_nil, Nat.add_zero] at behindName
    rw [placedFrom_flush, placedFrom_placeholder rfl, size, behindName, bytes,
      placeholdersBehind_mark, named, placeholdersBehind_pass (by simp [Char.toUInt8]),
      map_further, List.map_cons, further_zero, map_further]
    rfl
  case value =>
    intro reversed rest tokens notNamed found position
    have bytes : encode ('?' :: rest) = '?'.toUInt8 :: encode rest := rfl
    have valued : placeholderBefore (encode rest) = .value := by
      rw [placeholderBefore_encode, notNamed]
      rfl
    have size : (encode PlaceholderToken.value.characters).length = 1 := rfl
    have behindMark := found (position + (encode reversed.reverse).length + 1)
    rw [List.reverse_nil, Utf8.encode_nil, List.length_nil, Nat.add_zero] at behindMark
    rw [placedFrom_flush, placedFrom_placeholder rfl, size, behindMark, bytes,
      placeholdersBehind_mark, valued, List.map_cons, further_zero, map_further]
  case pass =>
    intro quoted reversed character rest tokens notQuote unmarked found position
    rw [found, Utf8.encode_cons,
      placeholdersBehind_pass (passed_utf8EncodeChar notQuote unmarked), map_further,
      List.reverse_cons, Utf8.encode_append, List.length_append, Nat.add_assoc]
    rw [Utf8.encode_cons, Utf8.encode_nil, List.append_nil]

/-- The scanner slices an expression at boundaries of characters only.  The tokens are the
expression again, with texts that are not empty and apart from each other.  There is a
placeholder for each question mark with an even number of apostrophes in front, which is that of
a name when the word `name` follows and does not go on. -/
theorem scan?_exact (expression : String) :
    scan? expression = some (tokens expression) ∧
      (tokens expression).flatMap characters = expression.toList ∧
        AreSeparated (tokens expression) ∧
          placedFrom 0 (tokens expression) =
            placeholdersBehind (fun front => front.count '\''.toUInt8 % 2 == 0)
              (Cell.bytesOf expression) := by
  refine ⟨scanFrom_tokensFrom false [] expression.toList [] rfl,
    flatMap_tokensFrom false [] expression.toList, areSeparated_tokensFrom _ _ _, ?_⟩
  have even : unquotedAfter false = fun front => front.count '\''.toUInt8 % 2 == 0 := by
    funext front
    rcases Nat.mod_two_eq_zero_or_one (front.count '\''.toUInt8) with even | odd <;>
      simp [unquotedAfter, *]
  have placed := placedFrom_tokensFrom false [] expression.toList 0
  rw [List.reverse_nil, Utf8.encode_nil, List.length_nil, even] at placed
  exact placed.trans (List.map_id _)

/-- A name placeholder at the end, behind a literal with a question mark of its own. -/
example :
    placeholdersBehind (fun front => front.count '\''.toUInt8 % 2 == 0)
        (Cell.bytesOf "'é?' = ?names OR ?name") =
      [(8, .value), (18, .identifier)] := by
  decide

end PlaceholderToken

end TableGraph
