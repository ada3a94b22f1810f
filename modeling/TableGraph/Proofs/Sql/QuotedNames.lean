import Mathlib.Data.List.Basic
import TableGraph.Proofs.Sql.Lexeme

/-!
# Quoted names

A name is written as double-quoted identifiers with dots between them, a quote inside of one
being doubled.  Whatever the name holds, the identifiers that are read off the front of a text
that begins with it end where it ends, and dropping their quotes gives the name again.

The main statement is `Identifier.quoted_read`: in front of any text that could not go on with
the last identifier, a quoted name is read as its identifiers and nothing else, by a reader of
identifiers and by the lexer of SQL alike.
-/

namespace TableGraph

namespace Identifier

/-- A name as it is written into a statement. -/
def quoted (name : String) : String := String.ofList (quote name.toList)

/-! ## Reading identifiers -/

/-- Read behind an opening quote up to the quote that closes it, the first that is not doubled.
What is read and the rest are given as they are written. -/
def readInside? : List Char → Option (List Char × List Char)
  | [] => none
  | character :: rest =>
    if character = '"' then
      match rest with
      | '"' :: behind => (readInside? behind).map fun read => ('"' :: '"' :: read.1, read.2)
      | _ => some (['"'], rest)
    else (readInside? rest).map fun read => (character :: read.1, read.2)

/-- Read a double-quoted identifier. -/
def readIdentifier? : List Char → Option (List Char × List Char)
  | [] => none
  | character :: rest =>
    if character = '"' then (readInside? rest).map fun read => ('"' :: read.1, read.2) else none

theorem append_of_readInside? {text inside behind : List Char}
    (read : readInside? text = some (inside, behind)) : inside ++ behind = text := by
  fun_induction readInside? text generalizing inside behind with
  | case1 => cases read
  | case2 later inductionHypothesis =>
      obtain ⟨⟨first, last⟩, found, same⟩ := Option.map_eq_some_iff.mp read
      obtain ⟨rfl, rfl⟩ := Prod.mk.inj same
      simp [inductionHypothesis found]
  | case3 rest notDoubled =>
      obtain ⟨rfl, rfl⟩ := Prod.mk.inj (Option.some.inj read)
      rfl
  | case4 character rest notQuote inductionHypothesis =>
      obtain ⟨⟨first, last⟩, found, same⟩ := Option.map_eq_some_iff.mp read
      obtain ⟨rfl, rfl⟩ := Prod.mk.inj same
      simp [inductionHypothesis found]

/-- What was read of a text and the rest are the text. -/
theorem append_of_readIdentifier? {text identifier behind : List Char}
    (read : readIdentifier? text = some (identifier, behind)) :
    identifier ++ behind = text ∧ identifier ≠ [] := by
  unfold readIdentifier? at read
  split at read
  · cases read
  split at read
  · rename_i isQuote
    obtain ⟨⟨inside, last⟩, found, same⟩ := Option.map_eq_some_iff.mp read
    obtain ⟨rfl, rfl⟩ := Prod.mk.inj same
    simp [isQuote, append_of_readInside? found]
  · cases read

/-- Read double-quoted identifiers as long as dots stand between them. -/
def readIdentifiers? (text : List Char) : Option (List (List Char) × List Char) :=
  match _read : readIdentifier? text with
  | none => none
  | some (first, '.' :: behind) =>
    (readIdentifiers? behind).map fun later => (first :: later.1, later.2)
  | some (first, behind) => some ([first], behind)
  termination_by text.length
  decreasing_by
    obtain ⟨rfl, _⟩ := append_of_readIdentifier? _read
    simp only [List.length_append, List.length_cons]
    omega

/-! ## Dropping quotes -/

/-- One quote for each two. -/
def halve : List Char → List Char
  | first :: second :: rest =>
    if first = '"' ∧ second = '"' then '"' :: halve rest else first :: halve (second :: rest)
  | [only] => [only]
  | [] => []

/-- What stands between the quotes of an identifier, with one quote for each two. -/
def unquote (identifier : List Char) : List Char := halve identifier.tail.dropLast

theorem halve_cons {character : Char} (notQuote : character ≠ '"') (rest : List Char) :
    halve (character :: rest) = character :: halve rest := by
  cases rest with
  | nil => rfl
  | cons second behind => rw [halve, if_neg fun both => notQuote both.1]

theorem halve_escaped (part : List Char) : halve (part.flatMap SqlToken.escaped) = part := by
  induction part with
  | nil => rfl
  | cons head tail inductionHypothesis =>
      rw [List.flatMap_cons, SqlToken.escaped]
      by_cases isQuote : head = '"'
      · rw [if_pos isQuote, List.cons_append, List.singleton_append, halve, if_pos ⟨rfl, rfl⟩,
          inductionHypothesis, isQuote]
      · rw [if_neg isQuote, List.singleton_append, halve_cons isQuote, inductionHypothesis]

theorem unquote_quotePart (part : List Char) : unquote (quotePart part) = part := by
  have inside : (quotePart part).tail.dropLast = part.flatMap SqlToken.escaped := by
    rw [quotePart, List.cons_append, List.tail_cons, List.dropLast_concat]
    rfl
  rw [unquote, inside, halve_escaped]

/-! ## Quoted names -/

theorem readInside?_doubled (rest : List Char) :
    readInside? ('"' :: '"' :: rest) =
      (readInside? rest).map fun read => ('"' :: '"' :: read.1, read.2) := by
  rw [readInside?, if_pos rfl]

/-- A quote that is not doubled closes. -/
theorem readInside?_closing {rest : List Char} (apart : rest.head? ≠ some '"') :
    readInside? ('"' :: rest) = some (['"'], rest) := by
  rw [readInside?, if_pos rfl]
  rintro behind rfl
  exact apart rfl

theorem readInside?_cons {character : Char} (notQuote : character ≠ '"') (rest : List Char) :
    readInside? (character :: rest) =
      (readInside? rest).map fun read => (character :: read.1, read.2) := by
  rw [readInside?.eq_def]
  simp only [if_neg notQuote]

theorem readInside?_escaped {rest : List Char} (apart : rest.head? ≠ some '"')
    (part : List Char) :
    readInside? (part.flatMap SqlToken.escaped ++ '"' :: rest) =
      some (part.flatMap SqlToken.escaped ++ ['"'], rest) := by
  induction part with
  | nil => exact readInside?_closing apart
  | cons head tail inductionHypothesis =>
      rw [List.flatMap_cons, SqlToken.escaped]
      by_cases isQuote : head = '"'
      · simp only [if_pos isQuote, List.cons_append, List.nil_append, readInside?_doubled,
          inductionHypothesis, Option.map_some]
      · simp only [if_neg isQuote, List.cons_append, List.nil_append, readInside?_cons isQuote,
          inductionHypothesis, Option.map_some]

/-- A quoted part is read up to its end. -/
theorem readIdentifier?_quotePart {rest : List Char} (apart : rest.head? ≠ some '"')
    (part : List Char) : readIdentifier? (quotePart part ++ rest) = some (quotePart part, rest) := by
  have inside := readInside?_escaped apart part
  have opened : quotePart part ++ rest =
      '"' :: (part.flatMap SqlToken.escaped ++ '"' :: rest) := by
    simp [quotePart]
    rfl
  rw [opened, readIdentifier?, if_pos rfl, inside]
  rfl

theorem readIdentifiers?_dot {text first behind : List Char}
    (read : readIdentifier? text = some (first, '.' :: behind)) :
    readIdentifiers? text =
      (readIdentifiers? behind).map fun later => (first :: later.1, later.2) := by
  rw [readIdentifiers?]
  split <;> simp_all

theorem readIdentifiers?_last {text only behind : List Char}
    (read : readIdentifier? text = some (only, behind)) (noDot : behind.head? ≠ some '.') :
    readIdentifiers? text = some ([only], behind) := by
  rw [readIdentifiers?]
  split
  · simp_all
  · rename_i first later found
    rw [read] at found
    obtain ⟨_, rfl⟩ := Prod.mk.inj (Option.some.inj found)
    exact absurd rfl noDot
  · simp_all

theorem readIdentifiers?_parts {rest : List Char} (noQuote : rest.head? ≠ some '"')
    (noDot : rest.head? ≠ some '.') :
    ∀ parts : List (List Char), parts ≠ [] →
      readIdentifiers? (joinParts (parts.map quotePart) ++ rest) =
        some (parts.map quotePart, rest)
  | [], nonempty => absurd rfl nonempty
  | [only], _ => readIdentifiers?_last (readIdentifier?_quotePart noQuote only) noDot
  | first :: second :: others, _ => by
      have later := readIdentifiers?_parts noQuote noDot (second :: others)
        (List.cons_ne_nil second others)
      have split :
          joinParts ((first :: second :: others).map quotePart) ++ rest =
            quotePart first ++ '.' :: (joinParts ((second :: others).map quotePart) ++ rest) := by
        simp [joinParts]
      rw [split, readIdentifiers?_dot (readIdentifier?_quotePart (by simp) first), later]
      rfl

theorem joinParts_eq_intercalate :
    ∀ parts : List (List Char), joinParts parts = ['.'].intercalate parts
  | [] => rfl
  | [only] => List.intercalate_singleton.symm
  | first :: second :: rest => by
      have later := joinParts_eq_intercalate (second :: rest)
      rw [List.intercalate_cons_cons, ← later, joinParts, List.append_assoc,
        List.singleton_append]
      exact List.cons_ne_nil second rest

theorem intercalate_map_unquote (name : List Char) :
    ['.'].intercalate (((parts name).map quotePart).map unquote) = name := by
  have unquoted : ((parts name).map quotePart).map unquote = parts name := by
    rw [List.map_map]
    exact (List.map_congr_left fun part _ => unquote_quotePart part).trans (List.map_id _)
  rw [unquoted, ← joinParts_eq_intercalate, joinParts_parts]

theorem quoted_injective : Function.Injective quoted := by
  intro first second same
  have written : quote first.toList = quote second.toList := String.ofList_injective same
  have read (name : String) :
      readIdentifiers? (quote name.toList) = some ((parts name.toList).map quotePart, []) := by
    have noQuote : ([] : List Char).head? ≠ some '"' := by simp
    have noDot : ([] : List Char).head? ≠ some '.' := by simp
    have whole := readIdentifiers?_parts noQuote noDot (parts name.toList)
      (parts_ne_nil name.toList)
    rwa [List.append_nil] at whole
  have identifiers : (parts first.toList).map quotePart = (parts second.toList).map quotePart := by
    have both := (read first).symm.trans (written ▸ read second)
    exact (Prod.mk.inj (Option.some.inj both)).1
  have characters : first.toList = second.toList := by
    rw [← intercalate_map_unquote first.toList, identifiers, intercalate_map_unquote]
  exact String.toList_injective characters

/-- The lexer of SQL reads a quoted name as the names of its parts with dots between them, and
goes on with what stands behind as if nothing had been in front. -/
theorem lex_quoted {rest : String} (noQuote : rest.toList.head? ≠ some '"') (name : String) :
    SqlToken.lex (quoted name ++ rest) =
      (SqlToken.lex rest).map (Lexeme.nameTokens name ++ ·) := by
  have scanned := SqlToken.lexFrom_parts noQuote (parts name.toList) (parts_ne_nil name.toList)
  have noBlob : SqlToken.symbol "x" ∉ Lexeme.nameTokens name :=
    SqlToken.not_mem_tokens (.name name)
  rw [SqlToken.lex, String.toList_append, quoted, String.toList_ofList, quote, scanned,
    SqlToken.lex, Option.bind_map, Option.map_bind]
  exact congrArg _ (funext fun tokens => SqlToken.joinBlobs_append tokens noBlob)

theorem nameTokens_eq (name : String) :
    Lexeme.nameTokens name =
      (((parts name.toList).map quotePart).map fun identifier =>
        SqlToken.name (String.ofList (unquote identifier))).intersperse (.symbol ".") := by
  rw [Lexeme.nameTokens, List.map_map]
  refine congrArg _ (List.map_congr_left fun part _ => ?_)
  rw [Function.comp_apply, unquote_quotePart]

/-- In front of a text that begins with neither a quote nor a dot, a quoted name is read as
identifiers that end where it ends, and without their quotes they give the name.  The lexer of
SQL reads them as names and goes on behind them.  So no two names are quoted alike. -/
theorem quoted_read (name rest : String) (noQuote : rest.toList.head? ≠ some '"')
    (noDot : rest.toList.head? ≠ some '.') :
    (∃ identifiers : List (List Char),
      readIdentifiers? (quoted name ++ rest).toList = some (identifiers, rest.toList) ∧
        ['.'].intercalate identifiers = (quoted name).toList ∧
          ['.'].intercalate (identifiers.map unquote) = name.toList ∧
            SqlToken.lex (quoted name ++ rest) =
              (SqlToken.lex rest).map
                ((identifiers.map fun identifier =>
                  SqlToken.name (String.ofList (unquote identifier))).intersperse (.symbol ".")
                  ++ ·)) ∧
      Function.Injective quoted := by
  have characters : (quoted name).toList = joinParts ((parts name.toList).map quotePart) :=
    String.toList_ofList
  refine ⟨⟨(parts name.toList).map quotePart, ?_, ?_, intercalate_map_unquote name.toList, ?_⟩,
    quoted_injective⟩
  · rw [String.toList_append, characters]
    exact readIdentifiers?_parts noQuote noDot _ (parts_ne_nil name.toList)
  · rw [characters, joinParts_eq_intercalate]
  · rw [← nameTokens_eq, lex_quoted noQuote]

/-- A name that tries to end its identifier, with a part that is empty, in front of a
comparison. -/
theorem quoted_read_hostile :
    " = ?".toList.head? ≠ some '"' ∧ " = ?".toList.head? ≠ some '.' ∧
      (quoted "a\" OR \"b..c") = "\"a\"\" OR \"\"b\".\"\".\"c\"" ∧
      (∃ identifiers : List (List Char),
        readIdentifiers? (quoted "a\" OR \"b..c" ++ " = ?").toList =
            some (identifiers, " = ?".toList) ∧
          ['.'].intercalate identifiers = (quoted "a\" OR \"b..c").toList ∧
            ['.'].intercalate (identifiers.map unquote) = "a\" OR \"b..c".toList ∧
              SqlToken.lex (quoted "a\" OR \"b..c" ++ " = ?") =
                (SqlToken.lex " = ?").map
                  ((identifiers.map fun identifier =>
                    SqlToken.name (String.ofList (unquote identifier))).intersperse (.symbol ".")
                    ++ ·)) ∧
      Function.Injective quoted :=
  ⟨by decide, by decide, by decide, quoted_read _ _ (by decide) (by decide)⟩

end Identifier

end TableGraph
