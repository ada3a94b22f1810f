import TableGraph.Json.Parser
import TableGraph.Proofs.Json.PrintedTokens

/-!
# Printed documents read back

The reader builds from the tokens of a document the document itself and puts it into the
innermost array or object it is in (`IsExact.reads`).  With the lexer's half
(`IsExact.lexes`) a printed document is read back as itself (`parse?_render`), provided that
it is not nested too deep.
-/

namespace TableGraph.Json

variable {depth : Nat} {stack : List Frame} {later : List Token}

/-! ## Tokens of a value -/

/-- A document whose tokens are read as the document wherever a value may stand, up to a depth. -/
def Reads (depth : Nat) (document : Json) : Prop :=
  ∀ stack later, stack.length + depth < depthLimit →
    readTokens ⟨stack, .value⟩ (tokens document ++ later) =
      readTokens (Reader.finish document stack) later

theorem readTokens_cons {reader next : Reader} {token : Token}
    (step : reader.step token = some next) :
    readTokens reader (token :: later) = readTokens next later := by
  rw [readTokens, step, Option.bind_some]

/-- A document begins with a token that ends no array. -/
theorem exists_tokens_eq_cons (document : Json) :
    ∃ first rest, tokens document = first :: rest ∧ first ≠ .closeArray := by
  cases document with
  | null => exact ⟨_, _, rfl, Token.noConfusion⟩
  | bool value => exact ⟨_, _, rfl, Token.noConfusion⟩
  | integer value => exact ⟨_, _, rfl, Token.noConfusion⟩
  | float value => exact ⟨_, _, rfl, Token.noConfusion⟩
  | text value => exact ⟨_, _, rfl, Token.noConfusion⟩
  | array elements => exact ⟨_, _, rfl, Token.noConfusion⟩
  | object fields => exact ⟨_, _, rfl, Token.noConfusion⟩

theorem exists_intercalate_eq_append (first : List Token) (rest : List (List Token)) :
    ∃ behind, [Token.comma].intercalate (first :: rest) = first ++ behind := by
  cases rest with
  | nil => exact ⟨[], by rw [List.intercalate_singleton, List.append_nil]⟩
  | cons second others => exact ⟨_, by rw [List.intercalate_cons_cons, List.append_assoc]⟩

/-! ## Arrays and objects -/

/-- Items that commas separate are read one after the other, when each of them leads from where
an item may stand to where a comma may, and a comma leads back. -/
theorem readTokens_separated {Item : Type} {write : Item → List Token} {items : List Item}
    (before behind : List Item → Reader) (nonempty : items ≠ [])
    (each : ∀ item ∈ items, ∀ reversed later, readTokens (before reversed) (write item ++ later) =
      readTokens (behind (item :: reversed)) later)
    (comma : ∀ reversed, (behind reversed).step .comma = some (before reversed))
    (reversed : List Item) (later : List Token) :
    readTokens (before reversed) ([Token.comma].intercalate (items.map write) ++ later) =
      readTokens (behind (items.reverse ++ reversed)) later := by
  induction items generalizing reversed with
  | nil => exact absurd rfl nonempty
  | cons first others inductionHypothesis =>
      have readsFirst := each first List.mem_cons_self reversed
      cases others with
      | nil =>
          rw [List.map_cons, List.map_nil, List.intercalate_singleton, readsFirst]
          rfl
      | cons second rest =>
          have readsOthers := inductionHypothesis (List.cons_ne_nil second rest)
            (fun item member => each item (List.mem_cons_of_mem first member)) (first :: reversed)
          have order : (first :: second :: rest).reverse ++ reversed =
              (second :: rest).reverse ++ first :: reversed := by
            rw [List.reverse_cons, List.append_assoc, List.singleton_append]
          rw [List.map_cons, List.map_cons, List.intercalate_cons_cons, List.append_assoc,
            List.append_assoc, readsFirst, List.singleton_append, readTokens_cons (comma _),
            ← List.map_cons, readsOthers, order]

/-- The elements of an array and its end. -/
theorem readTokens_elements {elements : List Json} (nonempty : elements ≠ [])
    (each : ∀ element ∈ elements, Reads depth element)
    (shallow : stack.length + (depth + 1) < depthLimit) :
    readTokens ⟨.array [] :: stack, .value⟩
        ([Token.comma].intercalate (elements.map tokens) ++ .closeArray :: later) =
      readTokens (Reader.finish (.array elements) stack) later := by
  have within (reversed : List Json) :
      (Frame.array reversed :: stack).length + depth < depthLimit := by
    rw [List.length_cons]
    omega
  have read := readTokens_separated (fun reversed => ⟨.array reversed :: stack, .value⟩)
    (fun reversed => ⟨.array reversed :: stack, .next⟩) nonempty
    (fun element member reversed later => each element member _ later (within reversed))
    (fun _ => rfl) [] (.closeArray :: later)
  rw [read, readTokens_cons rfl, List.append_nil, List.reverse_reverse]

/-- The name of a field leads to its value. -/
theorem readTokens_tokensOfField (field : String × Json) (reversed : List (String × Json))
    (before : String) :
    readTokens ⟨.object reversed before :: stack, .key⟩ (tokensOfField field ++ later) =
      readTokens ⟨.object reversed field.1 :: stack, .value⟩ (tokens field.2 ++ later) := by
  rw [tokensOfField, List.cons_append, List.cons_append, readTokens_cons rfl, readTokens_cons rfl]

/-- The fields of an object and its end. -/
theorem readTokens_fields {fields : List (String × Json)} (nonempty : fields ≠ [])
    (each : ∀ field ∈ fields, Reads depth field.2)
    (shallow : stack.length + (depth + 1) < depthLimit) :
    readTokens ⟨.object [] "" :: stack, .key⟩
        ([Token.comma].intercalate (fields.map tokensOfField) ++ .closeObject :: later) =
      readTokens (Reader.finish (.object fields) stack) later := by
  have within (reversed : List (String × Json)) (key : String) :
      (Frame.object reversed key :: stack).length + depth < depthLimit := by
    rw [List.length_cons]
    omega
  -- The frame keeps the name that was read last.
  let lastName (reversed : List (String × Json)) : String := (reversed.head?.map Prod.fst).getD ""
  have readField (field : String × Json) (member : field ∈ fields)
      (reversed : List (String × Json)) (later : List Token) :
      readTokens ⟨.object reversed (lastName reversed) :: stack, .key⟩
          (tokensOfField field ++ later) =
        readTokens ⟨.object (field :: reversed) field.1 :: stack, .next⟩ later := by
    rw [readTokens_tokensOfField, each field member _ _ (within reversed field.1), Reader.finish]
  have read := readTokens_separated
    (fun reversed => ⟨.object reversed (lastName reversed) :: stack, .key⟩)
    (fun reversed => ⟨.object reversed (lastName reversed) :: stack, .next⟩)
    nonempty readField (fun _ => rfl) [] (.closeObject :: later)
  rw [List.append_nil] at read
  exact read.trans (by rw [readTokens_cons rfl, List.reverse_reverse])

/-- Behind the beginning of an array the first element is read like the others. -/
theorem readTokens_firstElement (first : Json) (rest : List Json) :
    readTokens ⟨stack, .element⟩ ([Token.comma].intercalate ((first :: rest).map tokens) ++ later) =
      readTokens ⟨stack, .value⟩
        ([Token.comma].intercalate ((first :: rest).map tokens) ++ later) := by
  obtain ⟨behind, form⟩ := exists_intercalate_eq_append (tokens first) (rest.map tokens)
  obtain ⟨token, others, begins, notClosing⟩ := exists_tokens_eq_cons first
  have step : Reader.step ⟨stack, .element⟩ token = Reader.step ⟨stack, .value⟩ token := by
    cases token with
    | closeArray => exact absurd rfl notClosing
    | _ => rfl
  rw [List.map_cons, form, begins, List.append_assoc, List.cons_append, readTokens, readTokens,
    step]

/-- Behind the beginning of an object the first name is read like the others. -/
theorem readTokens_firstField (first : String × Json) (rest : List (String × Json)) :
    readTokens ⟨stack, .firstKey⟩
        ([Token.comma].intercalate ((first :: rest).map tokensOfField) ++ later) =
      readTokens ⟨stack, .key⟩
        ([Token.comma].intercalate ((first :: rest).map tokensOfField) ++ later) := by
  obtain ⟨behind, form⟩ :=
    exists_intercalate_eq_append (tokensOfField first) (rest.map tokensOfField)
  rw [List.map_cons, form]
  rfl

/-- The tokens of an exact document are read as the document. -/
theorem IsExact.reads {document : Json} (exact : IsExact depth document) :
    Reads depth document := by
  induction exact with
  | null => exact fun _ _ _ => readTokens_cons rfl
  | bool value => exact fun _ _ _ => readTokens_cons rfl
  | integer lower upper => exact fun _ _ _ => readTokens_cons rfl
  | text value => exact fun _ _ _ => readTokens_cons rfl
  | @array depth elements _ inductionHypothesis =>
      intro stack later shallow
      have room : stack.length + 1 < depthLimit := by omega
      have opened : Reader.step ⟨stack, .value⟩ .openArray =
          some ⟨.array [] :: stack, .element⟩ := if_pos room
      rw [tokens, elementTokens_eq_map, List.cons_append, List.append_assoc, List.singleton_append,
        readTokens_cons opened]
      cases elements with
      | nil => exact readTokens_cons rfl
      | cons first rest =>
          rw [readTokens_firstElement]
          exact readTokens_elements (List.cons_ne_nil _ _) inductionHypothesis shallow
  | @object depth fields _ inductionHypothesis =>
      intro stack later shallow
      have room : stack.length + 1 < depthLimit := by omega
      have opened : Reader.step ⟨stack, .value⟩ .openObject =
          some ⟨.object [] "" :: stack, .firstKey⟩ := if_pos room
      rw [tokens, fieldTokens_eq_map, List.cons_append, List.append_assoc, List.singleton_append,
        readTokens_cons opened]
      cases fields with
      | nil => exact readTokens_cons rfl
      | cons first rest =>
          rw [readTokens_firstField]
          exact readTokens_fields (List.cons_ne_nil _ _) inductionHypothesis shallow

/-! ## Texts of documents -/

/-- A printed document is read back as itself. -/
theorem parse?_render {document : Json} (exact : IsExact depth document)
    (shallow : depth < depthLimit) : parse? document.render = some document := by
  have lexed : lex (print document) = some (tokens document) := by
    have whole := exact.lexes [] fun _ isNext => nomatch isNext
    rwa [List.append_nil, lexFrom, Option.map_some, List.append_nil] at whole
  have room : ([] : List Frame).length + depth < depthLimit := by
    rwa [List.length_nil, Nat.zero_add]
  have read : readTokens ⟨[], .value⟩ (tokens document) = some ⟨[], .complete document⟩ := by
    have whole := exact.reads [] [] room
    rwa [List.append_nil] at whole
  rw [parse?, render, String.toList_ofList, lexed, Option.bind_some, read]

end TableGraph.Json
