import TableGraph.Proofs.Selection.Binding

/-!
# Selections made of slots

When the fragments of a selection are made of slots, its statements render, whatever
its clauses are, and the marks of a statement are in step with the values of the
clauses.  The main statement is `TableSelection.IsSlotted.binds`.
-/

namespace TableGraph

open Lexeme (Fits Follows Separates)
open TableSelection (Piece expandPieces)

/-- An expression that is made of slots that fit. -/
def Fragment.IsSlotted (fragment : Fragment) : Prop :=
  ∃ slots, fragment = Slot.fragment slots ∧ Fits (slots.flatMap Slot.lexemes)

theorem Fragment.IsSlotted.begins {fragment : Fragment} (slotted : fragment.IsSlotted) :
    Begins [.fragment fragment] := by
  obtain ⟨slots, rfl, fits⟩ := slotted
  exact ⟨_, Aligned.fragment fits, fits⟩

/-! ## Separating texts -/

namespace Divides

theorem keyword (words : List Keyword) {written : String}
    (same : written.toList = (SelectStatement.keywords words).flatMap Lexeme.characters) :
    Divides written :=
  of_run _ same (SelectStatement.separates_keywords words)

theorem opening : Divides "(" := by
  refine of_run [.opening] (by simp; rfl) fun afterOpen => ?_
  cases afterOpen <;> rfl

theorem closing : Divides ")" := by
  refine of_run [.closing] (by simp; rfl) fun afterOpen => ?_
  cases afterOpen <;> rfl

theorem comma : Divides ", " := by
  refine of_run [.comma, .blank] (by simp; rfl) fun afterOpen => ?_
  cases afterOpen <;> rfl

theorem both : Divides " AND " := keyword [.both] (by simp; rfl)

theorem restrict : Divides " WHERE " := keyword [.restrict] (by simp; rfl)

theorem group : Divides " GROUP BY " := keyword [.group, .along] (by simp; rfl)

theorem having : Divides " HAVING " := keyword [.having] (by simp; rfl)

theorem order : Divides " ORDER BY " := keyword [.order, .along] (by simp; rfl)

end Divides

/-! ## Clauses -/

namespace TableSelection

theorem begins_separated {separator : String} (separates : Divides separator) :
    ∀ {parts : List (List Piece)}, (∀ part ∈ parts, Begins part) →
      Begins (parts.intersperse [.text separator]).flatten
  | [], _ => Continues.nil.begins
  | [only], begins => by simpa using begins only List.mem_cons_self
  | first :: second :: rest, begins => by
      have later := begins_separated separates fun part member =>
        begins part (List.mem_cons_of_mem first member)
      exact (begins first List.mem_cons_self).append (separates.continues later)

theorem begins_joined {separator : String} (separates : Divides separator) (parenthesized : Bool)
    {fragments : List Fragment} (slotted : ∀ fragment ∈ fragments, fragment.IsSlotted) :
    Begins (joined separator parenthesized fragments) := by
  refine begins_separated separates fun part member => ?_
  obtain ⟨fragment, fragmentMember, rfl⟩ := List.mem_map.mp member
  have begins := (slotted fragment fragmentMember).begins
  split
  · have closes : Continues [.text ")"] := Divides.closing.continues Continues.nil.begins
    exact (Divides.opening.continues (begins.append closes)).begins
  · exact begins

theorem continues_clausePieces {keyword separator : String} (isKeyword : Divides keyword)
    (separates : Divides separator) (parenthesized : Bool) {fragments : List Fragment}
    (slotted : ∀ fragment ∈ fragments, fragment.IsSlotted) :
    Continues (clausePieces keyword separator parenthesized fragments) := by
  unfold clausePieces
  split
  · exact Continues.nil
  · exact isKeyword.continues (begins_joined separates parenthesized slotted)

theorem toList_of_writes {written : String} {lexemes : List Lexeme}
    (writes : Writes [.text written] lexemes) :
    written.toList = lexemes.flatMap Lexeme.characters := by
  obtain ⟨binds, expands⟩ := writes
  simp only [expandPieces, Piece.expand, Except.bind, Except.map, Statement.append,
    Statement.empty, String.append_empty, Except.ok.injEq, Statement.mk.injEq] at expands
  rw [expands.1, String.toList_ofList]

theorem continues_pagePieces (limit offset : Option Int64) :
    Continues (pagePieces limit offset) := by
  have writes := Writes.pageClause limit offset
  have follows := SelectStatement.follows_pageClause limit offset
  have unmarked : Lexeme.mark ∉ SelectStatement.pageClause limit offset := by
    cases limit <;> cases offset <;>
      simp [SelectStatement.pageClause, SelectStatement.keywords, Lexeme.run]
  cases limit with
  | none =>
      cases offset with
      | none => exact Continues.nil
      | some offset =>
          exact ⟨_, Aligned.text (toList_of_writes writes) (follows false) unmarked, follows⟩
  | some limit =>
      cases offset with
      | none => exact ⟨_, Aligned.text (toList_of_writes writes) (follows false) unmarked, follows⟩
      | some offset =>
          exact ⟨_, Aligned.text (toList_of_writes writes) (follows false) unmarked, follows⟩

/-- A statement opens with fixed words in front of the name of its table. -/
theorem exists_opening (selection : TableSelection) (head : Head)
    (isUsual : head ∈ [Head.rows, .count "*"]) :
    ∃ pieces : List FixedLexeme,
      (selection.opening head).toList =
          (Lexeme.run pieces ++ [Lexeme.name selection.table]).flatMap Lexeme.characters ∧
        Fits (Lexeme.run pieces ++ [Lexeme.name selection.table]) ∧
          .keyword .restrict ∉ pieces := by
  have fits :
      ∀ {pieces : List FixedLexeme}, Lexeme.endsOpen? false (Lexeme.run pieces) = some false →
        Fits (Lexeme.run pieces ++ [Lexeme.name selection.table]) :=
    fun ends => ⟨true, Lexeme.endsOpen?_append_of_eq ends rfl⟩
  rcases List.mem_cons.mp isUsual with rfl | isCount
  · refine ⟨[.keyword .select, .blank, .star, .blank, .keyword .source, .blank], ?_, fits rfl,
      by decide⟩
    simp [opening, Lexeme.run, Lexeme.characters, FixedLexeme.characters, Keyword.characters]
  · obtain rfl := List.mem_singleton.mp isCount
    cases grouped : selection.isGrouped with
    | true =>
        refine ⟨[.keyword .select, .blank, .keyword .count, .opening, .star, .closing, .blank,
          .keyword .source, .blank, .opening, .keyword .select, .blank, .star, .blank,
          .keyword .source, .blank], ?_, fits rfl, by decide⟩
        simp [opening, grouped, Lexeme.run, Lexeme.characters, FixedLexeme.characters,
          Keyword.characters]
    | false =>
        refine ⟨[.keyword .select, .blank, .keyword .count, .opening, .star, .closing, .blank,
          .keyword .source, .blank], ?_, fits rfl, by decide⟩
        simp [opening, grouped, Lexeme.run, Lexeme.characters, FixedLexeme.characters,
          Keyword.characters]

theorem begins_opening (selection : TableSelection) (head : Head)
    (isUsual : head ∈ [Head.rows, .count "*"]) : Begins [.text (selection.opening head)] := by
  obtain ⟨pieces, same, fits, _⟩ := selection.exists_opening head isUsual
  exact ⟨_, Aligned.text same fits (by simp [Lexeme.run]), fits⟩

theorem continues_closing (selection : TableSelection) (head : Head) :
    Continues [.text (selection.closing head)] := by
  have empty : Continues [.text ""] :=
    ⟨[], Aligned.text rfl ⟨false, rfl⟩ List.not_mem_nil, Lexeme.follows_nil⟩
  cases head with
  | rows => exact empty
  | count expression =>
      rw [closing]
      split
      · exact Divides.closing.continues Continues.nil.begins
      · exact empty

/-- A selection all of whose fragments are made of slots. -/
structure IsSlotted (selection : TableSelection) : Prop where
  filters : ∀ fragment ∈ selection.filters, fragment.IsSlotted
  group : ∀ fragment ∈ selection.group.toList, fragment.IsSlotted
  havings : ∀ fragment ∈ selection.havings, fragment.IsSlotted
  orders : ∀ fragment ∈ selection.orders, fragment.IsSlotted

namespace IsSlotted

variable {selection : TableSelection}

theorem continues_restricting (slotted : selection.IsSlotted) :
    Continues selection.restrictingPieces :=
  ((continues_clausePieces .restrict .both true slotted.filters).append
    (continues_clausePieces .group .comma false slotted.group)).append
      (continues_clausePieces .having .both true slotted.havings)

theorem continues_arranging (slotted : selection.IsSlotted) :
    Continues selection.arrangingPieces :=
  (continues_clausePieces .order .comma false slotted.orders).append (continues_pagePieces _ _)

theorem begins_allPieces (slotted : selection.IsSlotted) {head : Head}
    (isUsual : head ∈ [Head.rows, .count "*"]) : Begins (selection.allPieces head) := by
  have opening := selection.begins_opening head isUsual
  have closing := selection.continues_closing head
  cases head with
  | rows =>
      exact (((opening.append slotted.continues_restricting).append
        slotted.continues_arranging).append closing)
  | count expression =>
      exact (((opening.append slotted.continues_restricting).append
        Continues.nil).append closing)

end IsSlotted

/-! ## Values -/

/-- What parts with separators between them say. -/
theorem flatMap_separated {Said : Type} (say : Piece → List Said) (separator : String)
    (first : List Piece) (rest : List (List Piece)) :
    (((first :: rest).intersperse [.text separator]).flatten).flatMap say =
      first.flatMap say ++ rest.flatMap fun part => say (.text separator) ++ part.flatMap say := by
  induction rest generalizing first with
  | nil => simp
  | cons second others inductionHypothesis =>
      have split :
          ((first :: second :: others).intersperse [Piece.text separator]).flatten =
            first ++ .text separator :: ((second :: others).intersperse [.text separator]).flatten :=
        rfl
      rw [split, List.flatMap_append, List.flatMap_cons, inductionHypothesis, List.flatMap_cons,
        List.append_assoc]

theorem values_clausePieces (keyword separator : String) (parenthesized : Bool)
    (fragments : List Fragment) :
    (clausePieces keyword separator parenthesized fragments).flatMap Piece.values =
      fragments.flatMap Fragment.values := by
  cases fragments with
  | nil => rfl
  | cons first rest =>
      have enclosed :
          ∀ (inParentheses : Bool) (fragment : Fragment),
            (if inParentheses then [Piece.text "(", .fragment fragment, .text ")"]
              else [.fragment fragment]).flatMap Piece.values = fragment.values := by
        intro inParentheses fragment
        cases inParentheses <;> simp [Piece.values]
      have separators : ∀ written, (Piece.text written).values = [] := fun _ => rfl
      rw [clausePieces, if_neg (by simp), List.flatMap_cons, joined, List.map_cons,
        flatMap_separated, enclosed, List.flatMap_map]
      simp only [separators, enclosed, List.nil_append, List.flatMap_cons]

theorem values_allPieces (selection : TableSelection) (head : Head) :
    (selection.allPieces head).flatMap Piece.values = selection.values head := by
  have page : (pagePieces selection.limit selection.offset).flatMap Piece.values = [] := by
    cases selection.limit <;> cases selection.offset <;> rfl
  have text : ∀ written, (Piece.text written).values = [] := fun _ => rfl
  cases head <;>
    simp [allPieces, pieces, restrictingPieces, arrangingPieces, values_clausePieces, values, page,
      text]

theorem render_eq_expandPieces (selection : TableSelection) (head : Head) :
    selection.render head = expandPieces (selection.allPieces head) := by
  have closed :
      ∀ pieces : List Piece,
        (expandPieces pieces).map (fun statement =>
            statement.append ⟨selection.closing head, []⟩) =
          expandPieces (pieces ++ [.text (selection.closing head)]) := by
    intro pieces
    induction pieces with
    | nil =>
        simp [expandPieces, Piece.expand, Except.bind, Except.map, Statement.append,
          Statement.empty]
    | cons first rest inductionHypothesis =>
        rw [List.cons_append, expandPieces, expandPieces, ← inductionHypothesis]
        cases first.expand with
        | error failure => rfl
        | ok own =>
            cases expandPieces rest with
            | error failure => rfl
            | ok later => simp [Except.bind, Except.map, Statement.append, String.append_assoc]
  exact closed (selection.pieces head)

/-- A selection made of slots renders.  Its statement has as many marks as it binds
values, which are those of its clauses in their order, and bound from left to right
each value stands where its placeholder stood. -/
theorem IsSlotted.binds {selection : TableSelection} (slotted : selection.IsSlotted)
    {head : Head} (isUsual : head ∈ [Head.rows, .count "*"]) :
    ∃ statement tokens, selection.render head = .ok statement ∧
      SqlToken.lex statement.text = some tokens ∧ statement.binds = selection.values head ∧
        tokens.count .mark = statement.binds.length ∧
          Query.bind tokens (statement.binds.map Cell.ofValue) =
            some (selection.boundTokens head) := by
  obtain ⟨statement, tokens, expands, lexed, values, bound⟩ := (slotted.begins_allPieces isUsual).bind
  refine ⟨statement, tokens, ?_, lexed, ?_, ?_, bound⟩
  · rw [render_eq_expandPieces, expands]
  · rw [values, values_allPieces]
  · rw [Query.count_mark_of_bind bound, List.length_map]

end TableSelection

end TableGraph
