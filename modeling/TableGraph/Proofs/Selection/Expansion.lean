import TableGraph.Proofs.Selection.Binding
import TableGraph.Proofs.Selection.QuotedMarks
import TableGraph.Proofs.Sql.QuotedNames

/-!
# Expanded expressions

Expanding an expression writes behind what a statement holds already, so a failure can leave
part of it written.  What is written for an expression is the expression with the texts of the
parameters in the places of its placeholders, the first for the first.

The main statement, `Fragment.expandOnto_exact`, is that there are two ways to fail and no third.
With another number of parameters than placeholders nothing is written.  Otherwise no placeholder
is without its parameter, and only name placeholders with parameters that are no names are
refused, by the position of the first among the tokens.
-/

namespace TableGraph

namespace Parameter

def isIdentifier : Parameter → Bool
  | .identifier _ => true
  | _ => false

/-- What is written for a parameter. -/
def text : Parameter → String
  | .value _ => "?"
  | .list values =>
    if values = [] then "NULL" else ", ".intercalate (List.replicate values.length "?")
  | .identifier name => Identifier.quoted name

end Parameter

namespace PlaceholderToken

/-- Whether a name placeholder stands at a position and takes a parameter that is no name, which
is the one with as many parameters in front as there are placeholders in front. -/
def isMisfit (tokens : List PlaceholderToken) (parameters : List Parameter) (position : Nat) :
    Bool :=
  tokens[position]? == some .identifier &&
    parameters[(tokens.take position).countP isPlaceholder]?.any (!·.isIdentifier)

def misfits (tokens : List PlaceholderToken) (parameters : List Parameter) : List Nat :=
  (List.range tokens.length).filter (isMisfit tokens parameters)

/-- Tokens with others in the places of their placeholders. -/
def refill (tokens others : List PlaceholderToken) : List PlaceholderToken :=
  (List.zipWith (· ++ ·) (tokens.splitOnP isPlaceholder)
    (others.map (fun other => [other]) ++ [[]])).flatten

/-- What is written and bound with the parameters in the places of the placeholders. -/
def filled (tokens : List PlaceholderToken) (parameters : List Parameter) : Statement :=
  ⟨String.ofList
    ((refill tokens (parameters.map fun parameter => .text parameter.text.toList)).flatMap
      characters), parameters.flatMap Parameter.values⟩

end PlaceholderToken

namespace Fragment

/-- Put parameters into the tokens from a position on, behind what a statement holds. -/
def placeOnto (written : Statement) (position : Nat) :
    List PlaceholderToken → List Parameter → Statement × Except StoreFailure Unit
  | [], _ => (written, .ok ())
  | .text characters :: rest, parameters =>
    placeOnto (written.append ⟨String.ofList characters, []⟩) (position + 1) rest parameters
  | .identifier :: rest, .identifier name :: parameters =>
    placeOnto (written.append (placed (.identifier name))) (position + 1) rest parameters
  | .identifier :: _, _ => (written, .error (.invalidPlaceholder position))
  | .value :: rest, parameter :: parameters =>
    placeOnto (written.append (placed parameter)) (position + 1) rest parameters
  | .value :: _, [] => (written, .error (.invalidPlaceholder position))

def tokens (fragment : Fragment) : List PlaceholderToken :=
  PlaceholderToken.tokens fragment.expression

def placeholders (fragment : Fragment) : List PlaceholderToken :=
  fragment.tokens.filter PlaceholderToken.isPlaceholder

/-- Expand an expression behind what a statement holds. -/
def expandOnto (fragment : Fragment) (written : Statement) :
    Statement × Except StoreFailure Unit :=
  if fragment.placeholders.length ≠ fragment.parameters.length then
    (written,
      .error (.parameterCount fragment.placeholders.length fragment.parameters.length))
  else
    placeOnto written 0 fragment.tokens fragment.parameters

end Fragment

/-! ## Texts of parameters -/

theorem Fragment.marks_succ (count : Nat) :
    marks (count + 1) = ", ".intercalate (List.replicate (count + 1) "?") := by
  induction count with
  | zero => rfl
  | succ count inductionHypothesis =>
      have nonempty : List.replicate (count + 1) "?" ≠ [] := by simp
      rw [List.replicate_succ, String.intercalate_cons_of_ne_nil nonempty, ← inductionHypothesis]
      rfl

theorem Parameter.placed_eq (parameter : Parameter) :
    Fragment.placed parameter = ⟨parameter.text, parameter.values⟩ := by
  cases parameter with
  | value bound => rfl
  | list bound =>
      cases bound with
      | nil => rfl
      | cons head tail => rw [Fragment.placed, List.length_cons, Fragment.marks_succ]; rfl
  | identifier name => rfl

/-! ## Misfits -/

namespace PlaceholderToken

variable {rest : List PlaceholderToken} {parameters : List Parameter}

theorem isMisfit_text_succ (characters : List Char) (position : Nat) :
    isMisfit (.text characters :: rest) parameters (position + 1) =
      isMisfit rest parameters position := by
  rw [isMisfit, List.take_succ_cons, List.countP_cons_of_neg (by simp [isPlaceholder])]
  rfl

theorem isMisfit_placeholder_succ {token : PlaceholderToken}
    (isPlaceholder : token.isPlaceholder = true) (parameter : Parameter) (position : Nat) :
    isMisfit (token :: rest) (parameter :: parameters) (position + 1) =
      isMisfit rest parameters position := by
  rw [isMisfit, List.take_succ_cons, List.countP_cons_of_pos isPlaceholder]
  rfl

theorem misfits_cons {token : PlaceholderToken} {later : List Parameter}
    (behind : ∀ position, isMisfit (token :: rest) parameters (position + 1) =
      isMisfit rest later position) :
    misfits (token :: rest) parameters =
      (if isMisfit (token :: rest) parameters 0 then [0] else []) ++
        (misfits rest later).map (· + 1) := by
  have shifted : (List.range rest.length).map Nat.succ = (List.range rest.length).map (· + 1) := rfl
  rw [misfits, List.length_cons, List.range_succ_eq_map, List.filter_cons, shifted,
    List.filter_map]
  simp only [Function.comp_def, behind]
  split <;> rfl

theorem misfits_text (characters : List Char) :
    misfits (.text characters :: rest) parameters = (misfits rest parameters).map (· + 1) :=
  misfits_cons (isMisfit_text_succ characters)

theorem misfits_placeholder {token : PlaceholderToken} (isPlaceholder : token.isPlaceholder = true)
    (parameter : Parameter) :
    misfits (token :: rest) (parameter :: parameters) =
      (if token = .identifier ∧ parameter.isIdentifier = false then [0] else []) ++
        (misfits rest parameters).map (· + 1) := by
  rw [misfits_cons (isMisfit_placeholder_succ isPlaceholder parameter)]
  simp [isMisfit]

/-! ## Filled tokens -/

theorem refill_nil : refill [] [] = [] := by
  simp [refill]

theorem refill_text (characters : List Char) (rest others : List PlaceholderToken) :
    refill (.text characters :: rest) others = .text characters :: refill rest others := by
  have split : (PlaceholderToken.text characters :: rest).splitOnP isPlaceholder =
      (rest.splitOnP isPlaceholder).modifyHead (.text characters :: ·) := by
    rw [List.splitOnP_cons_eq_if_modifyHead, if_neg (by simp [isPlaceholder])]
  rw [refill, split, refill]
  cases gaps : rest.splitOnP isPlaceholder with
  | nil => exact absurd gaps (List.splitOnP_ne_nil isPlaceholder rest)
  | cons gap later => cases others <;> simp

theorem refill_placeholder {token : PlaceholderToken} (isPlaceholder : token.isPlaceholder = true)
    (rest : List PlaceholderToken) (other : PlaceholderToken) (others : List PlaceholderToken) :
    refill (token :: rest) (other :: others) = other :: refill rest others := by
  rw [refill, List.splitOnP_cons_eq_if_modifyHead, if_pos isPlaceholder]
  rfl

/-- The places of the placeholders are where they stand. -/
theorem refill_filter (tokens : List PlaceholderToken) :
    refill tokens (tokens.filter isPlaceholder) = tokens :=
  List.splitOnP_spec tokens

theorem filled_nil : filled [] [] = .empty := by
  simp [filled, refill_nil, Statement.empty]

theorem filled_text (own : List Char) (rest : List PlaceholderToken) (parameters : List Parameter) :
    filled (.text own :: rest) parameters =
      Statement.append ⟨String.ofList own, []⟩ (filled rest parameters) := by
  simp [filled, refill_text, characters, Statement.append]

theorem filled_placeholder {token : PlaceholderToken} (isPlaceholder : token.isPlaceholder = true)
    (rest : List PlaceholderToken) (parameter : Parameter) (parameters : List Parameter) :
    filled (token :: rest) (parameter :: parameters) =
      (Fragment.placed parameter).append (filled rest parameters) := by
  simp [filled, refill_placeholder isPlaceholder, characters, Statement.append,
    Parameter.placed_eq]

end PlaceholderToken

/-! ## Placed parameters -/

theorem Statement.append_assoc (first second third : Statement) :
    (first.append second).append third = first.append (second.append third) := by
  simp [append, String.append_assoc]

namespace Fragment

open PlaceholderToken (misfits refill filled)

/-- Placing behind a statement fails where placing does, and otherwise puts what is placed behind
the statement. -/
theorem placeOnto_place (tokens : List PlaceholderToken) :
    ∀ (written : Statement) (position : Nat) (parameters : List Parameter),
      match place position tokens parameters with
      | .ok statement =>
        placeOnto written position tokens parameters = (written.append statement, .ok ())
      | .error failure => (placeOnto written position tokens parameters).2 = .error failure := by
  induction tokens with
  | nil =>
      intro written position parameters
      simp [place, placeOnto, Statement.append, Statement.empty]
  | cons token rest inductionHypothesis =>
      intro written position parameters
      have behind (own : Statement) (later : List Parameter) :
          match (place (position + 1) rest later).map own.append with
          | .ok statement =>
            placeOnto (written.append own) (position + 1) rest later =
              (written.append statement, .ok ())
          | .error failure =>
            (placeOnto (written.append own) (position + 1) rest later).2 = .error failure := by
        have found := inductionHypothesis (written.append own) (position + 1) later
        cases placed : place (position + 1) rest later with
        | ok statement =>
            rw [placed] at found
            exact found.trans (by rw [Statement.append_assoc])
        | error failure =>
            rw [placed] at found
            exact found
      cases token with
      | text characters => exact behind _ _
      | value =>
          cases parameters with
          | nil => rfl
          | cons parameter later => exact behind _ _
      | identifier =>
          cases parameters with
          | nil => rfl
          | cons parameter later =>
              cases parameter with
              | value | list => rfl
              | identifier name => exact behind _ _

/-- With one parameter for each placeholder, only the first misfit makes placing fail. -/
theorem place_eq (tokens : List PlaceholderToken) :
    ∀ (position : Nat) (parameters : List Parameter),
      tokens.countP PlaceholderToken.isPlaceholder = parameters.length →
        place position tokens parameters =
          match (misfits tokens parameters).head? with
          | some offset => .error (.invalidPlaceholder (position + offset))
          | none => .ok (filled tokens parameters) := by
  induction tokens with
  | nil =>
      intro position parameters counted
      obtain rfl := List.length_eq_zero_iff.mp counted.symm
      rw [PlaceholderToken.filled_nil]
      rfl
  | cons token rest inductionHypothesis =>
      intro position parameters counted
      rw [List.countP_cons] at counted
      have behind {own : Statement} {later : List Parameter}
          (counted : rest.countP PlaceholderToken.isPlaceholder = later.length) :
          (place (position + 1) rest later).map own.append =
            match ((misfits rest later).map (· + 1)).head? with
            | some offset => .error (.invalidPlaceholder (position + offset))
            | none => .ok (own.append (filled rest later)) := by
        rw [inductionHypothesis (position + 1) later counted, List.head?_map]
        cases (misfits rest later).head? with
        | none => rfl
        | some offset => simp [Except.map, Nat.add_assoc, Nat.add_comm 1]
      cases token with
      | text characters =>
          rw [place, PlaceholderToken.misfits_text, PlaceholderToken.filled_text]
          exact behind counted
      | value =>
          cases parameters with
          | nil => simp [PlaceholderToken.isPlaceholder] at counted
          | cons parameter later =>
              rw [place, PlaceholderToken.misfits_placeholder rfl,
                PlaceholderToken.filled_placeholder rfl]
              exact behind (Nat.succ.inj counted)
      | identifier =>
          cases parameters with
          | nil => simp [PlaceholderToken.isPlaceholder] at counted
          | cons parameter later =>
              rw [PlaceholderToken.misfits_placeholder rfl, PlaceholderToken.filled_placeholder rfl]
              cases parameter with
              | value | list =>
                  -- The placeholder is itself the first misfit.
                  rfl
              | identifier name => exact behind (Nat.succ.inj counted)

theorem expand_eq (fragment : Fragment) :
    fragment.expand =
      if fragment.placeholders.length ≠ fragment.parameters.length then
        .error (.parameterCount fragment.placeholders.length fragment.parameters.length)
      else place 0 fragment.tokens fragment.parameters := by
  rw [placeholders, ← List.countP_eq_length_filter]
  rfl

/-- An expression is written behind a statement as what it expands to. -/
theorem map_expand (fragment : Fragment) (written : Statement) :
    fragment.expand.map written.append =
      (fragment.expandOnto written).2.map fun _ => (fragment.expandOnto written).1 := by
  have behind := placeOnto_place fragment.tokens written 0 fragment.parameters
  rw [expand_eq, expandOnto]
  split
  · rfl
  · cases placed : place 0 fragment.tokens fragment.parameters with
    | ok statement =>
        rw [placed] at behind
        rw [behind]
        rfl
    | error failure =>
        rw [placed] at behind
        rw [behind]
        rfl

/-- With another number of parameters than placeholders, expanding fails and writes nothing.
Otherwise it fails exactly at the first misfit, and without one it writes the expression with the
texts of the parameters in the places of its placeholders and binds their values.  The places are
those of the tokens, which are the expression again with their own placeholders. -/
theorem expandOnto_exact (fragment : Fragment) (written : Statement) :
    (fragment.placeholders.length ≠ fragment.parameters.length →
      fragment.expandOnto written =
        (written,
          .error (.parameterCount fragment.placeholders.length fragment.parameters.length))) ∧
      (fragment.placeholders.length = fragment.parameters.length →
        (∀ position,
          (fragment.expandOnto written).2 = .error (.invalidPlaceholder position) ↔
            (misfits fragment.tokens fragment.parameters).head? = some position) ∧
          (misfits fragment.tokens fragment.parameters = [] →
            fragment.expandOnto written =
              (written.append (filled fragment.tokens fragment.parameters), .ok ()))) ∧
        (refill fragment.tokens fragment.placeholders = fragment.tokens ∧
          fragment.tokens.flatMap PlaceholderToken.characters = fragment.expression.toList) ∧
          fragment.expand.map written.append =
            (fragment.expandOnto written).2.map fun _ => (fragment.expandOnto written).1 := by
  refine ⟨fun uncounted => if_pos uncounted, fun counted => ?_, ⟨?_, ?_⟩,
    fragment.map_expand written⟩
  · have onto : fragment.expandOnto written =
        placeOnto written 0 fragment.tokens fragment.parameters :=
      if_neg (not_not_intro counted)
    have behind := placeOnto_place fragment.tokens written 0 fragment.parameters
    rw [placeholders, ← List.countP_eq_length_filter] at counted
    rw [place_eq fragment.tokens 0 fragment.parameters counted] at behind
    rw [onto]
    cases first : (misfits fragment.tokens fragment.parameters).head? with
    | none =>
        rw [first] at behind
        refine ⟨fun position => ?_, fun _ => behind⟩
        simp [behind]
    | some offset =>
        rw [first] at behind
        refine ⟨fun position => ?_, fun fits => ?_⟩
        · simp [behind]
        · simp [fits] at first
  · exact PlaceholderToken.refill_filter fragment.tokens
  · exact PlaceholderToken.flatMap_tokensFrom false [] fragment.expression.toList

/-- A list and a name in front of a literal; then two name placeholders with a value for the
second; then a placeholder without a parameter. -/
theorem expandOnto_cases :
    (Fragment.mk "?name IN (?) AND note = 'why?'"
        [.identifier "p.id", .list [.integer 1, .integer 2]]).expandOnto ⟨"SELECT ", []⟩ =
      (⟨"SELECT \"p\".\"id\" IN (?, ?) AND note = 'why?'", [.integer 1, .integer 2]⟩, .ok ()) ∧
      ((Fragment.mk "?name < ?name" [.identifier "a", .value (.integer 1)]).expandOnto
        .empty).2 = .error (.invalidPlaceholder 2) ∧
        (Fragment.mk "a = ?" []).expandOnto ⟨"x", []⟩ =
          (⟨"x", []⟩, .error (.parameterCount 1 0)) := by
  refine ⟨?_, ?_, ?_⟩
  · have fits := ((expandOnto_exact
      ⟨"?name IN (?) AND note = 'why?'",
        [.identifier "p.id", .list [.integer 1, .integer 2]]⟩ ⟨"SELECT ", []⟩).2.1
          (by decide +kernel)).2 (by decide +kernel)
    rw [fits]
    decide +kernel
  · exact (((expandOnto_exact ⟨"?name < ?name", [.identifier "a", .value (.integer 1)]⟩
      .empty).2.1 (by decide +kernel)).1 2).mpr (by decide +kernel)
  · have uncounted := (expandOnto_exact ⟨"a = ?", []⟩ ⟨"x", []⟩).1 (by decide +kernel)
    rw [uncounted]
    decide +kernel

end Fragment

end TableGraph
