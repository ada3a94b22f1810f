import Mathlib.Data.List.Forall2
import TableGraph.Selection.Fragment

/-!
# Names written out

A fragment binds names to its `?name`.  Written out, it has the names themselves in these
places, from left to right, and binds its other parameters only.  The lemmas here follow the
ways in which fragments are put together.
-/

namespace TableGraph

/-! ## Names in place of their placeholders -/

/-- The name that is written in place of `?name`. -/
def Parameter.name? : Parameter → Option String
  | .identifier name => some name
  | _ => none

/-- A text with names written in place of its `?name`, from left to right.  It is absent when
there are not as many names as places. -/
def fillNames? : List Char → List String → Option (List Char)
  | [], [] => some []
  | [], _ :: _ => none
  | '?' :: 'n' :: 'a' :: 'm' :: 'e' :: rest, name :: names =>
    (fillNames? rest names).map (name.toList ++ ·)
  | '?' :: 'n' :: 'a' :: 'm' :: 'e' :: _, [] => none
  | character :: rest, names => (fillNames? rest names).map (character :: ·)

/-- A text whose places take the names, whatever else is written behind. -/
def FillsText (template : List Char) (names : List String) (written : List Char) : Prop :=
  ∀ rest others, rest.head? ≠ some 'n' →
    fillNames? (template ++ rest) (names ++ others) =
      (fillNames? rest others).map (written ++ ·)

namespace FillsText

variable {template written other filled : List Char} {names others : List String}

theorem fillNames?_cons {character : Char} {rest : List Char}
    (apart : character ≠ '?' ∨ rest.head? ≠ some 'n') :
    fillNames? (character :: rest) names = (fillNames? rest names).map (character :: ·) := by
  rw [fillNames?]
  all_goals
    intros
    subst_vars
    simp at apart

theorem behind {text : List Char} (plain : '?' ∉ text)
    (fills : FillsText template names written) :
    FillsText (text ++ template) names (text ++ written) := by
  intro rest others restApart
  -- No character of the text begins a place, so each is passed over.
  induction text with
  | nil => exact fills rest others restApart
  | cons first later inductionHypothesis =>
      rw [List.mem_cons, not_or] at plain
      rw [List.cons_append, List.cons_append, fillNames?_cons (Or.inl (Ne.symm plain.1)),
        inductionHypothesis plain.2, Option.map_map]
      rfl

theorem nil : FillsText [] [] [] := by
  intro rest others _
  simp

theorem fixed {text : List Char} (plain : '?' ∉ text) : FillsText text [] text := by
  simpa using nil.behind plain

theorem mark : FillsText ['?'] [] ['?'] := by
  intro rest others apart
  exact fillNames?_cons (Or.inr apart)

theorem name (name : String) : FillsText "?name".toList [name] name.toList := by
  intro rest others _
  change fillNames? ('?' :: 'n' :: 'a' :: 'm' :: 'e' :: rest) (name :: others) = _
  rw [fillNames?]

theorem append (first : FillsText template names written) (second : FillsText other others filled)
    (apart : other.head? ≠ some 'n') :
    FillsText (template ++ other) (names ++ others) (written ++ filled) := by
  intro rest later restApart
  have behind : (other ++ rest).head? ≠ some 'n' := by
    cases other with
    | nil => exact restApart
    | cons character _ => exact apart
  rw [List.append_assoc, List.append_assoc, first _ _ behind, second _ _ restApart, Option.map_map]
  simp only [Function.comp_def, List.append_assoc]

theorem marked {before after : List Char} (plain : '?' ∉ before) (plainAfter : '?' ∉ after)
    (apart : after.head? ≠ some 'n') :
    FillsText (before ++ '?' :: after) [] (before ++ '?' :: after) :=
  (mark.append (fixed plainAfter) apart).behind plain

theorem fillNames?_eq (fills : FillsText template names written) :
    fillNames? template names = some written := by
  simpa [fillNames?] using fills [] [] (by simp)

end FillsText

/-! ## Fragments -/

/-- A fragment with its names written out: they stand in place of `?name`, and no name is bound
any more. -/
structure Fragment.IsWrittenOut (template written : Fragment) : Prop where
  expression : fillNames? template.expression.toList
    (template.parameters.filterMap Parameter.name?) = some written.expression.toList
  parameters : written.parameters =
    template.parameters.filter fun parameter => parameter.name?.isNone

/-- A fragment that can be written out, whatever else is written behind it. -/
structure Fragment.Fills (template written : Fragment) : Prop where
  text : FillsText template.expression.toList (template.parameters.filterMap Parameter.name?)
    written.expression.toList
  parameters : written.parameters =
    template.parameters.filter fun parameter => parameter.name?.isNone

namespace Fragment.Fills

variable {template written other filled : Fragment} {separator : String}

theorem isWrittenOut (fills : Fills template written) : template.IsWrittenOut written :=
  ⟨fills.text.fillNames?_eq, fills.parameters⟩

theorem followedBy (fills : Fills template written) {text : String} {parameters : List Parameter}
    (behind : FillsText text.toList [] text.toList) (apart : text.toList.head? ≠ some 'n')
    (values : ∀ parameter ∈ parameters, parameter.name? = none) :
    Fills (template.followedBy text parameters) (written.followedBy text parameters) where
  text := by
    have noNames : parameters.filterMap Parameter.name? = [] :=
      List.filterMap_eq_nil_iff.mpr values
    simp only [Fragment.followedBy, String.toList_append, List.filterMap_append, noNames]
    exact fills.text.append behind apart
  parameters := by
    have all : parameters.filter (fun parameter => parameter.name?.isNone) = parameters :=
      List.filter_eq_self.mpr fun parameter member => by rw [values parameter member]; rfl
    simp only [Fragment.followedBy, List.filter_append, all, fills.parameters]

theorem enclosed (fills : Fills template written) : Fills template.enclosed written.enclosed where
  text := by
    have closed := fills.text.append (.fixed (by decide : '?' ∉ [')'])) (by decide)
    rw [List.append_nil] at closed
    simpa [Fragment.enclosed] using closed.behind (by decide : '?' ∉ ['('])
  parameters := fills.parameters

/-- A text to write between fragments: without question marks, and none that continues a
placeholder. -/
def Separates (separator : String) : Prop :=
  '?' ∉ separator.toList ∧ ∃ first rest, separator.toList = first :: rest ∧ first ≠ 'n'

theorem append (separates : Separates separator) (first : Fills template written)
    (second : Fills other filled) :
    Fills (Fragment.append separator template other)
      (Fragment.append separator written filled) where
  text := by
    -- What stands behind the first fragment is the separator, which does not continue its `?`.
    obtain ⟨plain, start, rest, starts, apart⟩ := separates
    have begins : (separator.toList ++ other.expression.toList).head? ≠ some 'n' := by
      rw [starts]
      exact fun same => apart (Option.some.inj same)
    simp only [Fragment.append, String.toList_append, List.filterMap_append, List.append_assoc]
    exact first.text.append (second.text.behind plain) begins
  parameters := by
    simp only [Fragment.append, List.filter_append, first.parameters, second.parameters]

theorem foldl_append (separates : Separates separator) {templates all : List Fragment}
    (fill : List.Forall₂ Fills templates all) (first : Fills template written) :
    Fills (templates.foldl (Fragment.append separator) template)
      (all.foldl (Fragment.append separator) written) := by
  induction fill generalizing template written with
  | nil => exact first
  | cons next _ inductionHypothesis => exact inductionHypothesis (append separates first next)

theorem join? (separates : Separates separator) {templates all : List Fragment}
    (fill : List.Forall₂ Fills templates all) :
    Option.Rel Fills (Fragment.join? separator templates) (Fragment.join? separator all) := by
  cases fill with
  | nil => exact .none
  | cons first rest => exact .some (foldl_append separates rest first)

end Fragment.Fills

end TableGraph
