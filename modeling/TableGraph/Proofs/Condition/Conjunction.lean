import TableGraph.Proofs.Condition.Reading

/-!
# Reading conjunctions

Conditions that must hold together are written one behind the other, each in
parentheses when there are several.  The main statement,
`ConditionFormula.ofSymbols?_conjoin`, is that they are read as the conjunction of what
each of them is read as by itself.
-/

namespace TableGraph

/-! ## Reading behind something else -/

namespace ConditionReader

variable {Atom : Type}

/-- The reader inside more parentheses. -/
def within (reader : ConditionReader Atom) (outer : List (ReadingLevel Atom)) :
    ConditionReader Atom :=
  { reader with enclosing := reader.enclosing ++ outer }

theorem step_within {reader next : ConditionReader Atom} {symbol : ConditionSymbol Atom}
    (stepped : reader.step symbol = some next) (outer : List (ReadingLevel Atom)) :
    (reader.within outer).step symbol = some (next.within outer) := by
  obtain ⟨level, enclosing, expects⟩ := reader
  cases symbol with
  | closing =>
      cases expects with
      | true => simp [step] at stepped
      | false =>
          cases enclosing with
          | nil => simp [step] at stepped
          | cons last enclosing =>
              obtain ⟨inner, read, rfl⟩ := Option.map_eq_some_iff.mp stepped
              simp [within, step, read]
  | opening | all | any | atom =>
      cases expects <;> simp only [step, Option.some.injEq, reduceCtorEq] at stepped
      rw [← stepped]
      simp [within, step]

/-- What can be read can be read inside more parentheses. -/
theorem run_within {symbols : List (ConditionSymbol Atom)} (outer : List (ReadingLevel Atom)) :
    ∀ {reader final : ConditionReader Atom}, reader.run symbols = some final →
      (reader.within outer).run symbols = some (final.within outer) := by
  induction symbols with
  | nil =>
      intro reader final reached
      obtain rfl := Option.some.inj reached
      rfl
  | cons head tail inductionHypothesis =>
      intro reader final reached
      obtain ⟨next, stepped, continued⟩ := Option.bind_eq_some_iff.mp reached
      rw [run, step_within stepped outer, Option.bind_some]
      exact inductionHypothesis continued

/-- In parentheses a condition is one factor, whatever it consists of. -/
theorem run_enclose {symbols : List (ConditionSymbol Atom)} {formula : ConditionFormula Atom}
    (readAs : ConditionFormula.ofSymbols? symbols = some formula) (level : ReadingLevel Atom)
    (enclosing : List (ReadingLevel Atom)) :
    run ⟨level, enclosing, true⟩ (ConditionSymbol.enclose symbols) =
      some ⟨level.multiply formula, enclosing, false⟩ := by
  obtain ⟨final, reached, finished⟩ := Option.bind_eq_some_iff.mp readAs
  obtain ⟨inner, inside, expects⟩ := final
  rw [finish] at finished
  split at finished
  · rename_i complete
    obtain ⟨closed, satisfied⟩ := Bool.and_eq_true_iff.mp complete
    obtain rfl : inside = [] := List.isEmpty_iff.mp closed
    obtain rfl : expects = false := by simpa using satisfied
    have inParentheses :
        run ⟨.empty, level :: enclosing, true⟩ symbols =
          some ⟨inner, level :: enclosing, false⟩ := run_within (level :: enclosing) reached
    have formula? : inner.formula? = some formula := finished
    rw [ConditionSymbol.enclose, List.cons_append, run, step, Option.bind_some, run_append,
      inParentheses]
    simp [run, step, formula?]
  · cases finished

end ConditionReader

/-! ## Conjunctions -/

namespace ConditionSymbol

variable {Atom : Type}

/-- Conditions that must hold together, each in parentheses when there are several. -/
def conjoin : List (List (ConditionSymbol Atom)) → List (ConditionSymbol Atom)
  | [] => []
  | [only] => only
  | first :: rest => enclose first ++ rest.flatMap fun part => .all :: enclose part

theorem conjoin_map {Part : Type} (symbols : Part → List (ConditionSymbol Atom))
    (first second : Part) (others : List Part) :
    conjoin ((first :: second :: others).map symbols) =
      enclose (symbols first) ++
        (second :: others).flatMap fun part => .all :: enclose (symbols part) := by
  simp [conjoin, List.flatMap_map]

end ConditionSymbol

section Parts

variable {Atom Part : Type} {symbols : Part → List (ConditionSymbol Atom)}
  {formula : Part → ConditionFormula Atom}

/-- Factors behind others are added to them one after the other. -/
theorem ConditionReader.run_factors {parts : List Part}
    (readAs : ∀ part ∈ parts, ConditionFormula.ofSymbols? (symbols part) = some (formula part)) :
    ∀ factors : ConditionFormula Atom,
      run ⟨⟨none, some factors⟩, [], false⟩
          (parts.flatMap fun part => .all :: ConditionSymbol.enclose (symbols part)) =
        some ⟨⟨none, some ((parts.map formula).foldl .both factors)⟩, [], false⟩ := by
  induction parts with
  | nil => exact fun _ => rfl
  | cons head tail inductionHypothesis =>
      intro factors
      have headReads := readAs head List.mem_cons_self
      have tailReads := inductionHypothesis fun part member =>
        readAs part (List.mem_cons_of_mem head member)
      rw [List.flatMap_cons, List.cons_append, run, step, Option.bind_some, run_append,
        run_enclose headReads, Option.bind_some]
      exact tailReads (.both factors (formula head))

/-- Conditions that must hold together are read as the conjunction of what each of
them is read as. -/
theorem ConditionFormula.ofSymbols?_conjoin {first : Part} {rest : List Part}
    (readAs : ∀ part ∈ first :: rest, ofSymbols? (symbols part) = some (formula part)) :
    ofSymbols? (ConditionSymbol.conjoin ((first :: rest).map symbols)) =
      some ((rest.map formula).foldl .both (formula first)) := by
  have firstReads := readAs first List.mem_cons_self
  cases rest with
  | nil => exact firstReads
  | cons second others =>
      have factors := ConditionReader.run_factors
        (fun part member => readAs part (List.mem_cons_of_mem first member)) (formula first)
      have enclosed := ConditionReader.run_enclose firstReads .empty []
      have started :
          (ReadingLevel.empty.multiply (formula first) : ReadingLevel Atom) =
            ⟨none, some (formula first)⟩ := rfl
      rw [ofSymbols?, ConditionSymbol.conjoin_map, ConditionReader.run_append,
        ConditionReader.start, enclosed, Option.bind_some, started, factors]
      rfl

end Parts

/-- A conjunction is true only when each of its factors is. -/
theorem ConditionFormula.isTrue_foldl_both {Atom : Type} (assignment : Atom → Truth)
    (formulas : List (ConditionFormula Atom)) (first : ConditionFormula Atom) :
    (formulas.foldl .both first).isTrue assignment =
      (first.isTrue assignment && formulas.all (ConditionFormula.isTrue assignment)) := by
  induction formulas generalizing first with
  | nil => simp
  | cons head tail inductionHypothesis =>
      rw [List.foldl_cons, inductionHypothesis, ConditionReader.isTrue_both, List.all_cons,
        Bool.and_assoc]

end TableGraph
