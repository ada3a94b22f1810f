import TableGraph.Proofs.Condition.Tree
import TableGraph.Truth

/-!
# Reading conditions by precedence

A written condition is cut into symbols, each atom's own text being one symbol,
and the symbols are read as SQL reads them: `AND` binds more tightly than `OR`,
and parentheses group.

The main statement is `ConditionFormula.read?_spell`: the symbols of a condition that
can be read are found again in its text.  `Multiplies` and `Offers` say what reading some
symbols adds to the condition that is being read.
-/

namespace TableGraph

/-! ## Formulas -/

/-- A condition with its connectives applied. -/
inductive ConditionFormula (Atom : Type) where
  | atom (content : Atom)
  | both (left right : ConditionFormula Atom)
  | either (left right : ConditionFormula Atom)
  deriving DecidableEq, Repr

/-- The truth value of a formula in three-valued logic. -/
def ConditionFormula.truth {Atom : Type} (assignment : Atom → Truth) :
    ConditionFormula Atom → Truth
  | .atom content => assignment content
  | .both left right => Truth.both (left.truth assignment) (right.truth assignment)
  | .either left right => Truth.either (left.truth assignment) (right.truth assignment)

def ConditionFormula.isTrue {Atom : Type} (assignment : Atom → Truth)
    (formula : ConditionFormula Atom) : Bool :=
  (formula.truth assignment).holds

namespace Truth

theorem holds_both (left right : Truth) :
    (both left right).holds = (left.holds && right.holds) := by
  cases left with
  | none => cases right with
    | none => rfl
    | some value => cases value <;> rfl
  | some value =>
      cases value <;> cases right with
      | none => rfl
      | some value => cases value <;> rfl

theorem holds_either (left right : Truth) :
    (either left right).holds = (left.holds || right.holds) := by
  cases left with
  | none => cases right with
    | none => rfl
    | some value => cases value <;> rfl
  | some value =>
      cases value <;> cases right with
      | none => rfl
      | some value => cases value <;> rfl

end Truth

/-! ## Reading symbols -/

/-- A level of parentheses that is being read: the alternatives before the last
`OR`, and the factors behind it. -/
structure ReadingLevel (Atom : Type) where
  alternatives : Option (ConditionFormula Atom)
  factors : Option (ConditionFormula Atom)
  deriving DecidableEq, Repr

namespace ReadingLevel

variable {Atom : Type}

def empty : ReadingLevel Atom := ⟨none, none⟩

def multiply (level : ReadingLevel Atom) (operand : ConditionFormula Atom) : ReadingLevel Atom :=
  match level.factors with
  | some factors => { level with factors := some (.both factors operand) }
  | none => { level with factors := some operand }

def formula? (level : ReadingLevel Atom) : Option (ConditionFormula Atom) :=
  match level.alternatives, level.factors with
  | some alternatives, some factors => some (.either alternatives factors)
  | some alternatives, none => some alternatives
  | none, factors => factors

/-- The level behind an `OR`: its factors become an alternative. -/
def alternate (level : ReadingLevel Atom) : ReadingLevel Atom := ⟨level.formula?, none⟩

end ReadingLevel

/-- A condition that is being read. -/
structure ConditionReader (Atom : Type) where
  level : ReadingLevel Atom
  enclosing : List (ReadingLevel Atom)
  expectsOperand : Bool
  deriving DecidableEq, Repr

namespace ConditionSymbol

variable {Atom : Type}

def opensOperand : ConditionSymbol Atom → Bool
  | .opening => true
  | .atom _ => true
  | _ => false

def expectsOperand : ConditionSymbol Atom → Bool
  | .closing => false
  | .atom _ => false
  | _ => true

end ConditionSymbol

namespace ConditionReader

variable {Atom : Type}

def start : ConditionReader Atom := ⟨.empty, [], true⟩

/-- Read one symbol.  Operands and what stands between them must alternate. -/
def step : ConditionReader Atom → ConditionSymbol Atom → Option (ConditionReader Atom)
  | ⟨level, enclosing, true⟩, .atom content =>
    some ⟨level.multiply (.atom content), enclosing, false⟩
  | ⟨level, enclosing, true⟩, .opening => some ⟨.empty, level :: enclosing, true⟩
  | ⟨level, outer :: enclosing, false⟩, .closing =>
    level.formula?.map fun inner => ⟨outer.multiply inner, enclosing, false⟩
  | ⟨level, enclosing, false⟩, .all => some ⟨level, enclosing, true⟩
  | ⟨level, enclosing, false⟩, .any => some ⟨level.alternate, enclosing, true⟩
  | _, _ => none

def run (reader : ConditionReader Atom) :
    List (ConditionSymbol Atom) → Option (ConditionReader Atom)
  | [] => some reader
  | symbol :: rest => (reader.step symbol).bind fun next => next.run rest

/-- What was read, when all parentheses are closed and no operand is missing. -/
def finish (reader : ConditionReader Atom) : Option (ConditionFormula Atom) :=
  if reader.enclosing.isEmpty && !reader.expectsOperand then reader.level.formula? else none

end ConditionReader

/-- The formula that some symbols are read as. -/
def ConditionFormula.ofSymbols? {Atom : Type} (symbols : List (ConditionSymbol Atom)) :
    Option (ConditionFormula Atom) :=
  (ConditionReader.start.run symbols).bind ConditionReader.finish

/-! ## Cutting a text into symbols -/

namespace ConditionSymbol

variable {Atom : Type}

def beginsWith (text : List Char) (parameters : List Parameter) (atom : Fragment) : Bool :=
  atom.expression.toList.isPrefixOf text && !atom.expression.toList.isEmpty &&
    atom.parameters.isPrefixOf parameters

/-- Cut a text into symbols.  The atoms are given in the order in which they are
expected, `skip` is the number of characters left of the symbol read last, and an
atom takes its parameters from the left. -/
def scanFrom (write : Atom → Fragment) (expectsOperand : Bool) (skip : Nat) (atoms : List Atom)
    (parameters : List Parameter) : List Char → Option (List (ConditionSymbol Atom))
  | [] =>
    if !expectsOperand && skip == 0 && atoms.isEmpty && parameters.isEmpty then some [] else none
  | character :: rest =>
    match skip, expectsOperand, atoms with
    | skip + 1, _, _ => scanFrom write expectsOperand skip atoms parameters rest
    | 0, true, [] =>
      if character = '(' then
        (scanFrom write true 0 [] parameters rest).map (.opening :: ·)
      else none
    | 0, true, next :: later =>
      if beginsWith (character :: rest) parameters (write next) then
        (scanFrom write false ((write next).expression.toList.length - 1) later
          (parameters.drop (write next).parameters.length) rest).map (.atom next :: ·)
      else if character = '(' then
        (scanFrom write true 0 atoms parameters rest).map (.opening :: ·)
      else none
    | 0, false, _ =>
      if character = ')' then
        (scanFrom write false 0 atoms parameters rest).map (.closing :: ·)
      else if [' ', 'A', 'N', 'D', ' '].isPrefixOf (character :: rest) then
        (scanFrom write true 4 atoms parameters rest).map (.all :: ·)
      else if [' ', 'O', 'R', ' '].isPrefixOf (character :: rest) then
        (scanFrom write true 3 atoms parameters rest).map (.any :: ·)
      else none

end ConditionSymbol

/-- The formula that a written condition is read as, its atoms being given from
left to right. -/
def ConditionFormula.read? {Atom : Type} (write : Atom → Fragment) (atoms : List Atom)
    (fragment : Fragment) : Option (ConditionFormula Atom) :=
  (ConditionSymbol.scanFrom write true 0 atoms fragment.parameters fragment.expression.toList).bind
    ConditionFormula.ofSymbols?

/-! ## Symbols are found again -/

namespace ConditionReader

variable {Atom : Type}

theorem run_append (reader : ConditionReader Atom) (first second : List (ConditionSymbol Atom)) :
    reader.run (first ++ second) = (reader.run first).bind fun middle => middle.run second := by
  induction first generalizing reader with
  | nil => rfl
  | cons head tail inductionHypothesis =>
      simp only [List.cons_append, run]
      cases reader.step head with
      | none => rfl
      | some next => exact inductionHypothesis next

/-- A symbol that can be read stands where its kind belongs, and decides what is
expected behind it. -/
theorem expectsOperand_of_step {reader next : ConditionReader Atom} {symbol : ConditionSymbol Atom}
    (stepped : reader.step symbol = some next) :
    reader.expectsOperand = symbol.opensOperand ∧ next.expectsOperand = symbol.expectsOperand := by
  obtain ⟨level, enclosing, expects⟩ := reader
  cases symbol with
  | closing =>
      cases expects with
      | true => simp [step] at stepped
      | false =>
          cases enclosing with
          | nil => simp [step] at stepped
          | cons outer enclosing =>
              obtain ⟨inner, _, same⟩ := Option.map_eq_some_iff.mp stepped
              exact ⟨rfl, by rw [← same]; rfl⟩
  | opening | all | any | atom =>
      cases expects <;> simp only [step, Option.some.injEq, reduceCtorEq] at stepped
      exact ⟨rfl, by rw [← stepped]; rfl⟩

/-- Where an operand is expected, some opening parentheses and an atom follow. -/
theorem exists_atom_of_run {symbols : List (ConditionSymbol Atom)} :
    ∀ {reader final : ConditionReader Atom},
      reader.run symbols = some final → reader.expectsOperand = true →
        final.expectsOperand = false →
          ∃ depth atom tail,
            symbols = List.replicate depth ConditionSymbol.opening ++ .atom atom :: tail := by
  induction symbols with
  | nil =>
      intro reader final reached expecting satisfied
      simp only [run, Option.some.injEq] at reached
      rw [reached, satisfied] at expecting
      contradiction
  | cons head tail inductionHypothesis =>
      intro reader final reached expecting satisfied
      obtain ⟨next, stepped, continued⟩ := Option.bind_eq_some_iff.mp reached
      obtain ⟨before, behind⟩ := expectsOperand_of_step stepped
      rw [expecting] at before
      cases head with
      | atom content =>
          exact ⟨0, content, tail, rfl⟩
      | opening =>
          obtain ⟨depth, atom, later, shape⟩ := inductionHypothesis continued behind satisfied
          exact ⟨depth + 1, atom, later, by rw [shape]; rfl⟩
      | closing | all | any => cases before

end ConditionReader

namespace ConditionSymbol

variable {Atom : Type}

/-- A text that begins its own copy behind opening parentheses consists of such
parentheses. -/
theorem eq_opening_of_isPrefix {depth : Nat} :
    ∀ {text rest : List Char},
      text <+: List.replicate (depth + 1) '(' ++ text ++ rest →
        ∀ character ∈ text, character = '('
  | [], _, _ => by simp
  | head :: tail, rest, isPrefix => by
      rw [List.replicate_succ, List.cons_append, List.cons_append, List.cons_prefix_cons]
        at isPrefix
      obtain ⟨headOpening, tailPrefix⟩ := isPrefix
      have shifted : tail <+: List.replicate (depth + 1) '(' ++ tail ++ rest := by
        rw [List.replicate_succ', ← headOpening]
        simpa [headOpening] using tailPrefix
      intro character member
      rcases List.mem_cons.mp member with rfl | later
      · exact headOpening
      · exact eq_opening_of_isPrefix shifted character later

/-- An atom whose text is no run of opening parentheses. -/
def IsDistinct (atom : Fragment) : Prop := ∃ character ∈ atom.expression.toList, character ≠ '('

theorem beginsWith_self {atom : Fragment} (distinct : IsDistinct atom) (text : List Char)
    (parameters : List Parameter) :
    beginsWith (atom.expression.toList ++ text) (atom.parameters ++ parameters) atom = true := by
  obtain ⟨character, member, _⟩ := distinct
  have nonempty : atom.expression.toList ≠ [] := List.ne_nil_of_mem member
  simp [beginsWith, nonempty]

theorem toList_spell_cons (write : Atom → Fragment) (head : ConditionSymbol Atom)
    (tail : List (ConditionSymbol Atom)) :
    (spell write (head :: tail)).expression.toList =
      (head.written write).expression.toList ++ (spell write tail).expression.toList := by
  simp [spell, Fragment.followedBy]

theorem toList_spell_replicate_opening (write : Atom → Fragment) (depth : Nat)
    (tail : List (ConditionSymbol Atom)) :
    (spell write (List.replicate depth .opening ++ tail)).expression.toList =
      List.replicate depth '(' ++ (spell write tail).expression.toList := by
  induction depth with
  | zero => rfl
  | succ depth inductionHypothesis =>
      rw [List.replicate_succ, List.cons_append, toList_spell_cons, inductionHypothesis]
      simp [written, List.replicate_succ]

theorem atoms_replicate_opening (depth : Nat) (tail : List (ConditionSymbol Atom)) :
    atoms (List.replicate depth .opening ++ tail) = atoms tail := by
  induction depth with
  | zero => rfl
  | succ depth inductionHypothesis =>
      rw [List.replicate_succ, List.cons_append, ← inductionHypothesis]
      rfl

/-- Behind an opening parenthesis no atom begins too early. -/
theorem beginsWith_opening {write : Atom → Fragment} {symbols : List (ConditionSymbol Atom)}
    {depth : Nat} {atom : Atom} {tail : List (ConditionSymbol Atom)}
    (shape : symbols = List.replicate depth ConditionSymbol.opening ++ .atom atom :: tail)
    (distinct : IsDistinct (write atom)) (parameters : List Parameter) :
    beginsWith ('(' :: (spell write symbols).expression.toList) parameters (write atom) =
      false := by
  obtain ⟨character, member, isOther⟩ := distinct
  have noPrefix :
      ¬ (write atom).expression.toList <+: '(' :: (spell write symbols).expression.toList := by
    intro isPrefix
    rw [shape, toList_spell_replicate_opening, toList_spell_cons, ← List.cons_append,
      ← List.replicate_succ, ← List.append_assoc] at isPrefix
    exact isOther (eq_opening_of_isPrefix isPrefix character member)
  have notPrefix := mt List.isPrefixOf_iff_prefix.mp noPrefix
  simp [beginsWith, notPrefix]

theorem scanFrom_skip (write : Atom → Fragment) (expectsOperand : Bool) (atoms : List Atom)
    (parameters : List Parameter) (skipped rest : List Char) :
    scanFrom write expectsOperand skipped.length atoms parameters (skipped ++ rest) =
      scanFrom write expectsOperand 0 atoms parameters rest := by
  induction skipped with
  | nil => rfl
  | cons head tail inductionHypothesis =>
      exact inductionHypothesis

private theorem scanFrom_atom {write : Atom → Fragment} {content : Atom}
    {tail : List (ConditionSymbol Atom)} (own : IsDistinct (write content))
    (rest : scanFrom write false 0 (atoms tail) (spell write tail).parameters
      (spell write tail).expression.toList = some tail) :
    scanFrom write true 0 (atoms (.atom content :: tail))
      (spell write (.atom content :: tail)).parameters
      (spell write (.atom content :: tail)).expression.toList = some (.atom content :: tail) := by
  have begins := beginsWith_self own (spell write tail).expression.toList
    (spell write tail).parameters
  rw [toList_spell_cons]
  cases text : (write content).expression.toList with
  | nil =>
      obtain ⟨character, member, _⟩ := own
      rw [text] at member
      cases member
  | cons first others =>
      rw [text, List.cons_append] at begins
      have skipped := scanFrom_skip write false (atoms tail) (spell write tail).parameters
        others (spell write tail).expression.toList
      simp only [atoms_cons, content?, Option.toList, written, text, List.nil_append,
        List.cons_append, spell, Fragment.followedBy, scanFrom, begins, if_true,
        List.length_cons, Nat.add_sub_cancel, List.drop_left, skipped]
      rw [rest]
      rfl

/-- The symbols of a readable condition are found again in its text. -/
theorem scanFrom_spell {write : Atom → Fragment} {symbols : List (ConditionSymbol Atom)} :
    ∀ {reader final : ConditionReader Atom},
      reader.run symbols = some final → final.expectsOperand = false →
        (∀ atom ∈ atoms symbols, IsDistinct (write atom)) →
          scanFrom write reader.expectsOperand 0 (atoms symbols) (spell write symbols).parameters
            (spell write symbols).expression.toList = some symbols := by
  induction symbols with
  | nil =>
      intro reader final reached satisfied _
      simp only [ConditionReader.run, Option.some.injEq] at reached
      rw [reached, satisfied]
      rfl
  | cons head tail inductionHypothesis =>
      intro reader final reached satisfied distinct
      obtain ⟨next, stepped, continued⟩ := Option.bind_eq_some_iff.mp reached
      obtain ⟨before, behind⟩ := ConditionReader.expectsOperand_of_step stepped
      have scanned := inductionHypothesis continued satisfied
      rw [behind] at scanned
      rw [before]
      cases head with
      | atom content =>
          exact scanFrom_atom (distinct content List.mem_cons_self)
            (scanned fun atom member => distinct atom (List.mem_cons_of_mem content member))
      | opening =>
          obtain ⟨depth, atom, later, shape⟩ :=
            ConditionReader.exists_atom_of_run continued behind satisfied
          have listed : atoms tail = atom :: atoms later := by
            rw [shape, atoms_replicate_opening]
            rfl
          have begins := beginsWith_opening shape
            (distinct atom (by rw [atoms_cons, listed]; simp)) (spell write tail).parameters
          have rest := scanned distinct
          rw [listed] at rest
          simpa [toList_spell_cons, atoms_cons, content?, scanFrom, listed, begins, opensOperand,
            expectsOperand, written, spell, Fragment.followedBy] using rest
      | closing =>
          simpa [toList_spell_cons, atoms_cons, content?, scanFrom, opensOperand, expectsOperand,
            written, spell, Fragment.followedBy] using scanned distinct
      | all =>
          simpa [toList_spell_cons, atoms_cons, content?, scanFrom, opensOperand, expectsOperand,
            written, spell, Fragment.followedBy] using scanned distinct
      | any =>
          simpa [toList_spell_cons, atoms_cons, content?, scanFrom, opensOperand, expectsOperand,
            written, spell, Fragment.followedBy] using scanned distinct

end ConditionSymbol

theorem ConditionReader.exists_run_of_ofSymbols? {Atom : Type}
    {symbols : List (ConditionSymbol Atom)} {formula : ConditionFormula Atom}
    (readAs : ConditionFormula.ofSymbols? symbols = some formula) :
    ∃ final, ConditionReader.start.run symbols = some final ∧ final.expectsOperand = false := by
  obtain ⟨final, reached, finished⟩ := Option.bind_eq_some_iff.mp readAs
  refine ⟨final, reached, ?_⟩
  rw [ConditionReader.finish] at finished
  cases expecting : final.expectsOperand with
  | false => rfl
  | true => simp [expecting] at finished

/-- Written symbols are read as the symbols themselves are. -/
theorem ConditionFormula.read?_spell {Atom : Type} {write : Atom → Fragment}
    {symbols : List (ConditionSymbol Atom)} {formula : ConditionFormula Atom}
    (readAs : ConditionFormula.ofSymbols? symbols = some formula)
    (distinct : ∀ atom ∈ ConditionSymbol.atoms symbols, ConditionSymbol.IsDistinct (write atom)) :
    ConditionFormula.read? write (ConditionSymbol.atoms symbols)
      (ConditionSymbol.spell write symbols) = some formula := by
  obtain ⟨final, reached, satisfied⟩ := ConditionReader.exists_run_of_ofSymbols? readAs
  have scanned := ConditionSymbol.scanFrom_spell reached satisfied distinct
  exact (congrArg (·.bind ConditionFormula.ofSymbols?) scanned).trans readAs

/-! ## What symbols are read as -/

namespace ConditionReader

variable {Atom : Type}

/-- Reading the symbols adds a factor, which is true when `value` is. -/
def Multiplies (symbols : List (ConditionSymbol Atom)) (value : (Atom → Truth) → Bool) : Prop :=
  ∀ level enclosing, ∃ factors,
    run ⟨level, enclosing, true⟩ symbols =
        some ⟨⟨level.alternatives, some factors⟩, enclosing, false⟩ ∧
      ∀ assignment, factors.isTrue assignment =
        (level.factors.all (ConditionFormula.isTrue assignment) && value assignment)

/-- Reading the symbols adds an alternative, which is true when `value` is. -/
def Offers (symbols : List (ConditionSymbol Atom)) (value : (Atom → Truth) → Bool) : Prop :=
  ∀ alternatives enclosing, ∃ level formula,
    run ⟨⟨alternatives, none⟩, enclosing, true⟩ symbols = some ⟨level, enclosing, false⟩ ∧
      level.formula? = some formula ∧
      ∀ assignment, formula.isTrue assignment =
        (alternatives.any (ConditionFormula.isTrue assignment) || value assignment)

theorem isTrue_both (assignment : Atom → Truth) (left right : ConditionFormula Atom) :
    (ConditionFormula.both left right).isTrue assignment =
      (left.isTrue assignment && right.isTrue assignment) :=
  Truth.holds_both _ _

theorem isTrue_either (assignment : Atom → Truth) (left right : ConditionFormula Atom) :
    (ConditionFormula.either left right).isTrue assignment =
      (left.isTrue assignment || right.isTrue assignment) :=
  Truth.holds_either _ _

theorem exists_multiply (level : ReadingLevel Atom) (operand : ConditionFormula Atom) :
    ∃ factors, level.multiply operand = ⟨level.alternatives, some factors⟩ ∧
      ∀ assignment, factors.isTrue assignment =
        (level.factors.all (ConditionFormula.isTrue assignment) && operand.isTrue assignment) := by
  obtain ⟨alternatives, factors⟩ := level
  cases factors with
  | none =>
      exact ⟨operand, rfl, fun assignment => rfl⟩
  | some factors =>
      exact ⟨.both factors operand, rfl, fun assignment => isTrue_both assignment factors operand⟩

theorem multiplies_atom (content : Atom) :
    Multiplies [.atom content] fun assignment => (assignment content).holds := by
  intro level enclosing
  obtain ⟨factors, multiplied, value⟩ := exists_multiply level (.atom content)
  exact ⟨factors, by simp [run, step, multiplied], value⟩

theorem Multiplies.and {first second : List (ConditionSymbol Atom)}
    {firstValue secondValue : (Atom → Truth) → Bool} (firstReads : Multiplies first firstValue)
    (secondReads : Multiplies second secondValue) :
    Multiplies (first ++ .all :: second) fun assignment =>
      firstValue assignment && secondValue assignment := by
  intro level enclosing
  obtain ⟨middle, firstRun, firstTrue⟩ := firstReads level enclosing
  obtain ⟨factors, secondRun, secondTrue⟩ :=
    secondReads ⟨level.alternatives, some middle⟩ enclosing
  refine ⟨factors, ?_, ?_⟩
  · rw [run_append, firstRun]
    simpa [run, step] using secondRun
  · intro assignment
    rw [secondTrue, Option.all_some, firstTrue, Bool.and_assoc]

theorem Offers.or {first second : List (ConditionSymbol Atom)}
    {firstValue secondValue : (Atom → Truth) → Bool} (firstReads : Offers first firstValue)
    (secondReads : Offers second secondValue) :
    Offers (first ++ .any :: second) fun assignment =>
      firstValue assignment || secondValue assignment := by
  intro alternatives enclosing
  obtain ⟨level, middle, firstRun, firstFormula, firstTrue⟩ := firstReads alternatives enclosing
  obtain ⟨last, formula, secondRun, secondFormula, secondTrue⟩ :=
    secondReads (some middle) enclosing
  refine ⟨last, formula, ?_, secondFormula, ?_⟩
  · rw [run_append, firstRun]
    simpa [run, step, ReadingLevel.alternate, firstFormula] using secondRun
  · intro assignment
    rw [secondTrue, Option.any_some, firstTrue, Bool.or_assoc]

theorem Multiplies.offers {symbols : List (ConditionSymbol Atom)}
    {value : (Atom → Truth) → Bool} (reads : Multiplies symbols value) :
    Offers symbols value := by
  intro alternatives enclosing
  obtain ⟨factors, reached, isTrue⟩ := reads ⟨alternatives, none⟩ enclosing
  cases alternatives with
  | none =>
      refine ⟨⟨none, some factors⟩, factors, reached, rfl, ?_⟩
      intro assignment
      simpa using isTrue assignment
  | some formula =>
      refine ⟨⟨some formula, some factors⟩, .either formula factors, reached, rfl, ?_⟩
      intro assignment
      rw [isTrue_either, isTrue]
      simp

/-- Parentheses make a factor of anything that can be read. -/
theorem Offers.enclose {symbols : List (ConditionSymbol Atom)}
    {value : (Atom → Truth) → Bool} (reads : Offers symbols value) :
    Multiplies (ConditionSymbol.enclose symbols) value := by
  intro level enclosing
  obtain ⟨inner, formula, reached, readAs, isTrue⟩ := reads none (level :: enclosing)
  obtain ⟨factors, multiplied, factorsTrue⟩ := exists_multiply level formula
  refine ⟨factors, ?_, ?_⟩
  · rw [ConditionSymbol.enclose, List.cons_append, run, step, Option.bind_some,
      ReadingLevel.empty, run_append, reached]
    simp [run, step, readAs, multiplied]
  · intro assignment
    rw [factorsTrue, isTrue]
    simp

theorem Offers.ofSymbols? {symbols : List (ConditionSymbol Atom)}
    {value : (Atom → Truth) → Bool} (reads : Offers symbols value) :
    ∃ formula, ConditionFormula.ofSymbols? symbols = some formula ∧
      ∀ assignment, formula.isTrue assignment = value assignment := by
  obtain ⟨level, formula, reached, readAs, isTrue⟩ := reads none []
  refine ⟨formula, ?_, ?_⟩
  · rw [ConditionFormula.ofSymbols?, start, ReadingLevel.empty, reached]
    simpa [finish] using readAs
  · intro assignment
    simpa using isTrue assignment

end ConditionReader

end TableGraph
