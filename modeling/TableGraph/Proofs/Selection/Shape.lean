import TableGraph.Proofs.Condition.Meaning
import TableGraph.Proofs.Selection.Template

/-!
# Shapes of requests

What the arguments of a field decide about the text of a statement is their shape:
which columns are tested, how, and how many values are bound in lists, but not
the values.  A shape is written by a fixed grammar, whose statements consist of
fixed lexemes, parameter marks, numbers and names.

The main statements are that no lexeme of such a statement is continued by the next
one, `fits_fetching` and `fits_counting`, and that its names are those of the table and
of the columns, `names_fetching` and `names_counting`.
-/

namespace TableGraph

/-! ## Tests -/

/-- A test of a column in a statement, with the number of values bound in a list. -/
structure Test where
  column : String
  comparator : Comparator
  listed : Nat
  deriving DecidableEq, Repr

/-- What is written between a column and the values it is compared with. -/
def Comparator.pieces : Comparator → List FixedLexeme
  | .equal => [.blank, .relation .equal, .blank]
  | .notEqual => [.blank, .relation .notEqual, .blank]
  | .lessThan => [.blank, .relation .less, .blank]
  | .lessThanEqual => [.blank, .relation .lessEqual, .blank]
  | .moreThan => [.blank, .relation .greater, .blank]
  | .moreThanEqual => [.blank, .relation .greaterEqual, .blank]
  | .like => [.blank, .keyword .like, .blank]
  | .notLike => [.blank, .keyword .negation, .blank, .keyword .like, .blank]
  | .isIn => [.blank, .keyword .among, .blank, .opening]
  | .notIn => [.blank, .keyword .negation, .blank, .keyword .among, .blank, .opening]
  | .null => [.blank, .keyword .is, .blank, .keyword .null]
  | .notNull => [.blank, .keyword .is, .blank, .keyword .negation, .blank, .keyword .null]

namespace Test

/-- The values of a test as they stand in a statement. -/
def valueLexemes (test : Test) : List Lexeme :=
  match test.comparator with
  | .isIn => Lexeme.marks test.listed ++ [.fixed .closing]
  | .notIn => Lexeme.marks test.listed ++ [.fixed .closing]
  | .null => []
  | .notNull => []
  | _ => [.mark]

def lexemes (test : Test) : List Lexeme :=
  .name test.column :: (Lexeme.run test.comparator.pieces ++ test.valueLexemes)

end Test

/-! ## Conditions -/

def ConditionSymbol.lexemes : ConditionSymbol Test → List Lexeme
  | .opening => Lexeme.run [.opening]
  | .closing => Lexeme.run [.closing]
  | .all => Lexeme.run [.blank, .keyword .both, .blank]
  | .any => Lexeme.run [.blank, .keyword .either, .blank]
  | .atom test => test.lexemes

/-! ## Statements -/

inductive OrderItem where
  | column (name : String) (descending : Bool)
  | random
  deriving DecidableEq, Repr

def OrderItem.lexemes : OrderItem → List Lexeme
  | .column name false => .name name :: Lexeme.run [.blank, .keyword .ascending]
  | .column name true => .name name :: Lexeme.run [.blank, .keyword .descending]
  | .random => Lexeme.run [.keyword .random, .opening, .closing]

def OrderItem.column? : OrderItem → Option String
  | .column name _ => some name
  | .random => none

/-- Lexemes of several parts with commas between them. -/
def Lexeme.separate (parts : List (List Lexeme)) : List Lexeme :=
  (parts.intersperse (Lexeme.run [.comma, .blank])).flatten

structure SelectStatement where
  table : String
  rows : Option (List (ConditionSymbol Test))
  columns : List String
  groups : Option (List (ConditionSymbol Test))
  order : List OrderItem
  limit : Option Int64
  offset : Option Int64
  deriving DecidableEq, Repr

namespace SelectStatement

/-- Keywords in front of a clause, with the blanks around them. -/
def keywords (words : List Keyword) : List Lexeme :=
  Lexeme.run (.blank :: words.flatMap fun word => [.keyword word, .blank])

def conditionClause (word : Keyword) : Option (List (ConditionSymbol Test)) → List Lexeme
  | some symbols => keywords [word] ++ symbols.flatMap ConditionSymbol.lexemes
  | none => []

def listClause (word : Keyword) (parts : List (List Lexeme)) : List Lexeme :=
  if parts.isEmpty then [] else keywords [word, .along] ++ Lexeme.separate parts

def pageClause : Option Int64 → Option Int64 → List Lexeme
  | some limit, some offset =>
    keywords [.limit] ++ .number limit.toInt :: keywords [.offset] ++ [.number offset.toInt]
  | some limit, none => keywords [.limit] ++ [.number limit.toInt]
  | none, some offset =>
    keywords [.limit] ++ .number (-1) :: keywords [.offset] ++ [.number offset.toInt]
  | none, none => []

/-- The clauses that decide which rows or groups are selected. -/
def restricting (statement : SelectStatement) : List Lexeme :=
  conditionClause .restrict statement.rows ++
    listClause .group (statement.columns.map fun column => [.name column]) ++
    conditionClause .having statement.groups

/-- The clauses that order the rows and cut them to a page. -/
def arranging (statement : SelectStatement) : List Lexeme :=
  listClause .order (statement.order.map OrderItem.lexemes) ++
    pageClause statement.limit statement.offset

def isGrouped (statement : SelectStatement) : Bool :=
  !statement.columns.isEmpty || statement.groups.isSome

/-- The rows of a table, all their columns. -/
def everything (statement : SelectStatement) : List Lexeme :=
  Lexeme.run [.keyword .select, .blank, .star, .blank, .keyword .source, .blank] ++
    [.name statement.table]

def fetching (statement : SelectStatement) : List Lexeme :=
  statement.everything ++ statement.restricting ++ statement.arranging

def counter : List Lexeme :=
  Lexeme.run [.keyword .select, .blank, .keyword .count, .opening, .star, .closing, .blank,
    .keyword .source, .blank]

/-- The statement that counts the rows, or the groups of rows. -/
def counting (statement : SelectStatement) : List Lexeme :=
  if statement.isGrouped then
    counter ++ Lexeme.run [.opening] ++ statement.everything ++ statement.restricting ++
      Lexeme.run [.closing]
  else counter ++ [.name statement.table] ++ statement.restricting

/-- Both conditions of a statement can be read by precedence. -/
def IsReadable (statement : SelectStatement) : Prop :=
  ∀ symbols, statement.rows = some symbols ∨ statement.groups = some symbols →
    ∃ formula, ConditionFormula.ofSymbols? symbols = some formula

end SelectStatement

/-! ## Lexemes that fit -/

namespace Lexeme

/-- Lexemes that can stand at a beginning. -/
def Fits (lexemes : List Lexeme) : Prop := ∃ behind, endsOpen? false lexemes = some behind

/-- Lexemes that can stand behind any others. -/
def Follows (lexemes : List Lexeme) : Prop :=
  ∀ afterOpen, ∃ behind, endsOpen? afterOpen lexemes = some behind

/-- Lexemes that can stand between any others. -/
def Separates (lexemes : List Lexeme) : Prop :=
  ∀ afterOpen, endsOpen? afterOpen lexemes = some false

theorem follows_nil : Follows [] := fun afterOpen => ⟨afterOpen, rfl⟩

theorem endsOpen?_append_of_eq {first second : List Lexeme} {afterOpen middle behind : Bool}
    (firstEnds : endsOpen? afterOpen first = some middle)
    (secondEnds : endsOpen? middle second = some behind) :
    endsOpen? afterOpen (first ++ second) = some behind := by
  rw [endsOpen?_append, firstEnds]
  exact secondEnds

theorem Fits.append {first second : List Lexeme} (fits : Fits first) (follows : Follows second) :
    Fits (first ++ second) := by
  obtain ⟨middle, firstEnds⟩ := fits
  obtain ⟨behind, secondEnds⟩ := follows middle
  exact ⟨behind, endsOpen?_append_of_eq firstEnds secondEnds⟩

theorem Follows.append {first second : List Lexeme} (firstFollows : Follows first)
    (secondFollows : Follows second) : Follows (first ++ second) := by
  intro afterOpen
  obtain ⟨middle, firstEnds⟩ := firstFollows afterOpen
  obtain ⟨behind, secondEnds⟩ := secondFollows middle
  exact ⟨behind, endsOpen?_append_of_eq firstEnds secondEnds⟩

theorem Separates.append {first second : List Lexeme} (separates : Separates first)
    (fits : Fits second) : Follows (first ++ second) := by
  intro afterOpen
  obtain ⟨behind, ends⟩ := fits
  exact ⟨behind, endsOpen?_append_of_eq (separates afterOpen) ends⟩

theorem fits_separate :
    ∀ {parts : List (List Lexeme)}, (∀ part ∈ parts, Fits part) → Fits (separate parts)
  | [], _ => ⟨false, rfl⟩
  | [only], each => by
      simpa [separate] using each only List.mem_cons_self
  | first :: second :: rest, each => by
      have later := fits_separate fun part member => each part (List.mem_cons_of_mem first member)
      have comma : Separates (run [.comma, .blank]) := by
        intro afterOpen
        cases afterOpen <;> rfl
      have joined := (each first List.mem_cons_self).append (comma.append later)
      simpa [separate] using joined

end Lexeme

open Lexeme (Fits Follows Separates)

theorem Test.fits (test : Test) : Fits test.lexemes := by
  obtain ⟨column, comparator, listed⟩ := test
  have marked :
      Lexeme.endsOpen? false (Lexeme.marks listed ++ [.fixed .closing]) = some false := by
    rw [Lexeme.endsOpen?_append, (Slot.endsOpen?_marks listed).1]
    rfl
  cases comparator with
  | isIn | notIn => exact ⟨false, marked⟩
  | _ => exact ⟨_, rfl⟩

/-- A condition that can be read fits where its first symbol stands. -/
theorem ConditionReader.endsOpen?_lexemes {symbols : List (ConditionSymbol Test)} :
    ∀ {reader final : ConditionReader Test}, reader.run symbols = some final →
      ∀ {afterOpen : Bool}, (reader.expectsOperand = true → afterOpen = false) →
        ∃ behind, Lexeme.endsOpen? afterOpen (symbols.flatMap ConditionSymbol.lexemes) =
          some behind := by
  induction symbols with
  | nil =>
      intro _ _ _ afterOpen _
      exact ⟨afterOpen, rfl⟩
  | cons head tail inductionHypothesis =>
      intro reader final reached afterOpen closed
      obtain ⟨next, stepped, continued⟩ := Option.bind_eq_some_iff.mp reached
      obtain ⟨before, behind⟩ := expectsOperand_of_step stepped
      rw [List.flatMap_cons]
      have separated :
          ∀ pieces, Separates (Lexeme.run pieces) → head.lexemes = Lexeme.run pieces →
            ∃ behind, Lexeme.endsOpen? afterOpen
              (head.lexemes ++ tail.flatMap ConditionSymbol.lexemes) = some behind := by
        intro pieces separates same
        rw [same]
        exact separates.append (inductionHypothesis continued fun _ => rfl) afterOpen
      cases head with
      | atom test =>
          obtain ⟨middle, ends⟩ := test.fits
          have notExpecting : next.expectsOperand = true → middle = false := by
            intro expecting
            rw [behind] at expecting
            cases expecting
          obtain ⟨last, tailEnds⟩ := inductionHypothesis continued notExpecting
          rw [closed before]
          exact ⟨last, Lexeme.endsOpen?_append_of_eq ends tailEnds⟩
      | opening =>
          refine separated [.opening] (fun afterOpen => ?_) rfl
          cases afterOpen <;> rfl
      | closing =>
          refine separated [.closing] (fun afterOpen => ?_) rfl
          cases afterOpen <;> rfl
      | all =>
          refine separated [.blank, .keyword .both, .blank] (fun afterOpen => ?_) rfl
          cases afterOpen <;> rfl
      | any =>
          refine separated [.blank, .keyword .either, .blank] (fun afterOpen => ?_) rfl
          cases afterOpen <;> rfl

theorem ConditionFormula.fits_of_ofSymbols? {symbols : List (ConditionSymbol Test)}
    {formula : ConditionFormula Test} (readAs : ConditionFormula.ofSymbols? symbols = some formula) :
    Fits (symbols.flatMap ConditionSymbol.lexemes) := by
  obtain ⟨final, reached, _⟩ := ConditionReader.exists_run_of_ofSymbols? readAs
  exact ConditionReader.endsOpen?_lexemes reached fun _ => rfl

namespace SelectStatement

theorem separates_keywords (words : List Keyword) : Separates (keywords words) := by
  intro afterOpen
  have behindBlank :
      Lexeme.endsOpen? false (Lexeme.run (words.flatMap fun word => [.keyword word, .blank])) =
        some false := by
    induction words with
    | nil => rfl
    | cons head tail inductionHypothesis => exact inductionHypothesis
  cases afterOpen <;> exact behindBlank

theorem follows_conditionClause (word : Keyword) {condition : Option (List (ConditionSymbol Test))}
    (readable : ∀ symbols, condition = some symbols →
      ∃ formula, ConditionFormula.ofSymbols? symbols = some formula) :
    Follows (conditionClause word condition) := by
  cases condition with
  | none => exact Lexeme.follows_nil
  | some symbols =>
      obtain ⟨formula, readAs⟩ := readable symbols rfl
      exact (separates_keywords [word]).append (ConditionFormula.fits_of_ofSymbols? readAs)

theorem follows_listClause (word : Keyword) {parts : List (List Lexeme)}
    (each : ∀ part ∈ parts, Fits part) : Follows (listClause word parts) := by
  unfold listClause
  split
  · exact Lexeme.follows_nil
  · exact (separates_keywords [word, .along]).append (Lexeme.fits_separate each)

theorem follows_pageClause (limit offset : Option Int64) : Follows (pageClause limit offset) := by
  intro afterOpen
  cases limit <;> cases offset <;> cases afterOpen <;> exact ⟨_, rfl⟩

theorem follows_restricting {statement : SelectStatement} (readable : statement.IsReadable) :
    Follows statement.restricting := by
  have rows := follows_conditionClause .restrict fun symbols present =>
    readable symbols (Or.inl present)
  have groups := follows_conditionClause .having fun symbols present =>
    readable symbols (Or.inr present)
  have columns :
      Follows (listClause .group (statement.columns.map fun column => [.name column])) := by
    refine follows_listClause .group fun part member => ?_
    obtain ⟨column, _, rfl⟩ := List.mem_map.mp member
    exact ⟨true, rfl⟩
  exact (rows.append columns).append groups

theorem follows_arranging (statement : SelectStatement) : Follows statement.arranging := by
  refine (follows_listClause .order fun part member => ?_).append (follows_pageClause _ _)
  obtain ⟨term, _, rfl⟩ := List.mem_map.mp member
  cases term with
  | column name descending => cases descending <;> exact ⟨true, rfl⟩
  | random => exact ⟨false, rfl⟩

theorem fits_everything (statement : SelectStatement) : Fits statement.everything := ⟨true, rfl⟩

theorem fits_fetching {statement : SelectStatement} (readable : statement.IsReadable) :
    Fits statement.fetching :=
  (statement.fits_everything.append (follows_restricting readable)).append
    statement.follows_arranging

theorem fits_counting {statement : SelectStatement} (readable : statement.IsReadable) :
    Fits statement.counting := by
  have restricting := follows_restricting readable
  have beginning : Fits (counter ++ Lexeme.run [.opening] ++ statement.everything) := ⟨true, rfl⟩
  have ending : Follows (Lexeme.run [.closing]) := by
    intro afterOpen
    cases afterOpen <;> exact ⟨false, rfl⟩
  have plain : Fits (counter ++ [.name statement.table]) := ⟨true, rfl⟩
  unfold counting
  split
  · exact (beginning.append restricting).append ending
  · exact plain.append restricting

end SelectStatement

/-! ## Names -/

def Lexeme.name? : Lexeme → Option String
  | .name text => some text
  | _ => none

/-- The names among some lexemes. -/
def Lexeme.names (lexemes : List Lexeme) : List String := lexemes.filterMap Lexeme.name?

namespace Lexeme

@[simp]
theorem names_append (first second : List Lexeme) :
    names (first ++ second) = names first ++ names second :=
  List.filterMap_append

@[simp]
theorem names_run (pieces : List FixedLexeme) : names (run pieces) = [] := by
  induction pieces with
  | nil => rfl
  | cons head tail inductionHypothesis => exact inductionHypothesis

theorem names_marks : ∀ count : Nat, names (marks count) = []
  | 0 => rfl
  | 1 => rfl
  | count + 2 => names_marks (count + 1)

theorem names_separate (parts : List (List Lexeme)) :
    names (separate parts) = parts.flatMap names := by
  match parts with
  | [] => rfl
  | [only] => simp [separate]
  | first :: second :: rest =>
      have later := names_separate (second :: rest)
      have split :
          separate (first :: second :: rest) =
            first ++ (run [.comma, .blank] ++ separate (second :: rest)) := rfl
      rw [split, names_append, names_append, names_run, later]
      rfl

end Lexeme

open Lexeme (names)

theorem Test.names_lexemes (test : Test) : names test.lexemes = [test.column] := by
  have values : names test.valueLexemes = [] := by
    unfold valueLexemes
    split
    · rw [Lexeme.names_append, Lexeme.names_marks]
      rfl
    · rw [Lexeme.names_append, Lexeme.names_marks]
      rfl
    · rfl
    · rfl
    · rfl
  have split :
      test.lexemes =
        [.name test.column] ++ (Lexeme.run test.comparator.pieces ++ test.valueLexemes) := rfl
  rw [split, Lexeme.names_append, Lexeme.names_append, Lexeme.names_run, values]
  rfl

theorem ConditionSymbol.names_lexemes (symbols : List (ConditionSymbol Test)) :
    names (symbols.flatMap lexemes) = (atoms symbols).map Test.column := by
  induction symbols with
  | nil => rfl
  | cons head tail inductionHypothesis =>
      rw [List.flatMap_cons, Lexeme.names_append, inductionHypothesis, atoms_cons]
      cases head with
      | atom test => rw [lexemes, test.names_lexemes]; rfl
      | opening | closing | all | any => rw [lexemes, Lexeme.names_run]; rfl

namespace SelectStatement

theorem names_keywords (words : List Keyword) : names (keywords words) = [] :=
  Lexeme.names_run _

def tested (condition : Option (List (ConditionSymbol Test))) : List String :=
  (ClauseTree.presentAtoms condition).map Test.column

theorem names_conditionClause (word : Keyword) (condition : Option (List (ConditionSymbol Test))) :
    names (conditionClause word condition) = tested condition := by
  cases condition with
  | none => rfl
  | some symbols =>
      rw [conditionClause, Lexeme.names_append, names_keywords, ConditionSymbol.names_lexemes]
      rfl

theorem names_listClause (word : Keyword) (parts : List (List Lexeme)) :
    names (listClause word parts) = parts.flatMap names := by
  cases parts with
  | nil => rfl
  | cons first rest =>
      rw [listClause, if_neg (by simp), Lexeme.names_append, names_keywords, Lexeme.names_separate]
      rfl

theorem names_restricting (statement : SelectStatement) :
    names statement.restricting =
      tested statement.rows ++ statement.columns ++ tested statement.groups := by
  have columns :
      (statement.columns.map fun column => [Lexeme.name column]).flatMap names =
        statement.columns := by
    rw [List.flatMap_map]
    exact List.flatMap_singleton' statement.columns
  rw [restricting, Lexeme.names_append, Lexeme.names_append, names_conditionClause,
    names_listClause, names_conditionClause, columns]

theorem names_pageClause (limit offset : Option Int64) : names (pageClause limit offset) = [] := by
  cases limit <;> cases offset <;> rfl

theorem names_arranging (statement : SelectStatement) :
    names statement.arranging = statement.order.filterMap OrderItem.column? := by
  have items :
      ∀ order : List OrderItem,
        (order.map OrderItem.lexemes).flatMap names = order.filterMap OrderItem.column? := by
    intro order
    induction order with
    | nil => rfl
    | cons head tail inductionHypothesis =>
        rw [List.map_cons, List.flatMap_cons, inductionHypothesis]
        cases head with
        | column name descending => cases descending <;> rfl
        | random => rfl
  rw [arranging, Lexeme.names_append, names_listClause, names_pageClause, List.append_nil, items]

/-- The names of a statement that fetches, from left to right. -/
theorem names_fetching (statement : SelectStatement) :
    names statement.fetching =
      statement.table ::
        (tested statement.rows ++ statement.columns ++ tested statement.groups ++
          statement.order.filterMap OrderItem.column?) := by
  rw [fetching, Lexeme.names_append, Lexeme.names_append, names_restricting, names_arranging]
  rfl

/-- The names of a statement that counts, from left to right. -/
theorem names_counting (statement : SelectStatement) :
    names statement.counting =
      statement.table ::
        (tested statement.rows ++ statement.columns ++ tested statement.groups) := by
  have counterNames : names counter = [] := Lexeme.names_run _
  have everythingNames : names statement.everything = [statement.table] := rfl
  have tableNames : names [.name statement.table] = [statement.table] := rfl
  unfold counting
  split
  · simp [counterNames, everythingNames, names_restricting]
  · rw [Lexeme.names_append, Lexeme.names_append, counterNames, tableNames, names_restricting]
    rfl

end SelectStatement

end TableGraph
