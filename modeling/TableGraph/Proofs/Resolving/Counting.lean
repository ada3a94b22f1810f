import Mathlib
import TableGraph.Proofs.Resolving.Reached

/-!
# Lists and counts

A field that counts takes the same rows as the field that lists them: both refuse the
same conditions, and the count is executed on the selection that the list reaches
without order and page.  The main statement, `count_agrees_with_list`, adds what
the two statements have in common.
-/

namespace TableGraph

/-! ## Statements -/

namespace TableSelection

variable {selection : TableSelection}

/-- The statement of a count beside that of a list: both fail alike, or bind the same
values and have the same text behind the head, which stands in parentheses when
the rows are grouped. -/
def CountsAs (grouped : Bool) (listed counted : Except StoreFailure Statement) : Prop :=
  (∀ failure, listed = .error failure ↔ counted = .error failure) ∧
    ∀ statement, listed = .ok statement →
      ∃ rest, statement.text = "SELECT * FROM " ++ rest ∧
        counted = .ok
          ⟨if grouped then "SELECT COUNT(*) FROM (" ++ statement.text ++ ")"
            else "SELECT COUNT(*) FROM " ++ rest, statement.binds⟩

/-- A statement with a text in front and another one behind. -/
private theorem expandPieces_cons_text (opening closing : String) (pieces : List Piece) :
    ((expandPieces (.text opening :: pieces)).map fun statement =>
        statement.append ⟨closing, []⟩) =
      (expandPieces pieces).map fun rest => ⟨opening ++ rest.text ++ closing, rest.binds⟩ := by
  cases expands : expandPieces pieces with
  | error failure => simp [expandPieces, expands, Piece.expand, Except.bind, Except.map]
  | ok rest => simp [expandPieces, expands, Piece.expand, Except.bind, Except.map, Statement.append]

theorem render_rows (unarranged : selection.arrangingPieces = []) :
    selection.render .rows =
      (expandPieces selection.restrictingPieces).map fun rest =>
        ⟨selection.opening .rows ++ rest.text ++ selection.closing .rows, rest.binds⟩ := by
  have pieces :
      selection.pieces .rows = .text (selection.opening .rows) :: selection.restrictingPieces := by
    simp [TableSelection.pieces, unarranged]
  rw [render, pieces, expandPieces_cons_text]

theorem render_count (expression : String) :
    selection.render (.count expression) =
      (expandPieces selection.restrictingPieces).map fun rest =>
        ⟨selection.opening (.count expression) ++ rest.text ++
          selection.closing (.count expression), rest.binds⟩ := by
  have pieces :
      selection.pieces (.count expression) =
        .text (selection.opening (.count expression)) :: selection.restrictingPieces := by
    simp [TableSelection.pieces]
  rw [render, pieces, expandPieces_cons_text]

/-- Without order and page a selection is counted as it is listed. -/
theorem countsAs_render (unarranged : selection.arrangingPieces = []) :
    CountsAs selection.isGrouped (selection.render .rows) (selection.render (.count "*")) := by
  rw [render_rows unarranged, render_count]
  cases expandPieces selection.restrictingPieces with
  | error failure =>
      refine ⟨fun other => Iff.rfl, fun statement listed => ?_⟩
      cases listed
  | ok rest =>
      refine ⟨fun failure => ⟨fun failed => ?_, fun failed => ?_⟩, fun statement listed => ?_⟩
      · cases failed
      · cases failed
      · obtain rfl := Except.ok.inj listed
        refine ⟨String.ofList (Identifier.quote selection.table.toList) ++ rest.text, ?_, ?_⟩
        · simp [opening, closing, String.append_assoc]
        · cases grouped : selection.isGrouped with
          | true =>
              have wrapped :
                  "SELECT COUNT(*) FROM (SELECT * FROM " =
                    "SELECT COUNT(*) FROM (" ++ "SELECT * FROM " := by
                decide
              simp only [Except.map, opening, closing, grouped, if_true, String.append_assoc]
              rw [wrapped, String.append_assoc, String.empty_append]
          | false => simp [Except.map, opening, closing, grouped, String.append_assoc]

end TableSelection

/-! ## Conditions -/

namespace Compiler

variable {compiler : Compiler} {arguments : Arguments}

/-- Only conditions fail to compile. -/
theorem argumentCalls_eq_error_iff {failure : RequestError} :
    compiler.argumentCalls arguments = .error failure ↔
      compiler.conditionCalls arguments.conditions = .error failure := by
  rw [argumentCalls]
  cases compiler.conditionCalls arguments.conditions with
  | error other => exact Iff.rfl
  | ok calls =>
      constructor
      · intro failed
        cases failed
      · intro failed
        cases failed

/-- Conditions neither order rows nor cut them to a page. -/
theorem arrangingPieces_conditions {conditions : Conditions} {calls : List Narrowing}
    (compiled : compiler.argumentCalls ⟨none, [], conditions⟩ = .ok calls)
    (selection : TableSelection) :
    (calls.foldl TableSelection.narrow selection).arrangingPieces = selection.arrangingPieces := by
  rw [← conditionCalls_eq, conditionCalls] at compiled
  cases filterCompiled : compiler.clause .row conditions.rowAll conditions.rowAny with
  | error failure => simp [filterCompiled, Except.bind] at compiled
  | ok filter =>
      cases havingCompiled : compiler.clause .group conditions.groupAll conditions.groupAny with
      | error failure => simp [filterCompiled, havingCompiled, Except.bind] at compiled
      | ok having =>
          simp only [filterCompiled, havingCompiled, Except.bind, Except.ok.injEq] at compiled
          rw [← compiled]
          cases filter <;> cases having <;> cases compiler.grouping conditions.groupColumns <;> rfl

end Compiler

/-! ## Fields -/

namespace Database

variable {compiler : Compiler} {typeNames : List (String × String)} {session : Session Database}

theorem execute_fst {Answer : Type}
    (action : StateM Database (Except StoreFailure Answer × TableSelection)) :
    (Resolving.execute datastore action session).1 =
      (action session.store).1.1.mapError .execution := by
  have called :
      Resolving.call action session =
        (.ok (action session.store).1, { session with store := (action session.store).2 }) := rfl
  rw [Resolving.execute, Resolving.bind_of_ok called]
  generalize (action session.store).1 = executed
  obtain ⟨outcome, selection⟩ := executed
  cases outcome <;> rfl

theorem execute_ne_compile {Answer : Type}
    (action : StateM Database (Except StoreFailure Answer × TableSelection))
    (present : Answer → Resolved) (reason : String) :
    ((Resolving.execute datastore action >>= fun answer => pure (present answer)) session).1 ≠
      .error (.compile reason) := by
  have outcome :
      (Resolving.execute datastore action session).1 =
        (action session.store).1.1.mapError .execution := execute_fst action
  cases executed : Resolving.execute datastore action session with
  | mk result next =>
      rw [executed] at outcome
      cases result with
      | ok answer =>
          rw [Resolving.bind_of_ok executed]
          intro failed
          cases failed
      | error failure =>
          rw [Resolving.bind_of_error executed]
          intro failed
          have same : failure = .compile reason := Except.error.inj failed
          rw [same] at outcome
          cases stored : (action session.store).1.1 with
          | ok answer => simp [stored, Except.mapError] at outcome
          | error other =>
              simp [stored, Except.mapError, RequestError.execution] at outcome

/-- A field fails to compile exactly when it reaches no selection for that reason. -/
theorem Executes.compile_iff {head : TableSelection.Head}
    {resolved : Except RequestError Resolved × Session Database}
    {reached : Except RequestError (Option TableSelection)}
    (executes : Executes session head resolved reached) {reason : String} :
    resolved.1 = .error (.compile reason) ↔ reached = .error (.compile reason) := by
  cases reached with
  | error failure =>
      have failed : resolved = (.error failure, session) := executes
      rw [failed]
      simp
  | ok selection? =>
      cases selection? with
      | none =>
          obtain ⟨answer, answered⟩ := executes
          rw [answered]
          simp
      | some selection =>
          have succeeds : resolved.1 ≠ .error (.compile reason) := by
            cases head with
            | rows =>
                obtain ⟨present, fetched⟩ := executes
                rw [fetched]
                exact execute_ne_compile _ present reason
            | count expression =>
                have counted : resolved = _ := executes
                rw [counted]
                exact execute_ne_compile _ .count reason
          simp [succeeds]

/-- A kind of field that lists rows, with the kind that counts them. -/
def Counts (list count : ResolverKind) : Prop :=
  (list = .table ∧ count = .tableCount) ∨ (list = .hasMany ∧ count = .hasManyCount)

variable {list count : ResolverKind} {parent : Option Row} {settings : FieldSettings}

/-- A list and its count start from the same rows, or both lack their parent. -/
theorem opened_of_counts (counts : Counts list count) (database : Database) :
    database.opened typeNames list parent settings =
        database.opened typeNames count parent settings ∨
      ∃ reason other, database.opened typeNames list parent settings = .error (.internal reason) ∧
        database.opened typeNames count parent settings = .error (.internal other) := by
  rcases counts with ⟨rfl, rfl⟩ | ⟨rfl, rfl⟩
  · exact Or.inl rfl
  · cases parent with
    | none => exact Or.inr ⟨_, _, rfl, rfl⟩
    | some row => exact Or.inl rfl

theorem reached_compile_iff (counts : Counts list count) (database : Database)
    (arguments : Arguments) (reason : String) :
    database.reached compiler typeNames list parent arguments settings = .error (.compile reason) ↔
      database.reached compiler typeNames count parent arguments settings =
        .error (.compile reason) := by
  have applied :
      list.applied arguments = arguments ∧
        count.applied arguments = ⟨none, [], arguments.conditions⟩ := by
    rcases counts with ⟨rfl, rfl⟩ | ⟨rfl, rfl⟩ <;> exact ⟨rfl, rfl⟩
  rw [reached, reached, applied.1, applied.2]
  rcases opened_of_counts counts database with same | ⟨listReason, countReason, listFails, countFails⟩
  · rw [same]
    cases database.opened typeNames count parent settings with
    | error failure => exact Iff.rfl
    | ok opened? =>
        cases opened? with
        | none => exact Iff.rfl
        | some opened =>
            have refused :
                ∀ other : Arguments, other.conditions = arguments.conditions →
                  (narrowed compiler other (some opened) = .error (.compile reason) ↔
                    compiler.conditionCalls arguments.conditions = .error (.compile reason)) := by
              intro other same
              rw [← same, ← Compiler.argumentCalls_eq_error_iff, narrowed]
              cases compiler.argumentCalls other <;> simp [Except.map]
            exact (refused arguments rfl).trans (refused ⟨none, [], arguments.conditions⟩ rfl).symm
  · rw [listFails, countFails]
    simp [Except.bind]

/-- A count reaches what the list reaches without order and page. -/
theorem reached_count_iff (counts : Counts list count) (database : Database)
    (arguments : Arguments) (selection : TableSelection) :
    database.reached compiler typeNames count parent arguments settings = .ok (some selection) ↔
      database.reached compiler typeNames list parent ⟨none, [], arguments.conditions⟩ settings =
        .ok (some selection) := by
  have applied :
      list.applied ⟨none, [], arguments.conditions⟩ = count.applied arguments := by
    rcases counts with ⟨rfl, rfl⟩ | ⟨rfl, rfl⟩ <;> rfl
  rw [reached, reached, applied]
  rcases opened_of_counts counts database with same | ⟨listReason, countReason, listFails, countFails⟩
  · rw [same]
  · rw [listFails, countFails]
    simp [Except.bind]

/-- A list and its count refuse the same conditions for the same reason.  The count
executes what the list, without order and page, executes; its statement fails as that
of the list does, and otherwise has the same text behind the head and the same
values. -/
theorem count_agrees_with_list (counts : Counts list count) (compiler : Compiler)
    (typeNames : List (String × String)) (parent : Option Row) (arguments : Arguments)
    (settings : FieldSettings) (session : Session Database) :
    let resolve (kind : ResolverKind) (arguments : Arguments) :=
      (resolver compiler typeNames).resolve kind parent arguments settings session
    let reached (kind : ResolverKind) (arguments : Arguments) :=
      session.store.reached compiler typeNames kind parent arguments settings
    let unarranged : Arguments := { arguments with order := [], pagination := none }
    (∀ reason, (resolve list arguments).1 = .error (.compile reason) ↔
        (resolve count arguments).1 = .error (.compile reason)) ∧
      ∀ selection, (reached count arguments = .ok (some selection) ↔
          reached list unarranged = .ok (some selection)) ∧
        (reached list unarranged = .ok (some selection) →
          (∃ present : List Row → Resolved, resolve list unarranged =
            (Resolving.execute datastore (datastore.fetch selection) >>= fun rows =>
              pure (present rows)) session) ∧
          resolve count arguments =
            (Resolving.execute datastore (datastore.count selection "*") >>= fun number =>
              pure (.count number)) session ∧
          TableSelection.CountsAs (selection.group.isSome || !selection.havings.isEmpty)
            (selection.render .rows) (selection.render (.count "*"))) := by
  intro resolve reached unarranged
  have executes := fun kind arguments =>
    resolve_eq_reached compiler typeNames kind parent arguments settings session
  refine ⟨fun reason => ?_, fun selection => ⟨reached_count_iff counts _ arguments selection, ?_⟩⟩
  · rw [(executes list arguments).compile_iff, (executes count arguments).compile_iff]
    exact reached_compile_iff counts session.store arguments reason
  · intro listReaches
    have countReaches : reached count arguments = .ok (some selection) :=
      (reached_count_iff counts _ arguments selection).mpr listReaches
    have heads : list.head = .rows ∧ count.head = .count "*" := by
      rcases counts with ⟨rfl, rfl⟩ | ⟨rfl, rfl⟩ <;> exact ⟨rfl, rfl⟩
    have listed := executes list unarranged
    have counted := executes count arguments
    rw [heads.1, show session.store.reached _ _ _ _ _ _ = _ from listReaches] at listed
    rw [heads.2, show session.store.reached _ _ _ _ _ _ = _ from countReaches] at counted
    have applied : list.applied unarranged = ⟨none, [], arguments.conditions⟩ := by
      rcases counts with ⟨rfl, rfl⟩ | ⟨rfl, rfl⟩ <;> rfl
    obtain ⟨table, conditions, calls, compiled, rfl⟩ := reached_eq_ok listReaches
    rw [applied] at compiled
    exact ⟨listed, counted,
      TableSelection.countsAs_render (Compiler.arrangingPieces_conditions compiled _)⟩

/-! ### Grouped rows -/

private def keyedTable (name : String) : StoredTable :=
  ⟨⟨name, [⟨"id", "INTEGER", true, .null⟩], ["id"], [], [], true⟩, []⟩

private def people : Database :=
  { Database.empty with tables := [keyedTable "people", keyedTable "posts"] }

/-- The posts of a person by their topics, of which there must be more than one. -/
private def byTopic : Arguments where
  pagination := some ⟨some 5, none⟩
  order := [⟨some "topic", none⟩]
  conditions :=
    { Conditions.blank with
      rowAny := [⟨some "topic", some "IN", [some "a", some "b"], [], [], [], []⟩,
        ⟨some "topic", some "NULL", [], [], [], [], []⟩]
      groupAll := [⟨some "COUNT(id)", some "MORE_THAN", [some "LITERAL:1"], [], [], [], []⟩]
      groupColumns := [some "topic"] }

private def byTopicText : String :=
  "SELECT * FROM \"posts\" WHERE (\"author\" = ?) AND (topic IN (?, ?) OR topic IS NULL) " ++
    "GROUP BY topic HAVING COUNT(id) > 1"

theorem count_agrees_with_list_grouped :
    let settings := { FieldSettings.blank with
      tableName := some "posts", referencingColumn := some "author" }
    let parent := some ⟨"people", [("id", .integer 7)]⟩
    ∃ selection,
      people.reached (.new true) [] .hasManyCount parent byTopic settings = .ok (some selection) ∧
      selection.render (.count "*") =
        .ok ⟨"SELECT COUNT(*) FROM (" ++ byTopicText ++ ")",
          [.integer 7, .text "a", .text "b"]⟩ := by
  intro settings parent
  obtain ⟨selection, listReaches, grouped, listed⟩ :
      ∃ selection, people.reached (.new true) [] .hasMany parent
          { byTopic with order := [], pagination := none } settings = .ok (some selection) ∧
        selection.group.isSome = true ∧
        selection.render .rows =
          .ok ⟨byTopicText, [.integer 7, .text "a", .text "b"]⟩ := ⟨_, by cbv, by cbv, by cbv⟩
  obtain ⟨_, agrees⟩ := count_agrees_with_list (Or.inr ⟨rfl, rfl⟩) (.new true) [] parent byTopic
    settings ⟨people, ⟨none, none⟩⟩
  obtain ⟨reaches, executes⟩ := agrees selection
  obtain ⟨_, _, _, counts⟩ := executes listReaches
  obtain ⟨rest, _, counted⟩ := counts _ listed
  rw [grouped, Bool.true_or, if_pos rfl] at counted
  exact ⟨selection, reaches.mpr listReaches, counted⟩

end Database

end TableGraph
