import TableGraph.Proofs.Resolving.Reached
import TableGraph.Proofs.Sql.Equality

/-!
# Exact selections

A query asks for the rows of a table that hold some values in some columns; null is held by
no row.  A datastore selects from some contents when its selections are queries of them and
are answered by the matching rows (`Datastore.SelectsFrom`).  So does the datastore that
holds nothing but the contents (`Contents.selectsFrom_datastore`), and a database whose
statements are answered exactly (`Database.selectsFrom_datastore`).
-/

namespace TableGraph

/-! ## Equal values -/

theorem Double.sameValue_iff {left right : Double} :
    left.sameValue right = true ↔
      left.isNaN = false ∧ right.isNaN = false ∧ left.content = right.content := by
  rw [sameValue, beq_iff_eq]
  by_cases numbers : left.isNaN = false ∧ right.isNaN = false
  · rw [compare?_eq_iff numbers.1 numbers.2]
    simp [numbers]
  · have noOrder : left.compare? right = none := by
      unfold compare?
      rw [if_pos]
      rw [not_and_or, Bool.not_eq_false, Bool.not_eq_false] at numbers
      exact Bool.or_eq_true_iff.mpr numbers
    rw [noOrder]
    constructor
    · intro absurdity
      cases absurdity
    · rintro ⟨leftNumber, rightNumber, _⟩
      exact absurd ⟨leftNumber, rightNumber⟩ numbers

namespace Value

/-- Values of one kind with the same content, floats by value. -/
theorem sameAs_iff {left right : Value} :
    left.sameAs right = true ↔
      (∃ first second, left = .float first ∧ right = .float second ∧
        first.sameValue second = true) ∨ left = right ∧ ∀ number, left ≠ .float number := by
  unfold sameAs
  split
  · next first second =>
    constructor
    · intro same
      exact Or.inl ⟨first, second, rfl, rfl, same⟩
    · rintro (⟨_, _, sameFirst, sameSecond, same⟩ | ⟨_, noFloat⟩)
      · rw [float.inj sameFirst, float.inj sameSecond]
        exact same
      · exact absurd rfl (noFloat first)
  · next otherKinds =>
    rw [beq_iff_eq]
    constructor
    · intro same
      refine Or.inr ⟨same, fun number isFloat => ?_⟩
      exact otherKinds number number isFloat (same ▸ isFloat)
    · rintro (⟨first, second, isFirst, isSecond, _⟩ | ⟨same, _⟩)
      · exact absurd isSecond (otherKinds first second isFirst)
      · exact same

theorem sameAs_symm {left right : Value} (same : left.sameAs right = true) :
    right.sameAs left = true := by
  rcases sameAs_iff.mp same with ⟨first, second, rfl, rfl, same⟩ | ⟨rfl, noFloat⟩
  · obtain ⟨firstNumber, secondNumber, content⟩ := Double.sameValue_iff.mp same
    exact sameAs_iff.mpr (Or.inl ⟨second, first, rfl, rfl,
      Double.sameValue_iff.mpr ⟨secondNumber, firstNumber, content.symm⟩⟩)
  · exact sameAs_iff.mpr (Or.inr ⟨rfl, noFloat⟩)

theorem sameAs_trans {left middle right : Value} (same : left.sameAs middle = true)
    (sameToo : middle.sameAs right = true) : left.sameAs right = true := by
  rcases sameAs_iff.mp same with ⟨first, second, rfl, rfl, equal⟩ | ⟨rfl, _⟩
  · rcases sameAs_iff.mp sameToo with ⟨_, third, isSecond, rfl, equalToo⟩ | ⟨_, noFloat⟩
    · obtain rfl := float.inj isSecond
      obtain ⟨firstNumber, _, content⟩ := Double.sameValue_iff.mp equal
      obtain ⟨_, thirdNumber, contentToo⟩ := Double.sameValue_iff.mp equalToo
      exact sameAs_iff.mpr (Or.inl ⟨first, third, rfl, rfl,
        Double.sameValue_iff.mpr ⟨firstNumber, thirdNumber, content.trans contentToo⟩⟩)
    · exact absurd rfl (noFloat second)
  · exact sameToo

theorem isNull_eq_of_sameAs {left right : Value} (same : left.sameAs right = true) :
    left.isNull = right.isNull := by
  rcases sameAs_iff.mp same with ⟨_, _, rfl, rfl, _⟩ | ⟨rfl, _⟩ <;> rfl

end Value

/-! ## Rows that meet conditions -/

/-- The value of a column, null when the row does not have it. -/
def Row.valueOf (row : Row) (column : String) : Value := (row.value? column).getD .null

/-- Whether a row holds a value in a column; null is held by none. -/
def Row.holds (row : Row) (condition : String × Value) : Bool :=
  !(row.valueOf condition.1).isNull && (row.valueOf condition.1).sameAs condition.2

theorem Row.holds_iff {row : Row} {column : String} {value : Value} :
    row.holds (column, value) = true ↔
      (row.valueOf column).isNull = false ∧ (row.valueOf column).sameAs value = true := by
  rw [holds, Bool.and_eq_true, Bool.not_eq_true']

/-- A row holds a value of another exactly when the other holds the value of the row. -/
theorem Row.holds_swap {row other : Row} {column key : String} :
    row.holds (column, other.valueOf key) = true ↔
      other.holds (key, row.valueOf column) = true := by
  have swapped {first second : Row} {own foreign : String}
      (held : first.holds (own, second.valueOf foreign) = true) :
      second.holds (foreign, first.valueOf own) = true := by
    obtain ⟨present, same⟩ := holds_iff.mp held
    exact holds_iff.mpr
      ⟨(Value.isNull_eq_of_sameAs same).symm.trans present, Value.sameAs_symm same⟩
  exact ⟨swapped, swapped⟩

/-- The rows of a table that are asked for. -/
structure RowQuery where
  table : String
  conditions : List (String × Value)
  limit : Option Nat

/-- The rows of all tables with the columns that are their primary keys. -/
structure Contents where
  rows : String → List Row
  key? : String → Option String

namespace Contents

variable {contents : Contents} {query : RowQuery} {table key : String} {row parent : Row}

/-- The rows that meet every condition of a query. -/
def matching (contents : Contents) (query : RowQuery) : List Row :=
  (contents.rows query.table).filter fun row => query.conditions.all row.holds

/-- The matching rows in any order, no more than were asked for. -/
def Answers (contents : Contents) (query : RowQuery) (answer : List Row) : Prop :=
  ∃ ordered, ordered.Perm (contents.matching query) ∧
    answer = match query.limit with
      | none => ordered
      | some limit => ordered.take limit

/-- Rows are named for their table, and each table has a column that identifies its rows and
is never null. -/
structure IsKeyed (contents : Contents) : Prop where
  named : ∀ table, ∀ row ∈ contents.rows table, row.table = table
  present : ∀ table, ∀ row ∈ contents.rows table,
    ∃ key, contents.key? table = some key ∧ (row.valueOf key).isNull = false
  unique : ∀ table key, contents.key? table = some key →
    (contents.rows table).Pairwise fun first second =>
      (first.valueOf key).sameAs (second.valueOf key) = false

theorem mem_matching :
    row ∈ contents.matching query ↔
      row ∈ contents.rows query.table ∧
        ∀ condition ∈ query.conditions, row.holds condition = true := by
  rw [matching, List.mem_filter, List.all_eq_true]

theorem IsKeyed.eq_of_sameAs (keyed : contents.IsKeyed) (isKey : contents.key? table = some key)
    (isRow : row ∈ contents.rows table) (isParent : parent ∈ contents.rows table)
    (same : (row.valueOf key).sameAs (parent.valueOf key) = true) : row = parent := by
  have symmetric : Std.Symm fun first second : Row =>
      (first.valueOf key).sameAs (second.valueOf key) = true → first = second :=
    ⟨fun _ _ equal back => (equal (Value.sameAs_symm back)).symm⟩
  have apart : (contents.rows table).Pairwise fun first second =>
      (first.valueOf key).sameAs (second.valueOf key) = true → first = second :=
    (keyed.unique table key isKey).imp fun different same =>
      absurd (different.symm.trans same) (by decide)
  exact apart.forall_of_forall (fun _ _ _ => rfl) isRow isParent same

theorem Answers.mem_rows {answer : List Row} (answers : contents.Answers query answer)
    (isAnswer : row ∈ answer) : row ∈ contents.rows query.table := by
  obtain ⟨ordered, permuted, rfl⟩ := answers
  have isMatching : row ∈ contents.matching query := by
    refine permuted.subset ?_
    cases limited : query.limit with
    | none =>
        rw [limited] at isAnswer
        exact isAnswer
    | some limit =>
        rw [limited] at isAnswer
        exact List.mem_of_mem_take isAnswer
  exact (mem_matching.mp isMatching).1

/-- All matching rows are answered when there is no limit. -/
theorem Answers.mem_iff {answer : List Row} (answers : contents.Answers query answer)
    (unlimited : query.limit = none) :
    row ∈ answer ↔
      row ∈ contents.rows query.table ∧
        ∀ condition ∈ query.conditions, row.holds condition = true := by
  obtain ⟨ordered, permuted, rfl⟩ := answers
  rw [unlimited, permuted.mem_iff, mem_matching]

/-- The one row that is asked for by its key is the row of this key. -/
theorem Answers.head?_eq_some_iff {answer : List Row} {value : Value}
    (answers : contents.Answers ⟨table, [(key, value)], some 1⟩ answer) (keyed : contents.IsKeyed)
    (isKey : contents.key? table = some key) (isParent : parent ∈ contents.rows table) :
    answer.head? = some parent ↔ parent.holds (key, value) = true := by
  obtain ⟨ordered, permuted, rfl⟩ := answers
  have among {one : Row} : one ∈ ordered ↔
      one ∈ contents.rows table ∧ one.holds (key, value) = true := by
    rw [permuted.mem_iff, mem_matching, List.forall_mem_singleton]
  rw [List.head?_take, if_neg Nat.one_ne_zero]
  constructor
  · intro isHead
    exact (among.mp (List.mem_of_mem_head? isHead)).2
  · intro held
    have isAnswer := among.mpr ⟨isParent, held⟩
    obtain ⟨first, others, rfl⟩ := List.exists_cons_of_ne_nil (List.ne_nil_of_mem isAnswer)
    obtain ⟨isFirst, firstHeld⟩ := among.mp List.mem_cons_self
    have same : (first.valueOf key).sameAs (parent.valueOf key) = true :=
      Value.sameAs_trans (Row.holds_iff.mp firstHeld).2
        (Value.sameAs_symm (Row.holds_iff.mp held).2)
    rw [keyed.eq_of_sameAs isKey isFirst isParent same]
    rfl

end Contents

/-! ## Datastores with exact selections -/

/-- A call answers as it should from every state of some kind, and leaves such a state. -/
def Gives {State Answer : Type} (isState : State → Prop) (call : StateM State Answer)
    (meets : Answer → Prop) : Prop :=
  ∀ state, isState state → meets (call state).1 ∧ isState (call state).2

/-- The call that keeps the rows that hold a value. -/
def Narrowing.equality (condition : String × Value) : Narrowing :=
  .filter (Fragment.equality condition)

/-- A datastore whose selections are queries of some contents and are answered by the rows
that meet them.  Related rows are those that hold the key of a row; a referenced row is the
one whose key is held. -/
structure Datastore.SelectsFrom {State Selection : Type} (datastore : Datastore State Selection)
    (contents : Contents) (isState : State → Prop) (selects : Selection → RowQuery → Prop) :
    Prop where
  openRelated : ∀ {row : Row} {key}, contents.key? row.table = some key → ∀ table column,
    Gives isState (datastore.openRelated row table column) fun answer =>
      ∃ selection, answer = .ok selection ∧
        selects selection ⟨table, [(column, row.valueOf key)], none⟩
  openNothing : ∀ {row : Row} {column}, (row.valueOf column).isNull = true → ∀ table,
    Gives isState (datastore.openReferenced row table column) fun answer => answer = .ok none
  openReferenced : ∀ {row : Row} {column}, (row.valueOf column).isNull = false →
    ∀ {table key}, contents.key? table = some key →
      Gives isState (datastore.openReferenced row table column) fun answer =>
        ∃ selection, answer = .ok (some selection) ∧
          selects selection ⟨table, [(key, row.valueOf column)], none⟩
  openUnknown : ∀ {row : Row} {column}, (row.valueOf column).isNull = false →
    ∀ {table}, contents.key? table = none →
      Gives isState (datastore.openReferenced row table column) fun answer =>
        ∃ failure, answer = .error failure
  filter : ∀ {selection query}, selects selection query → ∀ condition,
    Gives isState (datastore.narrow selection (.equality condition)) fun narrowed =>
      selects narrowed { query with conditions := query.conditions ++ [condition] }
  limit : ∀ {selection query}, selects selection query →
    Gives isState (datastore.narrow selection (.limit (some 1) none)) fun narrowed =>
      selects narrowed { query with limit := some 1 }
  fetch : ∀ {selection query}, selects selection query →
    (contents.key? query.table).isSome = true →
      Gives isState (datastore.fetch selection) fun answer =>
        ∃ rows, answer.1 = .ok rows ∧ contents.Answers query rows

namespace Contents

/-- The matching rows in the order of their table. -/
def answer (contents : Contents) (query : RowQuery) : List Row :=
  match query.limit with
  | none => contents.matching query
  | some limit => (contents.matching query).take limit

/-- A query narrowed by an equality or a limit; other calls leave it as it is. -/
def narrowed (query : RowQuery) : Narrowing → RowQuery
  | .filter ⟨"?name = ?", [.identifier column, .value value]⟩ =>
    { query with conditions := query.conditions ++ [(column, value)] }
  | .limit (some limit) none => { query with limit := some limit.toInt.toNat }
  | _ => query

/-- The datastore that holds some contents and nothing else. -/
def datastore (contents : Contents) : Datastore Unit RowQuery where
  readStructure := pure (.ok ⟨[]⟩)
  readVersion := pure (.ok 0)
  openTable table := pure ⟨table, [], none⟩
  openRelated row table column := pure (match contents.key? row.table with
    | some key => .ok ⟨table, [(column, row.valueOf key)], none⟩
    | none => .error (.tableNotFound row.table))
  openReferenced row table column := pure (
    if (row.valueOf column).isNull then .ok none
    else match contents.key? table with
      | some key => .ok (some ⟨table, [(key, row.valueOf column)], none⟩)
      | none => .error (.tableNotFound table))
  narrow query call := pure (narrowed query call)
  fetch query := pure (.ok (contents.answer query), query)
  count query _ := pure (.ok (Int64.ofNat (contents.answer query).length), query)
  statement query := query.table
  elapsed _ := 0

theorem selectsFrom_datastore (contents : Contents) :
    contents.datastore.SelectsFrom contents (fun _ => True) fun selection query =>
      selection = query where
  openRelated isKey table column _ _ := by
    refine ⟨⟨_, ?_, rfl⟩, trivial⟩
    simp only [datastore, isKey]
    rfl
  openNothing nothing table _ _ := by
    refine ⟨?_, trivial⟩
    simp only [datastore, nothing]
    rfl
  openReferenced something _ _ isKey _ _ := by
    refine ⟨⟨_, ?_, rfl⟩, trivial⟩
    simp only [datastore, something, isKey]
    rfl
  openUnknown something table unknown _ _ := by
    refine ⟨⟨.tableNotFound table, ?_⟩, trivial⟩
    simp only [datastore, something, unknown]
    rfl
  filter selected condition _ _ := by
    refine ⟨?_, trivial⟩
    rw [← selected]
    rfl
  limit selected _ _ := by
    refine ⟨?_, trivial⟩
    rw [← selected]
    rfl
  fetch selected _ _ _ := by
    rw [← selected]
    exact ⟨⟨_, rfl, _, List.Perm.refl _, rfl⟩, trivial⟩

end Contents

/-! ### The database -/

/-- The selection of a database that a query is. -/
def RowQuery.selection (query : RowQuery) : TableSelection :=
  { (TableSelection.ofTable query.table).behind (query.conditions.map Fragment.equality) with
    limit := query.limit.map Int64.ofNat }

namespace Database

variable {database : Database} {rows : String → List Row} {table key : String}

/-- Some rows with the primary keys of a database that are one column. -/
def contents (database : Database) (rows : String → List Row) : Contents :=
  ⟨rows, fun table => (database.primaryKey table).toOption⟩

theorem primaryKey_of_key? (isKey : (database.contents rows).key? table = some key) :
    database.primaryKey table = .ok key := by
  rw [contents] at isKey
  cases primary : database.primaryKey table with
  | error failure => simp [primary, Except.toOption] at isKey
  | ok own => simpa [primary, Except.toOption] using isKey

theorem exists_failure_of_key? (unknown : (database.contents rows).key? table = none) :
    ∃ failure, database.primaryKey table = .error failure := by
  rw [contents] at unknown
  cases primary : database.primaryKey table with
  | error failure => exact ⟨failure, rfl⟩
  | ok own => simp [primary, Except.toOption] at unknown

/-- A database opens and narrows selections as it should.  So they are exact when its
statements are answered exactly. -/
theorem selectsFrom_datastore
    (answers : ∀ query : RowQuery, ((database.contents rows).key? query.table).isSome = true →
      ∃ answer, (datastore.fetch query.selection database).1.1 = .ok answer ∧
        (database.contents rows).Answers query answer) :
    datastore.SelectsFrom (database.contents rows) (fun state => state = database)
      fun selection query => selection = query.selection where
  openRelated {row key} isKey table column state isDatabase := by
    subst isDatabase
    refine ⟨⟨equalTo table column (row.valueOf key), ?_, rfl⟩, rfl⟩
    change state.related row table column = _
    rw [related, primaryKey_of_key? isKey]
    rfl
  openNothing nothing table state isDatabase := ⟨if_pos nothing, isDatabase⟩
  openReferenced {row column} something {table key} isKey state isDatabase := by
    subst isDatabase
    refine ⟨⟨equalTo table key (row.valueOf column), ?_, rfl⟩, rfl⟩
    change state.referenced row table column = _
    rw [referenced, primaryKey_of_key? isKey]
    exact if_neg (Bool.eq_false_iff.mp something)
  openUnknown {row column} something {table} unknown state isDatabase := by
    subst isDatabase
    obtain ⟨failure, primary⟩ := exists_failure_of_key? unknown
    refine ⟨⟨failure, ?_⟩, rfl⟩
    change state.referenced row table column = _
    rw [referenced, primary]
    exact if_neg (Bool.eq_false_iff.mp something)
  filter {selection query} selected condition state isDatabase := by
    subst selected
    refine ⟨?_, isDatabase⟩
    simp [datastore, Narrowing.equality, TableSelection.narrow, RowQuery.selection,
      TableSelection.behind, TableSelection.ofTable]
  limit {selection query} selected state isDatabase := by
    subst selected
    exact ⟨rfl, isDatabase⟩
  fetch {selection query} selected known state isDatabase := by
    subst selected isDatabase
    exact ⟨answers query known, rfl⟩

end Database

end TableGraph
