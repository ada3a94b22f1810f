import Mathlib.Data.List.Forall2
import TableGraph.Condition.Document
import TableGraph.Proofs.Number.Numeral

/-!
# Spellings of arguments

The arguments of a field can be written in several ways: what is not set may be null or absent,
an item stands for the list that holds it, and an integer for its decimal form.  The main
statement, `Arguments.ofFields?_of_spells`, is that every spelling of arguments is read as
these arguments; `Arguments.exists_spelling` is that there is one.
-/

namespace TableGraph

open Document (fieldOf fieldOf_eq optionalText? optionalInteger? oneOrMany comparedValue comparedValues
  record?)

/-! ## Spellings -/

/-- An optional text, null when it is not set. -/
inductive SpellsText : Option String → Json → Prop
  | unset : SpellsText none .null
  | set (text : String) : SpellsText (some text) (.text text)

/-- A compared value: an integer of 64 bits may stand for its decimal form. -/
inductive SpellsValue : Option String → Json → Prop
  | null : SpellsValue none .null
  | text (text : String) : SpellsValue (some text) (.text text)
  | integer (value : Int64) :
      SpellsValue (some (decimalText value.toInt)) (.integer value.toInt)

/-- The compared values: a single one that is not null may stand for its list. -/
inductive SpellsValues : List (Option String) → Json → Prop
  | empty : SpellsValues [] .null
  | list {values : List (Option String)} {documents : List Json} :
      List.Forall₂ SpellsValue values documents → SpellsValues values (.array documents)
  | single {value : String} {document : Json} :
      SpellsValue (some value) document → SpellsValues [some value] document

/-- A list of records: a single one may stand for its list. -/
inductive SpellsList {Item : Type} (spells : Item → Json → Prop) : List Item → Json → Prop
  | empty : SpellsList spells [] .null
  | list {items : List Item} {documents : List Json} :
      List.Forall₂ spells items documents → SpellsList spells items (.array documents)
  | single {item : Item} {fields : List (String × Json)} :
      spells item (.object fields) → SpellsList spells [item] (.object fields)

/-- A condition is an object with its fields under their names, each name once.  A field that
is absent is read as null, and further fields do not matter. -/
inductive Condition.Spells : Condition → Json → Prop
  | object {condition : Condition} {fields : List (String × Json)} :
      (fields.map Prod.fst).Nodup →
      SpellsText condition.column (fieldOf fields "column") →
      SpellsText condition.comparator (fieldOf fields "comparator") →
      SpellsValues condition.values (fieldOf fields "value") →
      SpellsList Condition.Spells condition.rowAll (fieldOf fields "where") →
      SpellsList Condition.Spells condition.rowAny (fieldOf fields "where_or") →
      SpellsList Condition.Spells condition.groupAll (fieldOf fields "having") →
      SpellsList Condition.Spells condition.groupAny (fieldOf fields "having_or") →
      Condition.Spells condition (.object fields)

/-- A grouping column. -/
inductive SpellsGroup : Option String → Json → Prop
  | object {column : Option String} {fields : List (String × Json)} :
      SpellsText column (fieldOf fields "column") → SpellsGroup column (.object fields)

/-- The conditions of a field, null when they say nothing. -/
inductive Conditions.Spells : Conditions → Json → Prop
  | absent : Conditions.Spells .blank .null
  | object {conditions : Conditions} {fields : List (String × Json)} :
      SpellsList Condition.Spells conditions.rowAll (fieldOf fields "where") →
      SpellsList Condition.Spells conditions.rowAny (fieldOf fields "where_or") →
      SpellsList Condition.Spells conditions.groupAll (fieldOf fields "having") →
      SpellsList Condition.Spells conditions.groupAny (fieldOf fields "having_or") →
      SpellsList SpellsGroup conditions.groupColumns (fieldOf fields "group_conditions") →
      Conditions.Spells conditions (.object fields)

inductive SpellsDirection : Option Direction → Json → Prop
  | unset : SpellsDirection none .null
  | set (direction : Direction) : SpellsDirection (some direction) (.text direction.keyword)

inductive OrderBy.Spells : OrderBy → Json → Prop
  | object {item : OrderBy} {fields : List (String × Json)} :
      SpellsText item.key (fieldOf fields "key") →
      SpellsDirection item.direction (fieldOf fields "order") →
      OrderBy.Spells item (.object fields)

inductive SpellsInteger : Option Int64 → Json → Prop
  | unset : SpellsInteger none .null
  | set (value : Int64) : SpellsInteger (some value) (.integer value.toInt)

/-- A page, null when there is none. -/
inductive Pagination.Spells : Option Pagination → Json → Prop
  | absent : Pagination.Spells none .null
  | object {page : Pagination} {fields : List (String × Json)} :
      SpellsInteger page.limit (fieldOf fields "limit") →
      SpellsInteger page.offset (fieldOf fields "offset") →
      Pagination.Spells (some page) (.object fields)

/-- The arguments of a field, each under its name. -/
structure Arguments.Spells (arguments : Arguments) (fields : List (String × Json)) : Prop where
  pagination : Pagination.Spells arguments.pagination (fieldOf fields "pagination")
  order : SpellsList OrderBy.Spells arguments.order (fieldOf fields "order")
  conditions : arguments.conditions.Spells (fieldOf fields "conditions")

/-! ## Induction on conditions -/

@[elab_as_elim, induction_eliminator]
theorem Condition.induction {motive : Condition → Prop}
    (node : ∀ condition : Condition, (∀ nested ∈ condition.rowAll, motive nested) →
      (∀ nested ∈ condition.rowAny, motive nested) →
      (∀ nested ∈ condition.groupAll, motive nested) →
      (∀ nested ∈ condition.groupAny, motive nested) → motive condition)
    (condition : Condition) : motive condition := by
  refine @Condition.rec motive (fun conditions => ∀ nested ∈ conditions, motive nested)
    ?_ ?_ ?_ condition
  · intro column comparator values rowAll rowAny groupAll groupAny
    exact node ⟨column, comparator, values, rowAll, rowAny, groupAll, groupAny⟩
  · intro nested member
    cases member
  · intro head tail headHolds tailHold
    exact List.forall_mem_cons.mpr ⟨headHolds, tailHold⟩

/-! ## Reading values and lists -/

theorem optionalText?_of_spells {text : Option String} {document : Json}
    (spells : SpellsText text document) : optionalText? document = some text := by
  cases spells <;> rfl

theorem comparedValue_of_spells {value : Option String} {document : Json}
    (spells : SpellsValue value document) : comparedValue document = value := by
  cases spells with
  | null | text => rfl
  | integer value => exact congrArg some (String.ofList_toList)

theorem comparedValues_of_spells {values : List (Option String)} {document : Json}
    (spells : SpellsValues values document) : comparedValues document = values := by
  cases spells with
  | empty => rfl
  | list each =>
      rw [comparedValues]
      induction each with
      | nil => rfl
      | cons first _ inductionHypothesis =>
          rw [List.map_cons, comparedValue_of_spells first, inductionHypothesis]
  | single only =>
      have read := comparedValue_of_spells only
      cases only with
      | text | integer => exact congrArg (fun value => [value]) read

section Lists

variable {Item : Type} {read : Json → Option Item} {spells : Item → Json → Prop}
  {items : List Item}

theorem mapM_of_spells {documents : List Json}
    (reads : ∀ item ∈ items, ∀ document, spells item document → read document = some item)
    (each : List.Forall₂ spells items documents) : documents.mapM read = some items := by
  induction each with
  | nil => rfl
  | cons first _ inductionHypothesis =>
      rw [List.forall_mem_cons] at reads
      rw [List.mapM_cons, reads.1 _ first, inductionHypothesis reads.2]
      rfl

theorem oneOrMany_of_spells {document : Json}
    (reads : ∀ item ∈ items, ∀ document, spells item document → read document = some item)
    (spelled : SpellsList spells items document) : oneOrMany read document = some items := by
  cases spelled with
  | empty => rfl
  | list each => rw [oneOrMany, mapM_of_spells reads each]
  | single only =>
      rw [oneOrMany, reads _ List.mem_cons_self _ only]
      · rfl
      · intro absurd
        cases absurd
      · intro _ absurd
        cases absurd

end Lists

/-! ## Reading conditions -/

/-- A field of a record is set to what its document is read as, and stays what it is when it is
absent. -/
def Sets {Value : Type} (read : Json → Option Value) (fields : List (String × Json))
    (name : String) (before after : Value) : Prop :=
  match fields.lookup name with
  | none => after = before
  | some document => read document = some after

namespace Sets

variable {Value : Type} {read : Json → Option Value} {fields : List (String × Json)}
  {name key : String} {document : Json} {before after : Value}

theorem ofField (present : read (fieldOf fields name) = some after)
    (default : read .null = some before) : Sets read fields name before after := by
  unfold Sets
  rw [fieldOf_eq] at present
  cases found : fields.lookup name with
  | none =>
      rw [found, Option.getD_none, default] at present
      exact (Option.some.inj present).symm
  | some document =>
      rw [found, Option.getD_some] at present
      exact present

theorem absent (unlisted : name ∉ fields.map Prod.fst) : Sets read fields name before before := by
  have missing : fields.lookup name = none := by
    rw [List.lookup_eq_none_iff]
    intro entry member
    exact bne_iff_ne.mpr fun same => unlisted (List.mem_map.mpr ⟨entry, member, same.symm⟩)
  rw [Sets, missing]

theorem head (sets : Sets read ((name, document) :: fields) name before after) :
    read document = some after := by
  simpa [Sets] using sets

theorem tail (sets : Sets read ((key, document) :: fields) name before after)
    (other : name ≠ key) : Sets read fields name before after := by
  have skips : ((key, document) :: fields).lookup name = fields.lookup name := by
    rw [List.lookup_cons, beq_false_of_ne other]
  rwa [Sets, skips] at sets

theorem next (sets : Sets read ((key, document) :: fields) name before after)
    (unlisted : key ∉ fields.map Prod.fst) :
    Sets read fields name (if key = name then after else before) after := by
  split
  · next same =>
      subst same
      exact absent unlisted
  · next other => exact sets.tail (Ne.symm other)

end Sets

namespace Condition

/-- The fields of an object turn one condition into another. -/
structure Completes (fields : List (String × Json)) (before after : Condition) : Prop where
  column : Sets optionalText? fields "column" before.column after.column
  comparator : Sets optionalText? fields "comparator" before.comparator after.comparator
  values : Sets (fun document => some (comparedValues document)) fields "value" before.values
    after.values
  rowAll : Sets listOf? fields "where" before.rowAll after.rowAll
  rowAny : Sets listOf? fields "where_or" before.rowAny after.rowAny
  groupAll : Sets listOf? fields "having" before.groupAll after.groupAll
  groupAny : Sets listOf? fields "having_or" before.groupAny after.groupAny

/-- The first of the fields is read, and the others complete what it has led to. -/
theorem assign?_of_completes {key : String} {document : Json} {rest : List (String × Json)}
    {before after : Condition} (unlisted : key ∉ rest.map Prod.fst)
    (completes : Completes ((key, document) :: rest) before after) :
    ∃ between, assign? key document before = some between ∧ Completes rest between after := by
  obtain ⟨column, comparator, values, rowAll, rowAny, groupAll, groupAny⟩ := completes
  let between : Condition :=
    { column := if key = "column" then after.column else before.column
      comparator := if key = "comparator" then after.comparator else before.comparator
      values := if key = "value" then after.values else before.values
      rowAll := if key = "where" then after.rowAll else before.rowAll
      rowAny := if key = "where_or" then after.rowAny else before.rowAny
      groupAll := if key = "having" then after.groupAll else before.groupAll
      groupAny := if key = "having_or" then after.groupAny else before.groupAny }
  refine ⟨between, ?_, column.next unlisted, comparator.next unlisted, values.next unlisted,
    rowAll.next unlisted, rowAny.next unlisted, groupAll.next unlisted, groupAny.next unlisted⟩
  -- The first name that is the key decides which field is read.
  by_cases isColumn : key = "column"
  · subst isColumn
    simp [assign?, between, column.head]
  by_cases isComparator : key = "comparator"
  · subst isComparator
    simp [assign?, between, comparator.head]
  by_cases isValue : key = "value"
  · subst isValue
    simp [assign?, between, Option.some.inj values.head]
  by_cases isRowAll : key = "where"
  · subst isRowAll
    simp [assign?, between, rowAll.head]
  by_cases isRowAny : key = "where_or"
  · subst isRowAny
    simp [assign?, between, rowAny.head]
  by_cases isGroupAll : key = "having"
  · subst isGroupAll
    simp [assign?, between, groupAll.head]
  by_cases isGroupAny : key = "having_or"
  · subst isGroupAny
    simp [assign?, between, groupAny.head]
  · cases before
    simp [assign?, between, isColumn, isComparator, isValue, isRowAll, isRowAny, isGroupAll,
      isGroupAny]

theorem ofFields?_of_completes {fields : List (String × Json)} {before after : Condition}
    (distinct : (fields.map Prod.fst).Nodup) (completes : Completes fields before after) :
    ofFields? fields before = some after := by
  induction fields generalizing before with
  | nil =>
      obtain ⟨column, comparator, values, rowAll, rowAny, groupAll, groupAny⟩ := completes
      cases before
      cases after
      cases column
      cases comparator
      cases values
      cases rowAll
      cases rowAny
      cases groupAll
      cases groupAny
      rw [ofFields?]
  | cons field rest inductionHypothesis =>
      obtain ⟨key, document⟩ := field
      rw [List.map_cons, List.nodup_cons] at distinct
      obtain ⟨between, assigned, completes⟩ := assign?_of_completes distinct.1 completes
      rw [ofFields?, assigned, Option.bind_some, inductionHypothesis distinct.2 completes]

theorem eachOf?_eq_mapM (elements : List Json) : eachOf? elements = elements.mapM ofDocument? := by
  induction elements with
  | nil =>
      rw [eachOf?, List.mapM_nil]
      rfl
  | cons first rest inductionHypothesis =>
      rw [eachOf?, inductionHypothesis, List.mapM_cons]
      cases ofDocument? first <;> cases rest.mapM ofDocument? <;> rfl

theorem listOf?_eq_oneOrMany : listOf? = oneOrMany ofDocument? := by
  funext document
  cases document with
  | array elements =>
      rw [listOf?, oneOrMany, eachOf?_eq_mapM, ofDocument?]
      cases elements.mapM ofDocument? <;> rfl
  | _ => simp [listOf?, oneOrMany, ofDocument?]

/-- A spelling of a condition is read as that condition. -/
theorem ofDocument?_of_spells (condition : Condition) :
    ∀ document, condition.Spells document → ofDocument? document = some condition := by
  induction condition with
  | node condition rowAllRead rowAnyRead groupAllRead groupAnyRead =>
      intro document spells
      have list {conditions : List Condition} {document : Json}
          (reads : ∀ nested ∈ conditions, ∀ document, nested.Spells document →
            ofDocument? document = some nested)
          (spelled : SpellsList Condition.Spells conditions document) :
          listOf? document = some conditions := by
        rw [listOf?_eq_oneOrMany]
        exact oneOrMany_of_spells reads spelled
      cases spells with
      | object distinct column comparator values rowAll rowAny groupAll groupAny =>
          rw [ofDocument?]
          exact ofFields?_of_completes distinct
            ⟨.ofField (optionalText?_of_spells column) rfl,
              .ofField (optionalText?_of_spells comparator) rfl,
              .ofField (congrArg some (comparedValues_of_spells values)) rfl,
              .ofField (list rowAllRead rowAll) (by rw [listOf?]; rfl),
              .ofField (list rowAnyRead rowAny) (by rw [listOf?]; rfl),
              .ofField (list groupAllRead groupAll) (by rw [listOf?]; rfl),
              .ofField (list groupAnyRead groupAny) (by rw [listOf?]; rfl)⟩

theorem listOf?_of_spells {conditions : List Condition} {document : Json}
    (spelled : SpellsList Condition.Spells conditions document) :
    listOf? document = some conditions := by
  rw [listOf?_eq_oneOrMany]
  exact oneOrMany_of_spells (fun nested _ => nested.ofDocument?_of_spells) spelled

end Condition

/-! ## Reading arguments -/

theorem groupColumn?_of_spells {column : Option String} {document : Json}
    (spells : SpellsGroup column document) : groupColumn? document = some column := by
  cases spells with
  | object isColumn => exact optionalText?_of_spells isColumn

theorem Conditions.ofDocument?_of_spells {conditions : Conditions} {document : Json}
    (spells : conditions.Spells document) : Conditions.ofDocument? document = some conditions := by
  cases spells with
  | absent => rfl
  | object rowAll rowAny groupAll groupAny groupColumns =>
      have columns := oneOrMany_of_spells
        (fun _ _ _ spells => groupColumn?_of_spells spells) groupColumns
      simp [Conditions.ofDocument?, record?, Condition.listOf?_of_spells rowAll,
        Condition.listOf?_of_spells rowAny, Condition.listOf?_of_spells groupAll,
        Condition.listOf?_of_spells groupAny, groupColumnsOf?, columns]

theorem Direction.ofDocument?_of_spells {direction : Option Direction} {document : Json}
    (spells : SpellsDirection direction document) :
    Direction.ofDocument? document = some direction := by
  cases spells with
  | unset => rfl
  | set direction => cases direction <;> rfl

theorem OrderBy.ofDocument?_of_spells {item : OrderBy} {document : Json}
    (spells : item.Spells document) : OrderBy.ofDocument? document = some item := by
  cases spells with
  | object key direction =>
      simp [OrderBy.ofDocument?, record?, optionalText?_of_spells key,
        Direction.ofDocument?_of_spells direction]

theorem optionalInteger?_of_spells {value : Option Int64} {document : Json}
    (spells : SpellsInteger value document) : optionalInteger? document = some value := by
  cases spells with
  | unset => rfl
  | set value =>
      simp [optionalInteger?, Json.integer?, fitsInt64_toInt value]

theorem Pagination.ofDocument?_of_spells {page : Option Pagination} {document : Json}
    (spells : Pagination.Spells page document) : Pagination.ofDocument? document = some page := by
  cases spells with
  | absent => rfl
  | object limit offset =>
      simp [Pagination.ofDocument?, record?, optionalInteger?_of_spells limit,
        optionalInteger?_of_spells offset]

/-- A spelling of arguments is read as these arguments. -/
theorem Arguments.ofFields?_of_spells {arguments : Arguments} {fields : List (String × Json)}
    (spells : arguments.Spells fields) : Arguments.ofFields? fields = some arguments := by
  have order := oneOrMany_of_spells
    (fun _ _ _ spells => OrderBy.ofDocument?_of_spells spells) spells.order
  simp [Arguments.ofFields?, Pagination.ofDocument?_of_spells spells.pagination,
    OrderBy.listOf?, order, Conditions.ofDocument?_of_spells spells.conditions]

/-! ## Every value has a spelling -/

theorem exists_spelledText (text : Option String) : ∃ document, SpellsText text document := by
  cases text with
  | none => exact ⟨_, .unset⟩
  | some text => exact ⟨_, .set text⟩

theorem exists_spelledList {Item : Type} {spells : Item → Json → Prop} {items : List Item}
    (each : ∀ item ∈ items, ∃ document, spells item document) :
    ∃ document, SpellsList spells items document := by
  have documents : ∃ documents, List.Forall₂ spells items documents := by
    induction items with
    | nil => exact ⟨[], .nil⟩
    | cons item rest inductionHypothesis =>
        rw [List.forall_mem_cons] at each
        obtain ⟨first, isFirst⟩ := each.1
        obtain ⟨later, areLater⟩ := inductionHypothesis each.2
        exact ⟨first :: later, .cons isFirst areLater⟩
  obtain ⟨documents, each⟩ := documents
  exact ⟨_, .list each⟩

theorem exists_spelledValues (values : List (Option String)) :
    ∃ document, SpellsValues values document := by
  refine ⟨.array (values.map fun value => value.elim .null .text), .list ?_⟩
  rw [List.forall₂_map_right_iff, List.forall₂_same]
  intro value _
  cases value with
  | none => exact .null
  | some value => exact .text value

theorem Condition.exists_spelling (condition : Condition) :
    ∃ document, condition.Spells document := by
  induction condition with
  | node condition rowAllSpelled rowAnySpelled groupAllSpelled groupAnySpelled =>
      obtain ⟨column, isColumn⟩ := exists_spelledText condition.column
      obtain ⟨comparator, isComparator⟩ := exists_spelledText condition.comparator
      obtain ⟨values, areValues⟩ := exists_spelledValues condition.values
      obtain ⟨rowAll, isRowAll⟩ := exists_spelledList rowAllSpelled
      obtain ⟨rowAny, isRowAny⟩ := exists_spelledList rowAnySpelled
      obtain ⟨groupAll, isGroupAll⟩ := exists_spelledList groupAllSpelled
      obtain ⟨groupAny, isGroupAny⟩ := exists_spelledList groupAnySpelled
      exact ⟨.object [("column", column), ("comparator", comparator), ("value", values),
        ("where", rowAll), ("where_or", rowAny), ("having", groupAll), ("having_or", groupAny)],
        .object (by simp) isColumn isComparator areValues isRowAll isRowAny isGroupAll isGroupAny⟩

theorem OrderBy.exists_spelling (item : OrderBy) : ∃ document, item.Spells document := by
  obtain ⟨key, isKey⟩ := exists_spelledText item.key
  have direction : ∃ document, SpellsDirection item.direction document := by
    cases item.direction with
    | none => exact ⟨_, .unset⟩
    | some direction => exact ⟨_, .set direction⟩
  obtain ⟨direction, isDirection⟩ := direction
  exact ⟨.object [("key", key), ("order", direction)], .object isKey isDirection⟩

theorem Conditions.exists_spelling (conditions : Conditions) :
    ∃ document, conditions.Spells document := by
  have list (conditions : List Condition) :
      ∃ document, SpellsList Condition.Spells conditions document :=
    exists_spelledList fun condition _ => condition.exists_spelling
  have group (column : Option String) : ∃ document, SpellsGroup column document := by
    obtain ⟨document, isColumn⟩ := exists_spelledText column
    exact ⟨.object [("column", document)], .object isColumn⟩
  obtain ⟨rowAll, isRowAll⟩ := list conditions.rowAll
  obtain ⟨rowAny, isRowAny⟩ := list conditions.rowAny
  obtain ⟨groupAll, isGroupAll⟩ := list conditions.groupAll
  obtain ⟨groupAny, isGroupAny⟩ := list conditions.groupAny
  obtain ⟨columns, areColumns⟩ :=
    exists_spelledList fun column (_ : column ∈ conditions.groupColumns) => group column
  exact ⟨.object [("where", rowAll), ("where_or", rowAny), ("having", groupAll),
    ("having_or", groupAny), ("group_conditions", columns)],
    .object isRowAll isRowAny isGroupAll isGroupAny areColumns⟩

theorem Pagination.exists_spelling (page : Option Pagination) :
    ∃ document, Pagination.Spells page document := by
  have integer (value : Option Int64) : ∃ document, SpellsInteger value document := by
    cases value with
    | none => exact ⟨_, .unset⟩
    | some value => exact ⟨_, .set value⟩
  cases page with
  | none => exact ⟨_, .absent⟩
  | some page =>
      obtain ⟨limit, isLimit⟩ := integer page.limit
      obtain ⟨offset, isOffset⟩ := integer page.offset
      exact ⟨.object [("limit", limit), ("offset", offset)], .object isLimit isOffset⟩

theorem Arguments.exists_spelling (arguments : Arguments) :
    ∃ fields, arguments.Spells fields := by
  obtain ⟨pagination, isPagination⟩ := Pagination.exists_spelling arguments.pagination
  obtain ⟨order, isOrder⟩ :=
    exists_spelledList fun item (_ : item ∈ arguments.order) => item.exists_spelling
  obtain ⟨conditions, areConditions⟩ := arguments.conditions.exists_spelling
  exact ⟨[("pagination", pagination), ("order", order), ("conditions", conditions)],
    ⟨isPagination, isOrder, areConditions⟩⟩

end TableGraph
