import TableGraph.Proofs.Condition.Spelling
import TableGraph.Proofs.Json.OrderedMap

/-!
# Bare items and lists

Wherever the arguments of a field hold a list of records, an object may be written bare or as
the list that holds it.  Exchanging one for the other, as deep inside the arguments as may be,
changes nothing in how they are read, not even when they are refused (`Respelled.read?_eq`).
The main statement, `Arguments.read_spellings`, adds that every spelling of arguments is read
as these.
-/

namespace TableGraph

open Document (fieldOf fieldOf_eq optionalText? oneOrMany record?)

/-! ## Kinds of documents -/

/-- The records that stand in lists. -/
inductive RecordKind where
  | order
  | group
  | condition
  deriving DecidableEq

namespace RecordKind

def Item : RecordKind → Type
  | .order => OrderBy
  | .group => Option String
  | .condition => Condition

def read? : (kind : RecordKind) → Json → Option kind.Item
  | .order => OrderBy.ofDocument?
  | .group => groupColumn?
  | .condition => Condition.ofDocument?

end RecordKind

/-- What a document inside the arguments of a field is read as. -/
inductive ArgumentKind where
  | arguments
  | conditions
  | record (kind : RecordKind)
  | list (kind : RecordKind)
  deriving DecidableEq

namespace ArgumentKind

def Content : ArgumentKind → Type
  | .arguments => Arguments
  | .conditions => Conditions
  | .record kind => kind.Item
  | .list kind => List kind.Item

def read? : (kind : ArgumentKind) → Json → Option kind.Content
  | .arguments => fun document =>
    match document with
    | .object fields => Arguments.ofFields? fields
    | _ => none
  | .conditions => Conditions.ofDocument?
  | .record kind => kind.read?
  | .list kind => oneOrMany kind.read?

/-- The fields of a record in declaration order, for records that may be arrays. -/
def names : ArgumentKind → List String
  | .conditions => Conditions.fieldNames
  | .record .order => ["key", "order"]
  | .record .group => ["column"]
  | .record .condition => Condition.fieldNames
  | _ => []

/-- The fields of an object that hold lists of records, or conditions that do. -/
def fieldKinds : ArgumentKind → List (String × ArgumentKind)
  | .arguments => [("order", .list .order), ("conditions", .conditions)]
  | .conditions => [("where", .list .condition), ("where_or", .list .condition),
      ("having", .list .condition), ("having_or", .list .condition),
      ("group_conditions", .list .group)]
  | .record .condition => [("where", .list .condition), ("where_or", .list .condition),
      ("having", .list .condition), ("having_or", .list .condition)]
  | _ => []

end ArgumentKind

/-- A document that can be an item of a list of records; any other is a field of one. -/
def Json.isItem : Json → Bool
  | .array _ => true
  | .object _ => true
  | _ => false

/-- One document becomes another when, at one place for a list of records, a bare object is
exchanged for the list that holds it.  An array at such a place is a list when it has items only,
as the four conditions of `[{}, {}, {}, {}]`; with other elements it can only be one record, whose
fields are places again. -/
inductive Respelled : ArgumentKind → Json → Json → Prop
  | wrap (kind : RecordKind) (fields : List (String × Json)) :
      Respelled (.list kind) (.object fields) (.array [.object fields])
  | unwrap (kind : RecordKind) (fields : List (String × Json)) :
      Respelled (.list kind) (.array [.object fields]) (.object fields)
  /-- The place is in a field of an object. -/
  | field {kind inner : ArgumentKind} {name : String} {value other : Json}
      {before after : List (String × Json)} :
      (name, inner) ∈ kind.fieldKinds → Respelled inner value other →
      Respelled kind (.object (before ++ (name, value) :: after))
        (.object (before ++ (name, other) :: after))
  /-- The place is in a field of a record that is written as an array. -/
  | element {kind inner : ArgumentKind} {name : String} {value other : Json}
      {before after : List Json} :
      kind.names[before.length]? = some name → (name, inner) ∈ kind.fieldKinds →
      Respelled inner value other →
      Respelled kind (.array (before ++ value :: after)) (.array (before ++ other :: after))
  /-- The place is in a bare record: an object, or an array with an element that is no item, so
  that it is no list of records itself. -/
  | bare {kind : RecordKind} {document other : Json} :
      (∀ elements, document = .array elements → ∃ element ∈ elements, element.isItem = false) →
      Respelled (.record kind) document other → Respelled (.list kind) document other
  /-- The place is in an item of a list: of an array that begins with an item, and is no record
  itself. -/
  | among {kind : RecordKind} {value other : Json} {before after : List Json} :
      (∀ first ∈ (before ++ [value]).head?, first.isItem = true) →
      Respelled (.record kind) value other →
      Respelled (.list kind) (.array (before ++ value :: after)) (.array (before ++ other :: after))

namespace RecordKind

variable {kind : RecordKind}

/-! ## Items -/

/-- The first field of every record is a text. -/
theorem read?_array_of_isItem {first : Json} (isItem : first.isItem = true) (rest : List Json) :
    kind.read? (.array (first :: rest)) = none := by
  have noText : optionalText? first = none := by
    cases first with
    | array | object => rfl
    | _ => cases isItem
  cases kind with
  | order =>
      change OrderBy.ofDocument? (.array (first :: rest)) = none
      rw [OrderBy.ofDocument?, record?]
      split_ifs
      · simp [fieldOf_eq, noText]
      · rfl
  | group =>
      change groupColumn? (.array (first :: rest)) = none
      rw [groupColumn?, record?]
      split_ifs
      · simp [fieldOf_eq, noText]
      · rfl
  | condition =>
      change Condition.ofDocument? (.array (first :: rest)) = none
      rw [Condition.ofDocument?, Condition.fieldNames, Condition.ofElements?, Condition.assign?,
        if_pos rfl, noText]
      rfl

theorem read?_of_not_isItem {document : Json} (notItem : document.isItem = false) :
    kind.read? document = none := by
  cases kind with
  | order =>
      change OrderBy.ofDocument? document = none
      cases document with
      | array | object => cases notItem
      | _ => rfl
  | group =>
      change groupColumn? document = none
      cases document with
      | array | object => cases notItem
      | _ => rfl
  | condition =>
      change Condition.ofDocument? document = none
      cases document with
      | array | object => cases notItem
      | _ => rw [Condition.ofDocument?] <;> simp

end RecordKind

/-! ## Fields -/

section Fields

variable {name : String} {value other : Json} {before after : List (String × Json)}

theorem lookup_replaced_of_ne {key : String} (apart : key ≠ name) :
    (before ++ (name, value) :: after).lookup key =
      (before ++ (name, other) :: after).lookup key := by
  rw [List.lookup_append, List.lookup_append, List.lookup_cons, List.lookup_cons,
    beq_false_of_ne apart]

theorem fieldOf_replaced_of_ne {key : String} (apart : key ≠ name) :
    fieldOf (before ++ (name, value) :: after) key =
      fieldOf (before ++ (name, other) :: after) key := by
  rw [fieldOf_eq, fieldOf_eq, lookup_replaced_of_ne apart]

/-- The field is the exchanged document, unless one of its name stands in front. -/
theorem read_fieldOf_replaced {Content : Type} {read : Json → Content}
    (alike : read value = read other) :
    read (fieldOf (before ++ (name, value) :: after) name) =
      read (fieldOf (before ++ (name, other) :: after) name) := by
  rw [fieldOf_eq, fieldOf_eq, List.lookup_append, List.lookup_append, List.lookup_cons_self,
    List.lookup_cons_self]
  cases before.lookup name with
  | none => exact alike
  | some first => rfl

end Fields

namespace ArgumentKind

variable {kind inner : ArgumentKind} {name : String} {value other : Json}

theorem nodup_fieldKinds (kind : ArgumentKind) : (kind.fieldKinds.map Prod.fst).Nodup := by
  cases kind with
  | arguments | conditions => decide
  | record kind => cases kind <;> decide
  | list kind => exact List.nodup_nil

/-- Every field that holds records is read alike before and after the exchange. -/
theorem read?_fieldOf_replaced {before after : List (String × Json)}
    (isField : (name, inner) ∈ kind.fieldKinds) (alike : inner.read? value = inner.read? other)
    {key : String} {content : ArgumentKind} (isKey : (key, content) ∈ kind.fieldKinds) :
    content.read? (fieldOf (before ++ (name, value) :: after) key) =
      content.read? (fieldOf (before ++ (name, other) :: after) key) := by
  by_cases same : key = name
  · -- The names of fields are distinct, so the field of this name has the kind of the exchange.
    subst same
    have found := (mem_iff_lookup kind.nodup_fieldKinds).mp isKey
    obtain rfl : content = inner :=
      Option.some.inj (found.symm.trans ((mem_iff_lookup kind.nodup_fieldKinds).mp isField))
    exact read_fieldOf_replaced alike
  · rw [fieldOf_replaced_of_ne same]

theorem ofFields?_replaced {before after : List (String × Json)}
    (isField : (name, inner) ∈ fieldKinds (.record .condition))
    (alike : inner.read? value = inner.read? other) (built : Condition) :
    Condition.ofFields? (before ++ (name, value) :: after) built =
      Condition.ofFields? (before ++ (name, other) :: after) built := by
  have assigned (built : Condition) :
      Condition.assign? name value built = Condition.assign? name other built := by
    have listed : inner = .list .condition ∧
        (name = "where" ∨ name = "where_or" ∨ name = "having" ∨ name = "having_or") := by
      simp only [fieldKinds, List.mem_cons, Prod.mk.injEq, List.not_mem_nil, or_false] at isField
      tauto
    obtain ⟨rfl, isName⟩ := listed
    have lists : Condition.listOf? value = Condition.listOf? other := by
      rw [Condition.listOf?_eq_oneOrMany]
      exact alike
    rcases isName with rfl | rfl | rfl | rfl <;> simp [Condition.assign?, lists]
  induction before generalizing built with
  | nil =>
      rw [List.nil_append, List.nil_append, Condition.ofFields?, Condition.ofFields?, assigned]
  | cons first rest inductionHypothesis =>
      rw [List.cons_append, List.cons_append, Condition.ofFields?, Condition.ofFields?]
      exact congrArg (Option.bind _) (funext inductionHypothesis)

theorem read?_object_replaced {before after : List (String × Json)}
    (isField : (name, inner) ∈ kind.fieldKinds) (alike : inner.read? value = inner.read? other) :
    kind.read? (.object (before ++ (name, value) :: after)) =
      kind.read? (.object (before ++ (name, other) :: after)) := by
  have reads {key : String} {content : ArgumentKind} (isKey : (key, content) ∈ kind.fieldKinds) :
      content.read? (fieldOf (before ++ (name, value) :: after) key) =
        content.read? (fieldOf (before ++ (name, other) :: after) key) :=
    read?_fieldOf_replaced isField alike isKey
  cases kind with
  | arguments =>
      have order : OrderBy.listOf? _ = OrderBy.listOf? _ := reads (.head _)
      have conditions : Conditions.ofDocument? _ = Conditions.ofDocument? _ :=
        reads (.tail _ (.head _))
      have pagination : fieldOf (before ++ (name, value) :: after) "pagination" =
          fieldOf (before ++ (name, other) :: after) "pagination" := by
        refine fieldOf_replaced_of_ne ?_
        rintro rfl
        simp [fieldKinds] at isField
      change Arguments.ofFields? _ = Arguments.ofFields? _
      rw [Arguments.ofFields?, Arguments.ofFields?, pagination, order, conditions]
  | conditions =>
      have list {key : String} (isKey : (key, .list .condition) ∈ conditions.fieldKinds) :
          Condition.listOf? (fieldOf (before ++ (name, value) :: after) key) =
            Condition.listOf? (fieldOf (before ++ (name, other) :: after) key) := by
        rw [Condition.listOf?_eq_oneOrMany]
        exact reads isKey
      have columns : Conditions.groupColumnsOf? _ = Conditions.groupColumnsOf? _ :=
        reads (.tail _ (.tail _ (.tail _ (.tail _ (.head _)))))
      change Conditions.ofDocument? (.object _) = Conditions.ofDocument? (.object _)
      simp only [Conditions.ofDocument?, record?, Option.bind_eq_bind, Option.bind_some]
      rw [list (.head _), list (.tail _ (.head _)), list (.tail _ (.tail _ (.head _))),
        list (.tail _ (.tail _ (.tail _ (.head _)))), columns]
  | record kind =>
      cases kind with
      | condition =>
          change Condition.ofDocument? _ = Condition.ofDocument? _
          rw [Condition.ofDocument?, Condition.ofDocument?]
          exact ofFields?_replaced isField alike .blank
      | order | group => cases isField
  | list kind => cases isField

/-- A record that is written as an array has its elements under the names of its fields. -/
theorem ofElements?_eq (elements : List Json) (names : List String) (built : Condition) :
    Condition.ofElements? elements names built =
      if elements.length ≤ names.length then Condition.ofFields? (names.zip elements) built
      else none := by
  induction elements generalizing names built with
  | nil => simp [Condition.ofElements?, Condition.ofFields?]
  | cons element rest inductionHypothesis =>
      cases names with
      | nil => simp [Condition.ofElements?]
      | cons name names =>
          have later := funext (inductionHypothesis names)
          rw [Condition.ofElements?, later, List.zip_cons_cons, Condition.ofFields?]
          by_cases fits : rest.length ≤ names.length <;> simp [fits]

theorem read?_array_eq (isField : (name, inner) ∈ kind.fieldKinds)
    (isNamed : name ∈ kind.names) (elements : List Json) :
    kind.read? (.array elements) =
      if elements.length ≤ kind.names.length then kind.read? (.object (kind.names.zip elements))
      else none := by
  cases kind with
  | arguments => cases isNamed
  | conditions =>
      change Conditions.ofDocument? (.array elements) =
        if elements.length ≤ Conditions.fieldNames.length
        then Conditions.ofDocument? (.object (Conditions.fieldNames.zip elements)) else none
      simp only [Conditions.ofDocument?, record?]
      split_ifs <;> rfl
  | record kind =>
      cases kind with
      | condition =>
          change Condition.ofDocument? (.array elements) =
            if elements.length ≤ Condition.fieldNames.length
            then Condition.ofDocument? (.object (Condition.fieldNames.zip elements)) else none
          rw [Condition.ofDocument?, Condition.ofDocument?]
          exact ofElements?_eq elements Condition.fieldNames .blank
      | order | group => cases isField
  | list kind => cases isField

theorem zip_append_cons {names : List String} {before after : List Json}
    (isName : names[before.length]? = some name) :
    names.zip (before ++ value :: after) =
      (names.take before.length).zip before ++
        (name, value) :: (names.drop (before.length + 1)).zip after := by
  obtain ⟨inside, isName⟩ := List.getElem?_eq_some_iff.mp isName
  have cut : names = names.take before.length ++ name :: names.drop (before.length + 1) := by
    rw [← isName, ← List.drop_eq_getElem_cons inside, List.take_append_drop]
  conv_lhs => rw [cut]
  have sameLength : (names.take before.length).length = before.length := by
    rw [List.length_take, Nat.min_eq_left (Nat.le_of_lt inside)]
  rw [List.zip_append sameLength, List.zip_cons_cons]

theorem read?_array_replaced {before after : List Json}
    (isName : kind.names[before.length]? = some name)
    (isField : (name, inner) ∈ kind.fieldKinds) (alike : inner.read? value = inner.read? other) :
    kind.read? (.array (before ++ value :: after)) =
      kind.read? (.array (before ++ other :: after)) := by
  have isNamed : name ∈ kind.names := List.mem_of_getElem? isName
  rw [read?_array_eq isField isNamed, read?_array_eq isField isNamed, zip_append_cons isName,
    zip_append_cons isName, read?_object_replaced isField alike]
  simp only [List.length_append, List.length_cons]

end ArgumentKind

/-! ## Respelled documents -/

namespace Respelled

variable {kind : RecordKind} {document other : Json}

theorem isItem {kind : ArgumentKind} (respelled : Respelled kind document other) :
    document.isItem = true ∧ other.isItem = true := by
  induction respelled with
  | bare _ _ areItems => exact areItems
  | _ => exact ⟨rfl, rfl⟩

/-- A record stays an object, or an array with the elements that are no items. -/
theorem record_cases (respelled : Respelled (.record kind) document other) :
    (∃ fields others, document = .object fields ∧ other = .object others) ∨
      ∃ elements others, document = .array elements ∧ other = .array others ∧
        ∀ element ∈ elements, element.isItem = false → element ∈ others := by
  cases respelled with
  | field _ _ => exact Or.inl ⟨_, _, rfl, rfl⟩
  | element _ _ inner =>
      refine Or.inr ⟨_, _, rfl, rfl, fun element member notItem => ?_⟩
      rw [List.mem_append, List.mem_cons] at member ⊢
      refine member.imp_right (Or.imp_left ?_)
      rintro rfl
      rw [inner.isItem.1] at notItem
      cases notItem

theorem oneOrMany_among {value : Json} {before after : List Json}
    (begins : ∀ first ∈ (before ++ [value]).head?, first.isItem = true)
    (stays : other.isItem = true) (alike : kind.read? value = kind.read? other) :
    oneOrMany kind.read? (.array (before ++ value :: after)) =
      oneOrMany kind.read? (.array (before ++ other :: after)) := by
  have many : (before ++ value :: after).mapM kind.read? =
      (before ++ other :: after).mapM kind.read? := by
    rw [List.mapM_append, List.mapM_append, List.mapM_cons, List.mapM_cons, alike]
  have noRecord : kind.read? (.array (before ++ value :: after)) =
      kind.read? (.array (before ++ other :: after)) := by
    cases before with
    | nil =>
        have isItem := begins value rfl
        rw [List.nil_append, List.nil_append, RecordKind.read?_array_of_isItem isItem,
          RecordKind.read?_array_of_isItem stays]
    | cons first rest =>
        have isItem := begins first rfl
        rw [List.cons_append, List.cons_append, RecordKind.read?_array_of_isItem isItem,
          RecordKind.read?_array_of_isItem isItem]
  rw [oneOrMany, oneOrMany, many, noRecord]

theorem oneOrMany_object {fields others : List (String × Json)}
    (alike : kind.read? (.object fields) = kind.read? (.object others)) :
    oneOrMany kind.read? (.object fields) = oneOrMany kind.read? (.object others) :=
  congrArg (Option.map fun only => [only]) alike

theorem oneOrMany_bare {elements others : List Json} (before : elements.mapM kind.read? = none)
    (after : others.mapM kind.read? = none)
    (alike : kind.read? (.array elements) = kind.read? (.array others)) :
    oneOrMany kind.read? (.array elements) = oneOrMany kind.read? (.array others) := by
  rw [oneOrMany, oneOrMany, before, after, alike]

theorem mapM_eq_none_of_not_isItem {element : Json} {elements : List Json}
    (member : element ∈ elements) (notItem : element.isItem = false) :
    elements.mapM kind.read? = none := by
  induction elements with
  | nil => cases member
  | cons first rest inductionHypothesis =>
      rw [List.mapM_cons]
      rcases List.mem_cons.mp member with rfl | later
      · rw [RecordKind.read?_of_not_isItem notItem]
        rfl
      · rw [inductionHypothesis later]
        cases kind.read? first <;> rfl

theorem oneOrMany_single (fields : List (String × Json)) :
    oneOrMany kind.read? (.object fields) = oneOrMany kind.read? (.array [.object fields]) := by
  have noRecord : kind.read? (.array [.object fields]) = none :=
    RecordKind.read?_array_of_isItem rfl []
  rw [oneOrMany, oneOrMany, noRecord, List.mapM_cons, List.mapM_nil]
  · cases kind.read? (.object fields) <;> rfl
  all_goals simp

/-- The exchange changes nothing in how a document is read. -/
theorem read?_eq {kind : ArgumentKind} {document other : Json}
    (respelled : Respelled kind document other) : kind.read? document = kind.read? other := by
  induction respelled with
  | wrap kind fields => exact oneOrMany_single fields
  | unwrap kind fields => exact (oneOrMany_single fields).symm
  | field isField _ alike => exact ArgumentKind.read?_object_replaced isField alike
  | element isName isField _ alike => exact ArgumentKind.read?_array_replaced isName isField alike
  | @bare kind document other noList respelled alike =>
      rcases respelled.record_cases with
        ⟨fields, others, rfl, rfl⟩ | ⟨elements, others, rfl, rfl, keeps⟩
      · exact oneOrMany_object alike
      · -- The element that is no item is still there, so neither array is a list of records.
        obtain ⟨element, member, notItem⟩ := noList elements rfl
        have before : elements.mapM kind.read? = none :=
          mapM_eq_none_of_not_isItem member notItem
        have after : others.mapM kind.read? = none :=
          mapM_eq_none_of_not_isItem (keeps element member notItem) notItem
        exact oneOrMany_bare before after alike
  | among begins respelled alike => exact oneOrMany_among begins respelled.isItem.2 alike

end Respelled

/-! ## Arguments -/

namespace Arguments

/-- Arguments can be spelled, and each of their spellings is read as them.  A document, also one
that spells no arguments, is read as before when a bare object is exchanged for the list that
holds it, or the list for the object, at any place for a list of records. -/
theorem read_spellings :
    (∀ arguments : Arguments, ∃ fields, arguments.Spells fields) ∧
      (∀ (arguments : Arguments) fields, arguments.Spells fields →
        Arguments.read fields = .ok arguments) ∧
      ∀ before after, Respelled .arguments (.object before) (.object after) →
        Arguments.read before = Arguments.read after := by
  refine ⟨exists_spelling, fun arguments fields spells => ?_, fun before after respelled => ?_⟩
  · rw [Arguments.read, ofFields?_of_spells spells]
  · have alike : ofFields? before = ofFields? after := respelled.read?_eq
    rw [Arguments.read, Arguments.read, alike]

private def dear : Arguments where
  pagination := none
  order := [⟨some "name", some .descending⟩]
  conditions := { Conditions.blank with
    rowAll := [⟨some "price", some "MORE_THAN", [some "10"], [], [], [], []⟩] }

private def dearFields : List (String × Json) :=
  [("value", .integer 10), ("column", .text "price"), ("comparator", .text "MORE_THAN"),
    ("having", .null), ("where_or", .array [])]

private def dearOrder : String × Json :=
  ("order", .array [.object [("key", .text "name"), ("order", .text "DESC")]])

/-- The condition may be written bare, with a number, and in any order of its fields. -/
theorem read_spellings_dear :
    dear.Spells [dearOrder, ("conditions", .object [("where", .object dearFields)])] ∧
      Arguments.read [dearOrder, ("conditions", .object [("where", .object dearFields)])] =
        .ok dear ∧
      Arguments.read [dearOrder, ("conditions", .object [("where", .array [.object dearFields])])] =
        .ok dear := by
  obtain ⟨_, reads, exchanges⟩ := read_spellings
  have condition : Condition.Spells ⟨some "price", some "MORE_THAN", [some "10"], [], [], [], []⟩
      (.object dearFields) :=
    .object (by decide) (.set "price") (.set "MORE_THAN") (.single (.integer 10)) .empty
      (.list .nil) .empty .empty
  have spells : dear.Spells [dearOrder, ("conditions", .object [("where", .object dearFields)])] :=
    ⟨.absent, .list (.cons (.object (.set "name") (.set .descending)) .nil),
      .object (.single condition) .empty .empty .empty .empty⟩
  have isRead := reads dear _ spells
  refine ⟨spells, isRead, (exchanges _ _ ?_).symm.trans isRead⟩
  have inConditions : Respelled .conditions (.object ([] ++ ("where", .object dearFields) :: []))
      (.object ([] ++ ("where", .array [.object dearFields]) :: [])) :=
    .field (.head _) (.wrap .condition dearFields)
  have inArguments : Respelled .arguments
      (.object ([dearOrder] ++ ("conditions", .object [("where", .object dearFields)]) :: []))
      (.object ([dearOrder] ++
        ("conditions", .object [("where", .array [.object dearFields])]) :: [])) :=
    .field (.tail _ (.head _)) inConditions
  exact inArguments

end Arguments

end TableGraph
