import TableGraph.Proofs.Resolving.SelectedRows

/-!
# Navigation in both directions

The rows that reference a row are found by one call of the datastore, the row that a row
references by another.  Over a datastore with exact selections the two agree: a row is among
the related rows of another exactly when it references this one, by a column of its own or
polymorphically (`Resolver.navigation_symmetric`).
-/

namespace TableGraph

/-- The settings of a field that leads to the rows of a table by one of its columns, and by
the column of their type when the reference is polymorphic. -/
structure FieldSettings.LeadsTo (settings : FieldSettings) (table column : String)
    (typeColumn : Option String) : Prop where
  tableName : settings.tableName = some table
  referencingColumn : settings.referencingColumn = some column
  referencingTypeColumn : settings.referencingTypeColumn = typeColumn

/-- A column that names a table by its text, or no table by null. -/
def Row.NamesByText (row : Row) (column : String) : Prop :=
  row.valueOf column = .null ∨ ∃ text, row.valueOf column = .text text

theorem Row.NamesByText.tableName?_eq {row : Row} {column : String}
    (names : row.NamesByText column) (table : String) :
    (row.value? column).bind Value.tableName? = some table ↔ row.valueOf column = .text table := by
  cases held : row.value? column with
  | none => simp [valueOf, held]
  | some value =>
      have isValue : row.valueOf column = value := by rw [valueOf, held, Option.getD_some]
      rw [NamesByText, isValue] at names
      rw [isValue, Option.bind_some]
      rcases names with rfl | ⟨text, rfl⟩
      · simp [Value.tableName?]
      · simp [Value.tableName?, Value.display]

namespace Resolver

variable {State Selection : Type} {resolver : Resolver State Selection} {contents : Contents}
  {isState : State → Prop} {selects : Selection → RowQuery → Prop}
  {parentTable childTable column key : String} {parent child : Row} {many one : FieldSettings}
  {session : Session State}

section Serving

variable (serves : resolver.datastore.SelectsFrom contents isState selects)
  (keyed : contents.IsKeyed) (isParent : parent ∈ contents.rows parentTable)
  (isKey : contents.key? parentTable = some key) (isOne : isState session.store)

include serves keyed isParent isKey isOne

/-- The related rows are resolved, and a row is among them exactly when it meets the
conditions of the relation. -/
theorem exists_hasMany (isChild : child ∈ contents.rows childTable) {typeColumn : Option String}
    (leads : many.LeadsTo childTable column typeColumn) :
    ∃ rows, (resolver.resolve .hasMany (some parent) .blank many session).1 = .ok (.rows rows) ∧
      (child ∈ rows ↔ child.holds (column, parent.valueOf key) = true ∧
        ∀ name ∈ typeColumn, child.holds (name, .text parentTable) = true) := by
  have named := keyed.named parentTable parent isParent
  obtain ⟨childKey, isChildKey, _⟩ := keyed.present childTable child isChild
  have known : (contents.key? childTable).isSome = true := by rw [isChildKey]; rfl
  obtain ⟨_, _, acts, ⟨rows, rfl, answers⟩, _⟩ :=
    succeeds_hasMany serves leads.tableName leads.referencingColumn (named.symm ▸ isKey) known
      session isOne
  refine ⟨rows, by rw [acts], (answers.mem_iff rfl).trans ?_⟩
  rw [Database.relatedConditions, leads.referencingTypeColumn, List.forall_mem_cons, named,
    and_iff_right isChild]
  cases typeColumn <;> simp [Row.valueOf]

/-- A column of a row leads to a row exactly when it holds the key of this row. -/
theorem exists_belongsTo (child : Row) {ignored : Option String}
    (leads : one.LeadsTo parentTable column ignored) :
    ∃ found, (resolver.resolve .belongsTo (some child) .blank one session).1 = .ok (.row found) ∧
      (found = some parent ↔ child.holds (column, parent.valueOf key) = true) := by
  have follows := fetchOne_eq_some_iff serves child parentTable column keyed isParent isKey isOne
  rw [resolve_belongsTo leads.tableName leads.referencingColumn]
  obtain ⟨found, fetched⟩ : ∃ found,
      (resolver.fetchOne child parentTable column session).1 = .ok found := by
    by_cases nothing : (child.valueOf column).isNull = true
    · obtain ⟨found, _, acts, _⟩ :=
        succeeds_fetchOne_nothing serves nothing parentTable session isOne
      exact ⟨found, by rw [acts]⟩
    · obtain ⟨found, _, acts, _⟩ :=
        succeeds_fetchOne serves (Bool.eq_false_of_not_eq_true nothing) isKey session isOne
      exact ⟨found, by rw [acts]⟩
  rw [fetched] at follows ⊢
  exact ⟨found, rfl, by simpa using follows⟩

/-- A polymorphic reference leads to a row exactly when it names the table of this row and
holds its key. -/
theorem morphTo_eq_iff {relation : MorphRelation} {typeName : String}
    (isRelation : one.morphRelation = some relation)
    (isType : resolver.typeNames.lookup parentTable = some typeName)
    (names : child.NamesByText relation.typeColumn) :
    (resolver.resolve .morphTo (some child) .blank one session).1 =
        .ok (.tagged (some (typeName, parent))) ↔
      child.holds (relation.idColumn, parent.valueOf key) = true ∧
        child.holds (relation.typeColumn, .text parentTable) = true := by
  have ofType : child.holds (relation.typeColumn, .text parentTable) = true ↔
      child.valueOf relation.typeColumn = .text parentTable := by
    rw [Row.holds_iff]
    rcases names with nothing | ⟨text, isText⟩
    · rw [nothing]
      simp [Value.isNull]
    · rw [isText]
      simp [Value.isNull, Value.sameAs]
  rw [ofType]
  -- A name that is missing or has no object type is answered with no row; the type of the
  -- parent is known, so neither is the name of its table.
  cases table : (child.value? relation.typeColumn).bind Value.tableName? with
  | none =>
      have unnamed : ¬ child.valueOf relation.typeColumn = .text parentTable := by
        intro isText
        cases table.symm.trans ((names.tableName?_eq parentTable).mpr isText)
      rw [resolve_morphTo_of_nameless isRelation table]
      simp [unnamed]
  | some name =>
      have follows :=
        fetchOne_eq_some_iff serves child name relation.idColumn keyed isParent isKey isOne
      rw [(names.tableName?_eq name).mp table, Value.text.injEq]
      cases known : resolver.typeNames.lookup name with
      | none =>
          have elsewhere : name ≠ parentTable := by
            rintro rfl
            cases known.symm.trans isType
          rw [resolve_morphTo_of_typeless isRelation table known]
          simp [elsewhere]
      | some ownType =>
          rw [resolve_morphTo isRelation table known, and_comm, ← follows]
          constructor
          · intro resolved
            cases fetched : (resolver.fetchOne child name relation.idColumn session).1 with
            | error failure =>
                rw [fetched] at resolved
                cases resolved
            | ok found =>
                rw [fetched] at resolved
                cases found with
                | none => cases resolved
                | some row =>
                    cases resolved
                    rfl
          · intro fetched
            obtain ⟨rfl, _⟩ := follows.mp fetched
            rw [fetched, Option.some.inj (known.symm.trans isType)]
            rfl

end Serving

/-- A row is among the related rows of another one exactly when it leads to it: by a column
that holds its key, or by a polymorphic reference, which is answered with the object type of
the other row. -/
theorem navigation_symmetric (serves : resolver.datastore.SelectsFrom contents isState selects)
    (keyed : contents.IsKeyed) (isParent : parent ∈ contents.rows parentTable)
    (isChild : child ∈ contents.rows childTable) {listing following : Session State}
    (lists : isState listing.store) (follows : isState following.store) :
    (∀ {column} {many one : FieldSettings} {ignored}, many.LeadsTo childTable column none →
      one.LeadsTo parentTable column ignored →
      ∃ rows found,
        (resolver.resolve .hasMany (some parent) .blank many listing).1 = .ok (.rows rows) ∧
        (resolver.resolve .belongsTo (some child) .blank one following).1 = .ok (.row found) ∧
        (child ∈ rows ↔ found = some parent)) ∧
    (∀ {relation : MorphRelation} {many one : FieldSettings} {typeName},
      many.LeadsTo childTable relation.idColumn (some relation.typeColumn) →
      one.morphRelation = some relation →
      resolver.typeNames.lookup parentTable = some typeName →
      child.NamesByText relation.typeColumn →
      ∃ rows,
        (resolver.resolve .hasMany (some parent) .blank many listing).1 = .ok (.rows rows) ∧
        (child ∈ rows ↔ (resolver.resolve .morphTo (some child) .blank one following).1 =
          .ok (.tagged (some (typeName, parent))))) := by
  obtain ⟨key, isKey, _⟩ := keyed.present parentTable parent isParent
  refine ⟨fun leads leadsBack => ?_, fun leads isRelation isType names => ?_⟩
  · obtain ⟨rows, resolved, among⟩ := exists_hasMany serves keyed isParent isKey lists isChild leads
    obtain ⟨found, resolvedBack, isFound⟩ :=
      exists_belongsTo serves keyed isParent isKey follows child leadsBack
    refine ⟨rows, found, resolved, resolvedBack, ?_⟩
    rw [among, isFound]
    simp
  · obtain ⟨rows, resolved, among⟩ := exists_hasMany serves keyed isParent isKey lists isChild leads
    refine ⟨rows, resolved, ?_⟩
    rw [among, morphTo_eq_iff serves keyed isParent isKey follows isRelation isType names]
    simp

private def postRow (id : Int64) : Row := ⟨"posts", [("id", .integer id)]⟩

private def commentRow : Row :=
  ⟨"comments", [("id", .integer 1), ("post_id", .integer 2), ("subject_id", .integer 1),
    ("subject_type", .text "posts")]⟩

private def journal : Contents where
  rows table :=
    if table = "posts" then [postRow 1, postRow 2]
    else if table = "comments" then [commentRow] else []
  key? table := if table = "posts" ∨ table = "comments" then some "id" else none

private def subjectRelation : MorphRelation :=
  ⟨"comments", "subject_id", "subject_type", "subject", []⟩

private def journalResolver : Resolver Unit RowQuery :=
  ⟨journal.datastore, .new false, [("posts", "Post")]⟩

private theorem isKeyed_journal : journal.IsKeyed where
  named table row member := by
    simp only [journal] at member
    split at member
    · next isPosts => rcases List.mem_pair.mp member with rfl | rfl <;> exact isPosts.symm
    · split at member
      · next isComments => exact List.mem_singleton.mp member ▸ isComments.symm
      · cases member
  present table row member := by
    simp only [journal] at member ⊢
    split at member
    · next isPosts =>
      refine ⟨"id", if_pos (Or.inl isPosts), ?_⟩
      rcases List.mem_pair.mp member with rfl | rfl <;> rfl
    · split at member
      · next isComments =>
        exact ⟨"id", if_pos (Or.inr isComments), List.mem_singleton.mp member ▸ rfl⟩
      · cases member
  unique table key isKey := by
    simp only [journal] at isKey ⊢
    split at isKey
    · obtain rfl := Option.some.inj isKey
      split
      · exact List.pairwise_pair.mpr rfl
      · split
        · exact List.pairwise_singleton _ commentRow
        · exact List.Pairwise.nil
    · cases isKey

/-- A comment is among the comments of the post that its column leads to, and among the
remarks on the post that is its subject. -/
theorem navigation_symmetric_journal :
    (∃ rows found,
      (journalResolver.resolve .hasMany (some (postRow 2)) .blank
        { FieldSettings.blank with
          tableName := some "comments", referencingColumn := some "post_id" }
        ⟨(), none, none⟩).1 = .ok (.rows rows) ∧
      (journalResolver.resolve .belongsTo (some commentRow) .blank
        { FieldSettings.blank with
          tableName := some "posts", referencingColumn := some "post_id" }
        ⟨(), none, none⟩).1 = .ok (.row found) ∧
      (commentRow ∈ rows ↔ found = some (postRow 2))) ∧
    ∃ rows,
      (journalResolver.resolve .hasMany (some (postRow 1)) .blank
        { FieldSettings.blank with
          tableName := some "comments", referencingColumn := some "subject_id"
          referencingTypeColumn := some "subject_type" }
        ⟨(), none, none⟩).1 = .ok (.rows rows) ∧
      (commentRow ∈ rows ↔
        (journalResolver.resolve .morphTo (some commentRow) .blank
          { FieldSettings.blank with morphRelation := some subjectRelation }
          ⟨(), none, none⟩).1 = .ok (.tagged (some ("Post", postRow 1)))) := by
  have serves : journalResolver.datastore.SelectsFrom journal (fun _ => True)
      fun selection query => selection = query := journal.selectsFrom_datastore
  have isComment : commentRow ∈ journal.rows "comments" := List.mem_cons_self
  have isFirst : postRow 1 ∈ journal.rows "posts" := List.mem_cons_self
  have isSecond : postRow 2 ∈ journal.rows "posts" := List.mem_cons_of_mem _ List.mem_cons_self
  constructor
  · exact (navigation_symmetric serves isKeyed_journal isSecond isComment trivial trivial).1
      ⟨rfl, rfl, rfl⟩ ⟨rfl, rfl, rfl⟩
  · exact (navigation_symmetric serves isKeyed_journal isFirst isComment trivial trivial).2
      ⟨rfl, rfl, rfl⟩ rfl rfl (Or.inr ⟨"posts", rfl⟩)

end Resolver

end TableGraph
