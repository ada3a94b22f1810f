import TableGraph.Proofs.Resolving.AlikeSelections
import TableGraph.Proofs.Resolving.MentionedColumns
import TableGraph.Proofs.Schema.Generation
import TableGraph.Request.Execution

/-!
# Fields over databases that differ in hidden columns

Two databases hold the tables of a structure and differ in hidden columns only.  A planned
field of an untrusted caller who names shown columns resolves alike on both: it fails alike,
counts the same rows and finds rows that differ in hidden values only
(`PlanSource.agree_resolveField`).
-/

namespace TableGraph

/-! ## Values -/

theorem Resolving.agree_lift {State First : Type} {twins : Twins State}
    (result : Except RequestError First) :
    Agree twins (fun answer other => answer = other ∧ result = .ok answer)
      (liftM result : Resolving State First) (liftM result) := by
  refine Agree.of_results ?_ (fun _ => lift_eq result) fun _ => lift_eq result
  cases result with
  | error failure => exact .error failure
  | ok answer => exact .ok ⟨rfl, rfl⟩

/-- Values that differ in hidden values only.  A row is one of the table of the object type
that the value should have; only in the union of the object types a row is of any of them. -/
inductive Request.FieldValue.Alike (plan : SchemaPlan) (hidden : String → String → Bool)
    (typeName : String) : Request.FieldValue → Request.FieldValue → Prop where
  | json (shown : Json) : Alike plan hidden typeName (.json shown) (.json shown)
  | row {row other : Row} (leads : plan.HasObject row.table typeName)
      (sameRow : row.veiled hidden = other.veiled hidden) :
      Alike plan hidden typeName (.row row) (.row other)
  | rows {rows others : List Row} {table : String} (leads : plan.HasObject table typeName)
      (areAlike : AlikeRows hidden table rows others) :
      Alike plan hidden typeName (.rows rows) (.rows others)
  | tagged {row other : Row} {object : String} (isMorph : typeName = TypeName.morph)
      (polymorphic : plan.hasMorphFields = true)
      (leads : plan.HasObject row.table object)
      (sameRow : row.veiled hidden = other.veiled hidden) :
      Alike plan hidden typeName (.tagged object row) (.tagged object other)

/-- What is found for a field, if anything, differs in hidden values only. -/
def FieldPlan.FindsAlike (plan : SchemaPlan) (hidden : String → String → Bool)
    (field : FieldPlan) : Option Request.FieldValue → Option Request.FieldValue → Prop :=
  Option.Rel (Request.FieldValue.Alike plan hidden field.typeReference.baseName)

theorem FieldPlan.baseName_of_type {field : FieldPlan} {typeName : String}
    (type : field.type = .object typeName ∨ field.type = .list typeName ∨
      field.type = .morph ∧ typeName = TypeName.morph) :
    field.typeReference.baseName = typeName := by
  rw [SchemaPlan.baseName_typeReference]
  rcases type with type | type | ⟨type, rfl⟩ <;> rw [type]

/-- The arguments of a field name no hidden column of the table that it selects from. -/
def FieldPlan.NamesShown (configuration : Configuration) (described : Structure)
    (field : FieldPlan) (kind : ResolverKind) (arguments : Arguments) : Prop :=
  ∀ table, field.settings.tableName = some table → ∀ name ∈ kind.namedColumns arguments,
    configuration.ShowsName described table name

/-- The arguments that a client gives to a field, when they are read at all, name no hidden
column of the table that it selects from. -/
def FieldPlan.GivenShown (configuration : Configuration) (described : Structure)
    (field : FieldPlan) (given : List (String × Json)) : Prop :=
  ∀ kind ∈ field.resolver, ∀ arguments, Arguments.read given = .ok arguments →
    field.NamesShown configuration described kind arguments

theorem SchemaPlan.hasMorphFields_of_mem {plan : SchemaPlan} {object : ObjectPlan}
    {field : FieldPlan} (planned : object ∈ plan.objects) (member : field ∈ object.fields)
    (isMorph : field.type = .morph) : plan.hasMorphFields = true := by
  refine List.any_eq_true.mpr ⟨object, planned, List.any_eq_true.mpr ⟨field, member, ?_⟩⟩
  simpa using isMorph

/-! ## Fields -/

namespace PlanSource

open Request.Execution (ofResolved)
open Resolving (agree_lift)

/-- The columns of the tables of a source that are hidden. -/
abbrev hides (source : PlanSource) : String → String → Bool :=
  source.configuration.hides source.database

/-- What the resolvers of an untrusted schema share. -/
abbrev resolver (source : PlanSource) (depth : Nat) : Resolver Database TableSelection :=
  Database.resolver ⟨false, depth⟩ (Schema.typeNames source.plan)

variable {source : PlanSource} {first second : Database} {depth : Nat} {field : FieldPlan}
  {arguments : Arguments} {row other : Row} {table column object : String}
  {typeColumn : Option String}

section Holding

variable (holds : first.Holds source.database)
  (separates : source.configuration.SeparatesNames source.database)
  (indexed : first.IndexesShown source.database source.hides)
  (alike : first.veiled source.hides = second.veiled source.hides)

include holds separates indexed alike

/-! ### References -/

/-- A row that references one of a held table leads to rows that differ in hidden values
only. -/
theorem agree_fetchOne (sameRow : row.veiled source.hides = other.veiled source.hides)
    (shown : source.configuration.Exposes source.database row.table column)
    (leads : source.plan.HasObject table object) :
    Agree (Database.twins source.hides first second) (AlikeRow source.hides table)
      ((source.resolver depth).fetchOne row table column)
      ((source.resolver depth).fetchOne other table column) := by
  obtain ⟨valid, isDescribed⟩ := exists_described_of_hasObject leads
  have same := Database.referenced_congr alike sameRow shown.spares.shown table
  have opened : Agree (Database.twins source.hides first second)
      (fun opened others => opened = others ∧ first.referenced row table column = .ok opened)
      (Resolving.attempt (Database.datastore.openReferenced row table column))
      (Resolving.attempt (Database.datastore.openReferenced other table column)) := by
    have attempted (database : Database) (asked : Row) (logs : QueryLogs) :
        Resolving.attempt (Database.datastore.openReferenced asked table column) ⟨database, logs⟩ =
          ((database.referenced asked table column).mapError .execution, ⟨database, logs⟩) :=
      Resolving.attempt_eq rfl
    refine Agree.of_results ?_ (attempted first row) (attempted second other)
    rw [← same]
    cases first.referenced row table column with
    | error failure => exact .error _
    | ok opened => exact .ok ⟨rfl, rfl⟩
  refine opened.bind fun opened others both => ?_
  obtain ⟨rfl, refers⟩ := both
  cases opened with
  | none => exact Agree.of_answers ⟨rfl, fun _ absent => by cases absent⟩
  | some selection =>
      obtain ⟨key, value, isKey, rfl⟩ := Database.referenced_eq_ok_some refers
      have limited : Agree (Database.twins source.hides first second)
          (fun narrowed others => narrowed = others ∧ narrowed =
            [Narrowing.limit (some 1) none].foldl TableSelection.narrow
              ((TableSelection.ofTable table).behind ([(key, value)].map Fragment.equality)))
          (Resolving.call (Database.datastore.narrow _ (.limit (some 1) none)))
          (Resolving.call (Database.datastore.narrow _ (.limit (some 1) none))) :=
        Agree.of_results (.ok ⟨rfl, rfl⟩) (fun _ => rfl) fun _ => rfl
      refine limited.bind fun narrowed others both => ?_
      obtain ⟨rfl, rfl⟩ := both
      have compiled : (⟨false, depth⟩ : Compiler).argumentCalls
          { Arguments.blank with pagination := some ⟨some 1, none⟩ } =
            .ok [.limit (some 1) none] := rfl
      have spared : ∀ condition ∈ [(key, value)],
          source.configuration.Spares source.database table condition.1 :=
        List.forall_mem_singleton.mpr (holds.spares_primaryKey isDescribed isKey)
      have fetched := Database.agree_executeFetch holds separates indexed alike isDescribed
        (isUndotted_of_isGraphName valid) spared compiled fun name isName => by cases isName
      exact fetched.bind fun rows others areAlike => Agree.of_answers areAlike.head?

theorem agree_belongsTo (sameRow : row.veiled source.hides = other.veiled source.hides)
    (shown : source.configuration.Exposes source.database row.table column)
    (leads : source.plan.HasObject table object) :
    let settings := { FieldSettings.blank with
      tableName := some table, referencingColumn := some column }
    Agree (Database.twins source.hides first second) (AlikeRow source.hides table)
      ((source.resolver depth).belongsTo row settings)
      ((source.resolver depth).belongsTo other settings) := by
  intro settings
  refine (agree_lift settings.requireTable).bind fun _ _ isTable => ?_
  refine (agree_lift settings.requireColumn).bind fun _ _ isColumn => ?_
  obtain ⟨rfl, isTable⟩ := isTable
  obtain ⟨rfl, isColumn⟩ := isColumn
  cases isTable
  cases isColumn
  exact agree_fetchOne holds separates indexed alike sameRow shown leads

/-- A polymorphic reference leads to rows of one table. -/
theorem agree_morphTo {relation : MorphRelation}
    (sameRow : row.veiled source.hides = other.veiled source.hides)
    (idShown : source.configuration.Exposes source.database row.table relation.idColumn)
    (typeShown : source.configuration.Exposes source.database row.table relation.typeColumn) :
    let settings := { FieldSettings.blank with morphRelation := some relation }
    Agree (Database.twins source.hides first second)
      (fun found others => found = none ∧ others = none ∨ ∃ typeName one another,
        found = some (typeName, one) ∧ others = some (typeName, another) ∧
          source.plan.HasObject one.table typeName ∧
            one.veiled source.hides = another.veiled source.hides)
      ((source.resolver depth).morphTo row settings)
      ((source.resolver depth).morphTo other settings) := by
  intro settings
  refine (agree_lift settings.requireMorphRelation).bind fun _ _ isRelation => ?_
  obtain ⟨rfl, isRelation⟩ := isRelation
  cases isRelation
  rw [← Row.value?_congr sameRow typeShown.spares.shown]
  cases (row.value? relation.typeColumn).bind Value.tableName? with
  | none => exact Agree.of_answers (Or.inl ⟨rfl, rfl⟩)
  | some table =>
      have sameNames : (source.resolver depth).typeNames = Schema.typeNames source.plan := rfl
      cases known : (Schema.typeNames source.plan).lookup table with
      | none =>
          simp only [sameNames, known]
          exact Agree.of_failure _
      | some typeName =>
          simp only [sameNames, known]
          have leads := SchemaPlan.hasObject_of_typeNames known
          have fetched : Agree (Database.twins source.hides first second) (AlikeRow source.hides table)
              ((source.resolver depth).fetchOne row table relation.idColumn)
              ((source.resolver depth).fetchOne other table relation.idColumn) :=
            agree_fetchOne holds separates indexed alike sameRow idShown leads
          refine fetched.bind fun found others areAlike => Agree.of_answers ?_
          have alike := areAlike.alike
          cases found with
          | none =>
              cases others with
              | none => exact Or.inl ⟨rfl, rfl⟩
              | some another => cases alike
          | some one =>
              cases others with
              | none => cases alike
              | some another =>
                  have ofTable := areAlike.ofTable one rfl
                  exact Or.inr ⟨typeName, one, another, rfl, rfl, ofTable ▸ leads,
                    Option.some.inj alike⟩

/-! ### Related rows -/

variable (depth) in
omit separates indexed in
/-- The rows that reference a row are selected from a table under conditions on columns that
are not hidden. -/
theorem agree_openRelated (sameRow : row.veiled source.hides = other.veiled source.hides)
    (isDescribed : ∃ owner ∈ source.database.tables, owner.name = row.table)
    (leads : source.plan.HasObject table object) {settings : FieldSettings}
    (isSet : settings = { FieldSettings.blank with
      tableName := some table, referencingColumn := some column,
      referencingTypeColumn := typeColumn })
    (shown : source.configuration.Exposes source.database table column)
    (typeShown : ∀ named ∈ typeColumn,
      source.configuration.Exposes source.database table named) :
    Agree (Database.twins source.hides first second)
      (fun selection others => selection = others ∧ source.SelectsSpared table selection)
      ((source.resolver depth).openRelated row settings)
      ((source.resolver depth).openRelated other settings) := by
  have same : first.openedRelated row settings = second.openedRelated other settings :=
    Database.openedRelated_congr holds alike sameRow isDescribed
  have opened (database : Database) (asked : Row) (logs : QueryLogs) :
      (source.resolver depth).openRelated asked settings ⟨database, logs⟩ =
        (database.openedRelated asked settings, ⟨database, logs⟩) :=
    Database.openRelated_eq asked settings
  refine Agree.of_results ?_ (opened first row) (opened second other)
  rw [← same]
  cases opens : first.openedRelated row settings with
  | error failure => exact .error failure
  | ok selection => exact .ok ⟨rfl, selectsSpared_openedRelated leads isSet shown typeShown opens⟩

/-! ### Fields of a kind -/

/-- A field of an object type resolves alike when its arguments name shown columns. -/
theorem agree_member {kind : ResolverKind} {object : ObjectPlan}
    (planned : object ∈ source.plan.objects) (member : field ∈ object.fields)
    (ofTable : row.table = object.table)
    (sameRow : row.veiled source.hides = other.veiled source.hides)
    (isKind : field.resolver = some kind)
    (named : field.NamesShown source.configuration source.database kind arguments) :
    Agree (Database.twins source.hides first second)
      (fun resolved others =>
        field.FindsAlike source.plan source.hides (ofResolved resolved) (ofResolved others))
      ((source.resolver depth).resolve kind (some row) arguments field.settings)
      ((source.resolver depth).resolve kind (some other) arguments field.settings) := by
  have isShown := isShown_objects planned member
  have isDescribed := (exists_described_of_hasObject ⟨object, planned, rfl, rfl⟩).2
  rw [← ofTable] at isShown isDescribed
  cases isShown with
  | column resolver =>
      rw [resolver] at isKind
      cases isKind
  | belongsTo resolver type settings leads shown =>
      obtain rfl := Option.some.inj (resolver.symm.trans isKind)
      rw [settings]
      refine (agree_belongsTo holds separates indexed alike sameRow shown leads).bind
        fun found others areAlike => Agree.of_answers ?_
      have alike := areAlike.alike
      cases found with
      | none =>
          cases others with
          | none => exact .none
          | some another => cases alike
      | some one =>
          cases others with
          | none => cases alike
          | some another =>
              rw [← areAlike.ofTable one rfl] at leads
              rw [FieldPlan.FindsAlike, FieldPlan.baseName_of_type (Or.inl type)]
              exact .some (.row leads (Option.some.inj alike))
  | @hasMany table object column typeColumn isMany settings leads shown typeShown =>
      obtain ⟨valid, isTable⟩ := exists_described_of_hasObject leads
      have shownNames : ∀ name ∈ kind.namedColumns arguments,
          source.configuration.ShowsName source.database table name :=
        named table (by rw [settings])
      have opened := agree_openRelated depth holds alike sameRow isDescribed leads settings
        shown typeShown
      rcases isMany with ⟨resolver, type⟩ | ⟨resolver, type⟩
      · obtain rfl := Option.some.inj (resolver.symm.trans isKind)
        refine opened.bind fun selection _ both => ?_
        obtain ⟨rfl, _, conditions, _, rfl, spared⟩ := both
        refine (Database.agree_fetch holds separates indexed alike isTable (isUndotted_of_isGraphName valid)
          spared shownNames).bind fun rows others areAlike => Agree.of_answers ?_
        rw [FieldPlan.FindsAlike, FieldPlan.baseName_of_type (Or.inr (Or.inl type))]
        exact .some (.rows leads areAlike)
      · obtain rfl := Option.some.inj (resolver.symm.trans isKind)
        refine opened.bind fun selection _ both => ?_
        obtain ⟨rfl, _, conditions, _, rfl, spared⟩ := both
        refine (Database.agree_count holds separates indexed alike isTable (isUndotted_of_isGraphName valid)
          spared fun name isName => shownNames name (List.mem_append_left _ isName)).bind
            fun number others same => Agree.of_answers ?_
        rw [same]
        exact .some (.json _)
  | morphTo resolver type settings idShown typeShown =>
      obtain rfl := Option.some.inj (resolver.symm.trans isKind)
      rw [settings]
      refine (agree_morphTo holds separates indexed alike sameRow idShown typeShown).bind
        fun found others areAlike => Agree.of_answers ?_
      rcases areAlike with ⟨rfl, rfl⟩ | ⟨typeName, one, another, rfl, rfl, leads, same⟩
      · exact .none
      · have polymorphic : source.plan.hasMorphFields = true :=
          SchemaPlan.hasMorphFields_of_mem planned member type
        have isMorph : field.typeReference.baseName = TypeName.morph :=
          FieldPlan.baseName_of_type (Or.inr (Or.inr ⟨type, rfl⟩))
        exact .some (.tagged isMorph polymorphic leads same)

/-- A root field resolves alike when its arguments name shown columns. -/
theorem agree_root {kind : ResolverKind} (isRoot : field.IsRootOf source)
    (isKind : field.resolver = some kind)
    (named : field.NamesShown source.configuration source.database kind arguments) :
    Agree (Database.twins source.hides first second)
      (fun resolved others =>
        field.FindsAlike source.plan source.hides (ofResolved resolved) (ofResolved others))
      ((source.resolver depth).resolve kind none arguments field.settings)
      ((source.resolver depth).resolve kind none arguments field.settings) := by
  obtain @⟨table, object, isRoot, settings, leads⟩ := isRoot
  obtain ⟨valid, isTable⟩ := exists_described_of_hasObject leads
  have shownNames : ∀ name ∈ kind.namedColumns arguments,
      source.configuration.ShowsName source.database table name :=
    named table (by rw [settings])
  have unfiltered : ∀ condition ∈ ([] : List (String × Value)),
      source.configuration.Spares source.database table condition.1 := fun _ absent => by cases absent
  have opened : Agree (Database.twins source.hides first second)
      (fun selection others => selection = others ∧
        selection = (TableSelection.ofTable table).behind
          (([] : List (String × Value)).map Fragment.equality))
      ((source.resolver depth).openTable field.settings)
      ((source.resolver depth).openTable field.settings) := by
    rw [settings]
    exact Agree.of_results (.ok ⟨rfl, rfl⟩) (fun _ => rfl) fun _ => rfl
  rcases isRoot with ⟨resolver, type⟩ | ⟨resolver, type⟩
  · obtain rfl := Option.some.inj (resolver.symm.trans isKind)
    refine opened.bind fun selection _ both => ?_
    obtain ⟨rfl, rfl⟩ := both
    refine (Database.agree_fetch holds separates indexed alike isTable (isUndotted_of_isGraphName valid)
      unfiltered shownNames).bind fun rows others areAlike => Agree.of_answers ?_
    rw [FieldPlan.FindsAlike, FieldPlan.baseName_of_type (Or.inr (Or.inl type))]
    exact .some (.rows leads areAlike)
  · obtain rfl := Option.some.inj (resolver.symm.trans isKind)
    refine opened.bind fun selection _ both => ?_
    obtain ⟨rfl, rfl⟩ := both
    refine (Database.agree_count holds separates indexed alike isTable (isUndotted_of_isGraphName valid)
      unfiltered fun name isName => shownNames name (List.mem_append_left _ isName)).bind
        fun number others same => Agree.of_answers ?_
    rw [same]
    exact .some (.json _)

omit holds separates indexed alike in
/-- The value of a column that is not hidden is the same. -/
theorem agree_columnValue (sameRow : row.veiled source.hides = other.veiled source.hides)
    {column : String} (shown : source.hides row.table column = false) (scalar : Scalar) :
    Agree (Database.twins source.hides first second)
      (field.FindsAlike source.plan source.hides)
      (liftM (Request.Execution.columnValue row column scalar) : Resolving Database _)
      (liftM (Request.Execution.columnValue other column scalar)) := by
  unfold Request.Execution.columnValue
  rw [← Row.value?_congr sameRow shown]
  cases row.value? column with
  | none => exact Agree.of_answers .none
  | some value =>
      simp only
      cases value.isNull with
      | true => exact Agree.of_answers .none
      | false =>
          cases scalar.showValue value with
          | error failure => exact Agree.of_failure failure
          | ok shown => exact Agree.of_answers (.some (.json shown))

/-- A planned field resolves alike when its arguments name shown columns. -/
theorem agree_resolveField (execution : Request.Execution Database TableSelection)
    (isResolver : execution.resolver = source.resolver depth) {parent otherParent : Option Row}
    (asks : source.plan.Asks field parent)
    (sameParent : parent.map (Row.veiled source.hides) = otherParent.map (Row.veiled source.hides))
    {given : List (String × Json)}
    (shown : field.GivenShown source.configuration source.database given) :
    Agree (Database.twins source.hides first second)
      (field.FindsAlike source.plan source.hides)
      (execution.resolveField field parent given) (execution.resolveField field otherParent given) := by
  cases asks with
  | root parent member =>
      have isRoot := isRootOf_query member
      obtain ⟨kind, isKind, noParent⟩ : ∃ kind, field.resolver = some kind ∧
          kind.needsParent = false := by
        obtain ⟨⟨resolver, _⟩ | ⟨resolver, _⟩, _, _⟩ := isRoot
        · exact ⟨_, resolver, rfl⟩
        · exact ⟨_, resolver, rfl⟩
      unfold Request.Execution.resolveField
      rw [isKind, isResolver]
      refine (agree_lift _).bind fun arguments _ read => ?_
      obtain ⟨rfl, read⟩ := read
      simp only [noParent]
      exact (agree_root holds separates indexed alike isRoot isKind (shown kind isKind arguments read)).bind
        fun _ _ found => Agree.of_answers found
  | @member object _ row planned member ofTable =>
      obtain ⟨other, rfl, sameRow⟩ := Option.map_eq_some_iff.mp sameParent.symm
      have isShown := isShown_objects planned member
      rw [← ofTable] at isShown
      unfold Request.Execution.resolveField
      cases isKind : field.resolver with
      | none =>
          obtain ⟨scalar, column, type, settings, shown⟩ := isShown.exists_column isKind
          rw [type, settings]
          exact agree_columnValue sameRow.symm shown.spares.shown scalar
      | some kind =>
          rw [isResolver]
          refine (agree_lift _).bind fun arguments _ read => ?_
          obtain ⟨rfl, read⟩ := read
          simp only [isShown.needsParent isKind]
          exact (agree_member holds separates indexed alike planned member ofTable sameRow.symm isKind
            (shown kind isKind arguments read)).bind fun _ _ found => Agree.of_answers found

end Holding

end PlanSource

end TableGraph
