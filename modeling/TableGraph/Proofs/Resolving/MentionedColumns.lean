import TableGraph.Proofs.Database.HeldTables
import TableGraph.Proofs.Plan.ShownFields
import TableGraph.Proofs.Resolving.TypedFields
import TableGraph.Schema.Basic

/-!
# Columns that a field mentions

The compiler asks neither the configuration nor the structure: a name that an untrusted client
writes stands in the statement as it is.  Beside such names a statement mentions only columns
that are exposed or a key (`PlanSource.mentions_reached`).
-/

namespace TableGraph

/-- The columns of the selected table that a client names for a field of a kind. -/
def ResolverKind.namedColumns (kind : ResolverKind) (arguments : Arguments) : List String :=
  (kind.applied arguments).restrictingNames ++ (kind.applied arguments).orderNames

/-- A name that a statement on a table may mention: a part of a name that the client wrote, or
of the name of a column that is exposed or a key. -/
def Configuration.MayMention (configuration : Configuration) (described : Structure)
    (table : String) (written : List String) (mentioned : String) : Prop :=
  (∃ name ∈ written, mentioned.toList ∈ Identifier.parts name.toList) ∨
    ∃ column, configuration.Spares described table column ∧
      mentioned.toList ∈ Identifier.parts column.toList

namespace Configuration

variable {configuration : Configuration} {described : Structure} {table : String}
  {written : List String} {name : String}

theorem mayMention_written (isWritten : name ∈ written) :
    PartsIn (configuration.MayMention described table written) name := by
  intro part isPart
  exact Or.inl ⟨name, isWritten, by rwa [String.toList_ofList]⟩

theorem mayMention_spared (spares : configuration.Spares described table name) :
    PartsIn (configuration.MayMention described table written) name := by
  intro part isPart
  exact Or.inr ⟨name, spares, by rwa [String.toList_ofList]⟩

end Configuration

theorem Database.referenced_eq_ok_some {database : Database} {row : Row} {table column : String}
    {selection : TableSelection}
    (refers : database.referenced row table column = .ok (some selection)) :
    ∃ key value, database.primaryKey table = .ok key ∧
      selection = (TableSelection.ofTable table).behind ([(key, value)].map Fragment.equality) := by
  rw [referenced] at refers
  split at refers
  · cases refers
  · obtain ⟨key, isKey, made⟩ := map_eq_ok refers
    exact ⟨key, _, isKey, (Option.some.inj made).symm⟩

theorem Configuration.Exposes.spares {configuration : Configuration} {described : Structure}
    {table column : String} (shown : configuration.Exposes described table column) :
    configuration.Spares described table column :=
  ⟨shown.present, Configuration.hides_of_visible shown.visible described⟩

theorem SchemaPlan.hasObject_of_typeNames {plan : SchemaPlan} {table name : String}
    (known : (Schema.typeNames plan).lookup table = some name) : plan.HasObject table name := by
  obtain ⟨object, planned, same⟩ := List.mem_map.mp (mem_of_lookup_pairsOf known)
  obtain ⟨sameTable, sameName⟩ := Prod.mk.inj same
  exact ⟨object, planned, sameTable, sameName⟩

theorem isUndotted_of_isGraphName {name : String} (valid : isGraphName name = true) :
    IsUndotted name := by
  intro isDot
  rw [isGraphName] at valid
  split at valid
  · cases valid
  · next first rest characters =>
      obtain ⟨isFirst, areRest⟩ := Bool.and_eq_true_iff.mp valid
      rw [characters] at isDot
      rcases List.mem_cons.mp isDot with rfl | later
      · exact absurd isFirst (by decide)
      · exact absurd (List.all_eq_true.mp areRest '.' later) (by decide)

namespace PlanSource

variable {source : PlanSource} {database : Database} {field : FieldPlan} {parent : Option Row}
  {kind : ResolverKind} {opened selection : TableSelection}

/-- A selection of all rows of a table of a plan where columns that are spared have some
values. -/
def SelectsSpared (source : PlanSource) (table : String) (selection : TableSelection) : Prop :=
  ∃ (object : String) (conditions : List (String × Value)),
    source.plan.HasObject table object ∧
      selection = (TableSelection.ofTable table).behind (conditions.map Fragment.equality) ∧
      ∀ condition ∈ conditions, source.configuration.Spares source.database table condition.1

theorem selectsSpared_referenced (holds : database.Holds source.database) {row : Row}
    {table column object : String} (leads : source.plan.HasObject table object)
    (refers : database.referenced row table column = .ok (some selection)) :
    source.SelectsSpared table selection := by
  obtain ⟨key, value, isKey, made⟩ := Database.referenced_eq_ok_some refers
  refine ⟨object, [(key, value)], leads, made, List.forall_mem_singleton.mpr ?_⟩
  exact holds.spares_primaryKey (exists_described_of_hasObject leads).2 isKey

theorem selectsSpared_openedRelated {row : Row} {settings : FieldSettings}
    {table column object : String} {typeColumn : Option String}
    (leads : source.plan.HasObject table object)
    (isSet : settings = { FieldSettings.blank with
      tableName := some table, referencingColumn := some column,
      referencingTypeColumn := typeColumn })
    (shown : source.configuration.Exposes source.database table column)
    (typeShown : ∀ named ∈ typeColumn,
      source.configuration.Exposes source.database table named)
    (opens : database.openedRelated row settings = .ok selection) :
    source.SelectsSpared table selection := by
  obtain ⟨_, _, key, tableSet, columnSet, _, made⟩ := Database.openedRelated_eq_ok opens
  rw [isSet] at tableSet columnSet
  cases tableSet
  cases columnSet
  refine ⟨object, _, leads, made, fun condition among => ?_⟩
  rcases List.mem_cons.mp among with rfl | ofType
  · exact shown.spares
  · obtain ⟨named, isNamed, rfl⟩ := List.mem_map.mp ofType
    rw [isSet] at isNamed
    exact (typeShown named (Option.mem_toList.mp isNamed)).spares

theorem selectsSpared_opened (holds : database.Holds source.database)
    (asks : source.plan.Asks field parent) (isKind : field.resolver = some kind)
    (opens : database.opened (Schema.typeNames source.plan) kind parent field.settings =
      .ok (some selection)) : ∃ table, source.SelectsSpared table selection := by
  cases asks with
  | root parent member =>
      obtain @⟨table, object, isRoot, settings, leads⟩ := isRootOf_query member
      rcases isRoot with ⟨resolver, type⟩ | ⟨resolver, type⟩ <;>
        · obtain rfl := Option.some.inj (resolver.symm.trans isKind)
          rw [settings] at opens
          obtain rfl := Option.some.inj (Except.ok.inj opens)
          exact ⟨table, object, [], leads, rfl, fun _ absent => by cases absent⟩
  | member planned member ofTable =>
      cases isShown_objects planned member with
      | column resolver =>
          rw [resolver] at isKind
          cases isKind
      | belongsTo resolver type settings leads shown =>
          obtain rfl := Option.some.inj (resolver.symm.trans isKind)
          rw [settings] at opens
          exact ⟨_, selectsSpared_referenced holds leads (mapError_eq_ok opens)⟩
      | hasMany isMany settings leads shown typeShown =>
          rcases isMany with ⟨resolver, type⟩ | ⟨resolver, type⟩ <;>
            · obtain rfl := Option.some.inj (resolver.symm.trans isKind)
              have related : (database.openedRelated _ field.settings).map some =
                  .ok (some selection) := opens
              obtain ⟨_, isOpened, made⟩ := map_eq_ok related
              obtain rfl := Option.some.inj made
              exact ⟨_, selectsSpared_openedRelated leads settings shown typeShown isOpened⟩
      | @morphTo relation resolver type settings idShown typeShown =>
          obtain rfl := Option.some.inj (resolver.symm.trans isKind)
          rw [settings] at opens
          change Database.openedMorph _ _ _ relation = _ at opens
          rw [Database.openedMorph] at opens
          split at opens
          · cases opens
          · split at opens
            · cases opens
            · next known =>
                have leads := SchemaPlan.hasObject_of_typeNames known
                exact ⟨_, selectsSpared_referenced holds leads (mapError_eq_ok opens)⟩

/-- To reach a selection for an untrusted client, a field executes a statement whose clauses
mention, beside what the client wrote, only columns that are exposed or a key. -/
theorem mentions_reached (holds : database.Holds source.database)
    (asks : source.plan.Asks field parent) (isKind : field.resolver = some kind) {depth : Nat}
    {arguments : Arguments}
    (reaches : database.reached ⟨false, depth⟩ (Schema.typeNames source.plan) kind parent arguments
      field.settings = .ok (some selection)) :
    ∃ statement, selection.render kind.head = .ok statement ∧
      ∀ query, Query.ofStatement statement.text (statement.binds.map Cell.ofValue) = .ok query →
        query.IsOver
          (source.configuration.MayMention source.database selection.table
            (kind.namedColumns arguments)) selection.table := by
  have slotted := Database.isSlotted_reached reaches
  have isUsual : kind.head ∈ [TableSelection.Head.rows, .count "*"] := by
    cases kind <;> simp [ResolverKind.head]
  obtain ⟨opened?, opens, narrows⟩ := bind_eq_ok reaches
  cases opened? with
  | none => cases narrows
  | some opened =>
      obtain ⟨calls, compiled, made⟩ := map_eq_ok narrows
      obtain ⟨table, _, conditions, leads, rfl, spared⟩ :=
        selectsSpared_opened holds asks isKind opens
      obtain rfl := Option.some.inj made
      rw [TableSelection.foldl_narrow_behind] at slotted ⊢
      have isTable : ((calls.foldl TableSelection.narrow (.ofTable table)).behind
          (conditions.map Fragment.equality)).table = table := by
        obtain ⟨filter, having, _, _, narrowed⟩ := Compiler.foldl_argumentCalls compiled table
        rw [narrowed]
        rfl
      have written : ∀ name ∈ kind.namedColumns arguments,
          PartsIn (source.configuration.MayMention source.database table
            (kind.namedColumns arguments)) name :=
        fun _ isWritten => Configuration.mayMention_written isWritten
      have names := (Compiler.namesIn_foldl compiled written table).behind fun condition among =>
        Configuration.mayMention_spared (spared condition among)
      have undotted := isUndotted_of_isGraphName (exists_described_of_hasObject leads).1
      rw [isTable]
      have mentions := slotted.exists_statement names (by rwa [isTable]) isUsual
      rwa [isTable] at mentions

end PlanSource

end TableGraph
