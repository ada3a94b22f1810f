import Mathlib
import TableGraph.Proofs.Plan.ExposedSettings
import TableGraph.Proofs.Structure.Inverse

/-!
# Hidden parts of a structure

Two structures that show the same tables, columns and references have the same plan,
whatever else they hold, but for one thing: an inverse field carries the long name also
when the referencing table has several columns for the reference, and the hidden ones are
counted.

The main statement, `SchemaPlan.build_eq_of_view`, asks for agreement on that where long
names are not forced; `SchemaPlan.not_build_eq_of_view` is that it has to.
-/

namespace TableGraph

/-! ## Lists that agree -/

section Lists

variable {Left Right Key Item : Type}

/-- Filtering commutes with looking up when all that is looked up passes or nothing of it. -/
theorem filter_find? {items : List Left} {sought test : Left → Bool}
    (alike : ∀ one other, sought one = true → sought other = true → test one = test other) :
    (items.find? sought).filter test = (items.filter test).find? sought := by
  induction items with
  | nil => rfl
  | cons head tail inductionHypothesis =>
      cases isHead : sought head with
      | false =>
          rw [List.find?_cons_of_neg (by simp [isHead]), inductionHypothesis]
          cases kept : test head with
          | true =>
              rw [List.filter_cons, if_pos kept, List.find?_cons_of_neg (by simp [isHead])]
          | false => rw [List.filter_cons, if_neg (by simp [kept])]
      | true =>
          rw [List.find?_cons_of_pos isHead]
          cases kept : test head with
          | true =>
              rw [List.filter_cons, if_pos kept, List.find?_cons_of_pos isHead, Option.filter_some,
                if_pos kept]
          | false =>
              rw [List.filter_cons, if_neg (by simp [kept]), Option.filter_some,
                if_neg (by simp [kept])]
              refine (List.find?_eq_none.mpr ?_).symm
              intro other member isOther
              have passes := (List.mem_filter.mp member).2
              rw [alike other head isOther isHead, kept] at passes
              cases passes

theorem map_eq_map_of_keys {left : List Left} {right : List Right} {leftKey : Left → Key}
    {rightKey : Right → Key} (sameKeys : left.map leftKey = right.map rightKey)
    {leftItem : Left → Item} {rightItem : Right → Item}
    (same : ∀ one ∈ left, ∀ other ∈ right, leftKey one = rightKey other →
      leftItem one = rightItem other) :
    left.map leftItem = right.map rightItem := by
  induction left generalizing right with
  | nil =>
      have nothing : right = [] := by simpa using sameKeys.symm
      rw [nothing]
      rfl
  | cons head tail inductionHypothesis =>
      cases right with
      | nil => cases sameKeys
      | cons first rest =>
          obtain ⟨headKey, tailKeys⟩ := List.cons.inj sameKeys
          have headItem := same head List.mem_cons_self first List.mem_cons_self headKey
          have tailItems := inductionHypothesis tailKeys fun one member other otherMember =>
            same one (List.mem_cons_of_mem head member) other (List.mem_cons_of_mem first otherMember)
          rw [List.map_cons, List.map_cons, headItem, tailItems]

theorem flatMap_eq_filter (test : Left → Bool) {items : List Left} {expand : Left → List Item}
    (nothing : ∀ item ∈ items, test item = false → expand item = []) :
    items.flatMap expand = (items.filter test).flatMap expand := by
  induction items with
  | nil => rfl
  | cons head tail inductionHypothesis =>
      have rest := inductionHypothesis fun item member =>
        nothing item (List.mem_cons_of_mem head member)
      cases tested : test head with
      | true => rw [List.filter_cons, if_pos tested, List.flatMap_cons, List.flatMap_cons, rest]
      | false =>
          rw [List.filter_cons, tested, List.flatMap_cons, nothing head List.mem_cons_self tested, rest]
          rfl

end Lists

/-! ## What is shown -/

/-- What a configuration shows of a table: its name, its columns and its references. -/
structure ShownTable where
  name : String
  columns : List Column
  references : List (String × String)
  deriving DecidableEq

namespace Configuration

variable (configuration : Configuration) (database : Structure)

def shownColumns (table : Table) : List Column :=
  table.columns.filter fun column => configuration.isColumnVisible table.name column.name

/-- Whether a reference is from a column that is there and not hidden to an exposed table. -/
def shows (table : Table) (reference : String × String) : Bool :=
  (configuration.visibleColumn? table reference.1).isSome &&
    (configuration.exposedTables database).any fun target => target.name == reference.2

def shownReferences (table : Table) : List (String × String) :=
  table.belongsTo.filter (configuration.shows database table)

def shown (table : Table) : ShownTable :=
  ⟨table.name, configuration.shownColumns table, configuration.shownReferences database table⟩

/-- What a configuration shows of a structure. -/
def view : List ShownTable :=
  (configuration.exposedTables database).map (configuration.shown database)

/-- Whether, for every reference that is shown, two structures agree on the referencing
table having several columns for it, hidden ones counted. -/
def AgreeOnSeveral (left right : Structure) : Prop :=
  ∀ table ∈ configuration.exposedTables left, ∀ other ∈ configuration.exposedTables right,
    table.name = other.name → ∀ reference ∈ configuration.shownReferences left table,
      (1 < (table.columnsTo reference.2).length ↔ 1 < (other.columnsTo reference.2).length)

variable {configuration}

theorem visibleColumn?_eq_find? (table : Table) (name : String) :
    configuration.visibleColumn? table name =
      (configuration.shownColumns table).find? fun column => column.name == name := by
  rw [visibleColumn?, Table.column?, shownColumns]
  apply filter_find?
  intro one other isOne isOther
  rw [eq_of_beq isOne, eq_of_beq isOther]

theorem column?_of_isSome {table : Table} {name : String}
    (visible : (configuration.visibleColumn? table name).isSome = true) :
    table.column? name = configuration.visibleColumn? table name := by
  obtain ⟨column, isVisible⟩ := Option.isSome_iff_exists.mp visible
  rw [isVisible]
  exact (Option.filter_eq_some_iff.mp isVisible).1

theorem exposedColumns_eq_filter (table : Table) :
    configuration.exposedColumns table =
      (configuration.shownColumns table).filter fun column => isGraphName column.name := by
  rw [shownColumns, List.filter_filter, exposedColumns]
  congr 1
  funext column
  rw [Bool.and_comm]

end Configuration

theorem map_nameObjects {Key : Type} {inflector : Inflector} {used : List String}
    {tables others : List Table} {key otherKey : Table → Key}
    (sameKeys : tables.map key = others.map otherKey)
    (sameName : ∀ table other, key table = otherKey other → table.name = other.name) :
    (nameObjects inflector used tables).map (fun entry => (key entry.1, entry.2)) =
      (nameObjects inflector used others).map fun entry => (otherKey entry.1, entry.2) := by
  induction tables generalizing others used with
  | nil =>
      have nothing : others = [] := by simpa using sameKeys.symm
      rw [nothing]
      rfl
  | cons head tail inductionHypothesis =>
      cases others with
      | nil => cases sameKeys
      | cons first rest =>
          obtain ⟨headKey, tailKeys⟩ := List.cons.inj sameKeys
          have named := sameName head first headKey
          rw [nameObjects, nameObjects, List.map_cons, List.map_cons, headKey, named,
            inductionHypothesis tailKeys]

namespace PlanSource

/-- A source with another structure. -/
def on (source : PlanSource) (database : Structure) : PlanSource :=
  { source with database := database }

/-- Two structures with the inverse references of their own that show the same. -/
structure Alike (source : PlanSource) (left right : Structure) : Prop where
  leftDistinct : (left.tables.map Table.name).Nodup
  rightDistinct : (right.tables.map Table.name).Nodup
  leftInverse : ∀ table ∈ left.tables, table.hasMany = Structure.referencing left.tables table.name
  rightInverse :
    ∀ table ∈ right.tables, table.hasMany = Structure.referencing right.tables table.name
  view : source.configuration.view left = source.configuration.view right
  several : source.configuration.forcedLongNames = false →
    source.configuration.AgreeOnSeveral left right

variable {source : PlanSource}

/-! ## One structure -/

theorem isExposed_eq_any (name : String) :
    source.isExposed name =
      (source.configuration.exposedTables source.database).any fun table => table.name == name := by
  rw [← source.tables_namedTables, List.any_map]
  rfl

theorem belongsToFields_eq (table : Table) :
    table.belongsTo.filterMap (source.belongsToField? table) =
      (source.configuration.shownReferences source.database table).filterMap
        (source.belongsToField? table) := by
  rw [List.filterMap_eq_flatMap_toList, List.filterMap_eq_flatMap_toList]
  apply flatMap_eq_filter (source.configuration.shows source.database table)
  intro reference _ hidden
  cases planned : source.belongsToField? table reference with
  | none => rfl
  | some field =>
      obtain ⟨column, object, visible, named, _⟩ := belongsToField?_eq_some planned
      have exposed := isSome_objectOf?.mp (Option.isSome_of_eq_some named)
      rw [isExposed_eq_any] at exposed
      rw [Configuration.shows, visible, exposed] at hidden
      cases hidden

/-- The inverse fields that one table gives another follow its references that are shown. -/
theorem hasManyFieldsOf_eq (distinct : (source.database.tables.map Table.name).Nodup)
    {other : Table} (present : other ∈ source.database.tables) {object target : String}
    (named : source.objectOf? other.name = some object) (exposed : source.isExposed target = true) :
    source.hasManyFieldsOf (other.name, other.columnsTo target) =
      ((source.configuration.shownReferences source.database other).filter fun reference =>
        reference.2 == target).flatMap fun reference =>
          listAndCount (source.hasManyName other.name (other.columnsTo target) reference.1) object
            (hasManySettings other.name reference.1) := by
  have found := Structure.table?_of_mem distinct present
  have opened : source.hasManyFieldsOf (other.name, other.columnsTo target) =
      (other.columnsTo target).flatMap
        (source.hasManyFields other object (other.columnsTo target)) := by
    simp only [hasManyFieldsOf, named, found]
  rw [opened, Table.columnsTo, List.flatMap_map, ← Table.columnsTo,
    flatMap_eq_filter (source.configuration.shows source.database other), List.filter_comm]
  -- A reference that is shown has both of its fields.
  · apply List.flatMap_congr
    intro reference member
    have shown := (List.mem_filter.mp (List.mem_of_mem_filter member)).2
    have visible := (Bool.and_eq_true_iff.mp shown).1
    rw [hasManyFields_eq, if_neg (by simpa [Option.isSome_iff_ne_none] using visible)]
  -- One that is not has none, for its target is exposed and so its column must be hidden.
  · intro reference member hidden
    have leads : reference.2 = target := eq_of_beq (List.mem_filter.mp member).2
    rw [isExposed_eq_any] at exposed
    rw [Configuration.shows, leads, exposed, Bool.and_true] at hidden
    rw [hasManyFields_eq, if_pos (by simpa using hidden)]

theorem hasManyFields_flatMap_eq (source : PlanSource)
    (distinct : (source.database.tables.map Table.name).Nodup) (target : String) :
    (Structure.referencing source.database.tables target).flatMap source.hasManyFieldsOf =
      (source.configuration.exposedTables source.database).flatMap fun other =>
        source.hasManyFieldsOf (other.name, other.columnsTo target) := by
  have noColumns : ∀ entry ∈ source.database.tables.map fun table =>
      (table.name, table.columnsTo target), (!entry.2.isEmpty) = false →
        source.hasManyFieldsOf entry = [] := by
    rintro ⟨name, columns⟩ _ isEmpty
    have nothing : columns = [] := by simpa using isEmpty
    rw [nothing, hasManyFieldsOf]
    split <;> rfl
  have notExposed : ∀ other ∈ source.database.tables, source.configuration.exposes other = false →
      source.hasManyFieldsOf (other.name, other.columnsTo target) = [] := by
    intro other member hidden
    cases named : source.objectOf? other.name with
    | none => simp only [hasManyFieldsOf, named]
    | some object =>
        obtain ⟨entry, entryMember, sameName, _⟩ := exists_of_objectOf? named
        obtain ⟨present, exposed⟩ := mem_tables_of_named entryMember
        have same : entry.1 = other := List.inj_on_of_nodup_map distinct present member sameName
        rw [same, hidden] at exposed
        cases exposed
  rw [Structure.referencing, ← flatMap_eq_filter _ noColumns, List.flatMap_map,
    flatMap_eq_filter _ notExposed]
  rfl

/-! ## Two structures -/

namespace Alike

variable {left right : Structure} (alike : source.Alike left right)

include alike

theorem namedTables_eq :
    (source.on left).namedTables.map
        (fun entry => (source.configuration.shown left entry.1, entry.2)) =
      (source.on right).namedTables.map
        fun entry => (source.configuration.shown right entry.1, entry.2) :=
  map_nameObjects alike.view fun _ _ same => congrArg ShownTable.name same

theorem objectOf?_eq (name : String) :
    (source.on left).objectOf? name = (source.on right).objectOf? name := by
  have sameEntries : (source.on left).namedTables.map (fun entry => (entry.1.name, entry.2)) =
      (source.on right).namedTables.map fun entry => (entry.1.name, entry.2) := by
    apply map_eq_map_of_keys alike.namedTables_eq
    intro entry _ other _ same
    obtain ⟨sameTable, sameObject⟩ := Prod.mk.inj same
    exact Prod.ext (congrArg ShownTable.name sameTable) sameObject
  exact congrArg (fun entries => (pairsOf entries).lookup name) sameEntries

theorem isExposed_eq (name : String) :
    (source.on left).isExposed name = (source.on right).isExposed name := by
  rw [Bool.eq_iff_iff, ← isSome_objectOf?, ← isSome_objectOf?, alike.objectOf?_eq]

/-- An exposed table of one name is found in both structures, and the same is shown of it. -/
theorem exists_table? {name : String} (exposed : (source.on left).isExposed name = true) :
    ∃ table other, left.table? name = some table ∧ right.table? name = some other ∧
      source.configuration.shown left table = source.configuration.shown right other := by
  obtain ⟨entry, member, rfl⟩ := isExposed_iff.mp exposed
  have listed := List.mem_map_of_mem
    (f := fun entry : Table × String => (source.configuration.shown left entry.1, entry.2)) member
  rw [alike.namedTables_eq] at listed
  obtain ⟨other, otherMember, same⟩ := List.mem_map.mp listed
  have sameShown := (Prod.mk.inj same).1
  have sameName : other.1.name = entry.1.name := congrArg ShownTable.name sameShown
  have otherFound := Structure.table?_of_mem alike.rightDistinct (mem_tables_of_named otherMember).1
  rw [sameName] at otherFound
  exact ⟨entry.1, other.1, Structure.table?_of_mem alike.leftDistinct (mem_tables_of_named member).1,
    otherFound, sameShown.symm⟩

/-! ### Fields of one table -/

omit alike in
theorem visibleColumn?_eq {table other : Table}
    (same : source.configuration.shown left table = source.configuration.shown right other)
    (name : String) :
    source.configuration.visibleColumn? table name =
      source.configuration.visibleColumn? other name := by
  have columns : source.configuration.shownColumns table = source.configuration.shownColumns other :=
    congrArg ShownTable.columns same
  rw [Configuration.visibleColumn?_eq_find?, Configuration.visibleColumn?_eq_find?, columns]

theorem name_morphOwner?_eq (relation : MorphRelation) :
    ((source.on left).morphOwner? relation).map Table.name =
      ((source.on right).morphOwner? relation).map Table.name := by
  rw [morphOwner?, morphOwner?, alike.isExposed_eq]
  cases exposed : (source.on right).isExposed relation.table with
  | false => rfl
  | true =>
      rw [← alike.isExposed_eq] at exposed
      obtain ⟨table, other, found, otherFound, same⟩ := alike.exists_table? exposed
      have sameName : table.name = other.name := congrArg ShownTable.name same
      rw [if_pos rfl, if_pos rfl, on, on, found, otherFound, Option.filter_some, Option.filter_some,
        visibleColumn?_eq same, visibleColumn?_eq same]
      split
      · exact congrArg some sameName
      · rfl

theorem isSome_morphOwner?_eq (relation : MorphRelation) :
    ((source.on left).morphOwner? relation).isSome =
      ((source.on right).morphOwner? relation).isSome := by
  have sameNames := congrArg Option.isSome (alike.name_morphOwner?_eq relation)
  rwa [Option.isSome_map, Option.isSome_map] at sameNames

theorem belongsToField?_eq {table other : Table}
    (same : source.configuration.shown left table = source.configuration.shown right other)
    (reference : String × String) :
    (source.on left).belongsToField? table reference =
      (source.on right).belongsToField? other reference := by
  have sameColumn := visibleColumn?_eq same reference.1
  rw [belongsToField?, belongsToField?, alike.objectOf?_eq]
  exact congrArg (Option.bind · _) sameColumn

theorem morphToField?_eq {table other : Table} (otherMember : other ∈ right.tables)
    (same : source.configuration.shown left table = source.configuration.shown right other)
    (relation : MorphRelation) :
    (source.on left).morphToField? table relation =
      (source.on right).morphToField? other relation := by
  have sameName : table.name = other.name := congrArg ShownTable.name same
  have sameOwned := alike.isSome_morphOwner?_eq relation
  rw [morphToField?, morphToField?, sameName, sameOwned]
  split
  -- The nullability is read from the column without a look at whether it is hidden.
  · rename_i owned
    obtain ⟨isOther, otherOwned⟩ := Bool.and_eq_true_iff.mp owned
    obtain ⟨owner, isOwner⟩ := Option.isSome_iff_exists.mp otherOwned
    obtain ⟨_, found, idVisible, _⟩ := morphOwner?_eq_some isOwner
    have otherFound := Structure.table?_of_mem alike.rightDistinct otherMember
    rw [← eq_of_beq isOther] at otherFound
    have ownerIsOther : owner = other := Option.some.inj (found.symm.trans otherFound)
    have sameColumn := visibleColumn?_eq same relation.idColumn
    have otherVisible :
        (source.configuration.visibleColumn? other relation.idColumn).isSome = true := by
      rw [← ownerIsOther]
      exact idVisible
    have visible : (source.configuration.visibleColumn? table relation.idColumn).isSome = true := by
      rw [sameColumn]
      exact otherVisible
    have sameUnfiltered : table.column? relation.idColumn = other.column? relation.idColumn := by
      rw [Configuration.column?_of_isSome visible, Configuration.column?_of_isSome otherVisible,
        sameColumn]
    rw [sameUnfiltered]
  · rfl

theorem hasManyName_eq {table other : Table}
    (exposed : table ∈ source.configuration.exposedTables left)
    (otherExposed : other ∈ source.configuration.exposedTables right)
    (sameName : table.name = other.name) {reference : String × String}
    (shown : reference ∈ source.configuration.shownReferences left table) :
    (source.on left).hasManyName table.name (table.columnsTo reference.2) reference.1 =
      (source.on right).hasManyName other.name (other.columnsTo reference.2) reference.1 := by
  rw [hasManyName, hasManyName, sameName, on, on]
  cases forced : source.configuration.forcedLongNames with
  | true => rfl
  | false =>
      have several := alike.several forced table exposed other otherExposed sameName reference shown
      simp only [several]

theorem hasManyFieldsOf_eq {table other : Table}
    (exposed : table ∈ source.configuration.exposedTables left)
    (otherExposed : other ∈ source.configuration.exposedTables right)
    (same : source.configuration.shown left table = source.configuration.shown right other)
    {target : String} (targetExposed : (source.on left).isExposed target = true) :
    (source.on left).hasManyFieldsOf (table.name, table.columnsTo target) =
      (source.on right).hasManyFieldsOf (other.name, other.columnsTo target) := by
  have sameName : table.name = other.name := congrArg ShownTable.name same
  have sameReferences : source.configuration.shownReferences left table =
      source.configuration.shownReferences right other := congrArg ShownTable.references same
  have otherTargetExposed := targetExposed
  rw [alike.isExposed_eq] at otherTargetExposed
  have isExposed : (source.on left).isExposed table.name = true := isExposed_of_mem exposed
  obtain ⟨object, named⟩ := Option.isSome_iff_exists.mp (isSome_objectOf?.mpr isExposed)
  have otherNamed := named
  rw [alike.objectOf?_eq, sameName] at otherNamed
  rw [PlanSource.hasManyFieldsOf_eq alike.leftDistinct (List.mem_of_mem_filter exposed) named
      targetExposed,
    PlanSource.hasManyFieldsOf_eq alike.rightDistinct (List.mem_of_mem_filter otherExposed) otherNamed
      otherTargetExposed]
  change ((source.configuration.shownReferences left table).filter _).flatMap _ =
    ((source.configuration.shownReferences right other).filter _).flatMap _
  rw [← sameReferences]
  apply List.flatMap_congr
  intro reference member
  obtain ⟨shown, leads⟩ := List.mem_filter.mp member
  have named := alike.hasManyName_eq exposed otherExposed sameName shown
  rw [eq_of_beq leads] at named
  rw [named, sameName]

theorem relationFields_eq {table other : Table}
    (exposed : table ∈ source.configuration.exposedTables left)
    (otherExposed : other ∈ source.configuration.exposedTables right)
    (same : source.configuration.shown left table = source.configuration.shown right other) :
    (source.on left).relationFields table = (source.on right).relationFields other := by
  have member := List.mem_of_mem_filter exposed
  have otherMember := List.mem_of_mem_filter otherExposed
  have sameName : table.name = other.name := congrArg ShownTable.name same
  have sameReferences : source.configuration.shownReferences left table =
      source.configuration.shownReferences right other := congrArg ShownTable.references same
  have forward : table.belongsTo.filterMap ((source.on left).belongsToField? table) =
      other.belongsTo.filterMap ((source.on right).belongsToField? other) := by
    have sameField : (source.on left).belongsToField? table =
        (source.on right).belongsToField? other :=
      funext (alike.belongsToField?_eq same)
    rw [belongsToFields_eq, belongsToFields_eq, sameField]
    exact congrArg _ sameReferences
  have polymorphic : (source.on left).morphToField? table = (source.on right).morphToField? other :=
    funext (alike.morphToField?_eq otherMember same)
  have backward : table.hasMany.flatMap (source.on left).hasManyFieldsOf =
      other.hasMany.flatMap (source.on right).hasManyFieldsOf := by
    have targetExposed : (source.on left).isExposed table.name = true := isExposed_of_mem exposed
    have flattened : ((source.configuration.exposedTables left).map fun one =>
        (source.on left).hasManyFieldsOf (one.name, one.columnsTo table.name)) =
          (source.configuration.exposedTables right).map fun one =>
            (source.on right).hasManyFieldsOf (one.name, one.columnsTo table.name) :=
      map_eq_map_of_keys alike.view fun one oneExposed another anotherExposed sameShown =>
        alike.hasManyFieldsOf_eq oneExposed anotherExposed sameShown targetExposed
    rw [alike.leftInverse table member, alike.rightInverse other otherMember, ← sameName]
    have leftFields := (source.on left).hasManyFields_flatMap_eq alike.leftDistinct table.name
    have rightFields := (source.on right).hasManyFields_flatMap_eq alike.rightDistinct table.name
    rw [List.flatMap_def] at leftFields rightFields
    exact leftFields.trans ((congrArg List.flatten flattened).trans rightFields.symm)
  rw [relationFields, relationFields, forward, polymorphic, backward]
  rfl

/-! ### The whole plan -/

theorem objectPlan_eq {entry other : Table × String} (member : entry ∈ (source.on left).namedTables)
    (otherMember : other ∈ (source.on right).namedTables)
    (same : (source.configuration.shown left entry.1, entry.2) =
      (source.configuration.shown right other.1, other.2)) :
    (source.on left).objectPlan entry = (source.on right).objectPlan other := by
  obtain ⟨sameShown, sameObject⟩ := Prod.mk.inj same
  have sameName : entry.1.name = other.1.name := congrArg ShownTable.name sameShown
  have sameColumns : source.configuration.shownColumns entry.1 =
      source.configuration.shownColumns other.1 := congrArg ShownTable.columns sameShown
  have columns : (source.on left).columnFields entry.1 = (source.on right).columnFields other.1 := by
    rw [columnFields, columnFields]
    change (source.configuration.exposedColumns entry.1).map _ =
      (source.configuration.exposedColumns other.1).map _
    rw [Configuration.exposedColumns_eq_filter, Configuration.exposedColumns_eq_filter, sameColumns]
    rfl
  have relations := alike.relationFields_eq (mem_exposedTables member)
    (mem_exposedTables otherMember) sameShown
  rw [objectPlan, objectPlan, sameName, sameObject, columns, relations]

theorem addMorphRelation_eq :
    (source.on left).addMorphRelation = (source.on right).addMorphRelation := by
  funext objects relation
  have sameNames := alike.name_morphOwner?_eq relation
  rw [addMorphRelation, addMorphRelation]
  cases owned : (source.on left).morphOwner? relation with
  | none =>
      rw [owned] at sameNames
      rw [Option.map_eq_none_iff.mp sameNames.symm]
  | some owner =>
      rw [owned] at sameNames
      obtain ⟨other, otherOwned, sameName⟩ := Option.map_eq_some_iff.mp sameNames.symm
      simp only [otherOwned, sameName]
      rfl

theorem plan_eq : (source.on left).plan = (source.on right).plan := by
  have roots : ((source.on left).namedTables.flatMap fun entry => rootFields entry.1 entry.2) =
      (source.on right).namedTables.flatMap fun entry => rootFields entry.1 entry.2 := by
    rw [List.flatMap_def, List.flatMap_def]
    refine congrArg List.flatten (map_eq_map_of_keys alike.namedTables_eq ?_)
    intro entry _ other _ same
    obtain ⟨sameShown, sameObject⟩ := Prod.mk.inj same
    have sameName : entry.1.name = other.1.name := congrArg ShownTable.name sameShown
    rw [rootFields, rootFields, sameName, sameObject]
  have query : (source.on left).plan.query = (source.on right).plan.query := by
    rw [query_plan, query_plan, roots]
  have started : (source.on left).namedTables.map (source.on left).objectPlan =
      (source.on right).namedTables.map (source.on right).objectPlan :=
    map_eq_map_of_keys alike.namedTables_eq fun entry member other otherMember =>
      alike.objectPlan_eq member otherMember
  have objects : (source.on left).plan.objects = (source.on right).plan.objects := by
    rw [objects_plan, objects_plan, objectsAfter, objectsAfter, started, alike.addMorphRelation_eq]
    rfl
  exact SchemaPlan.mk.injEq .. |>.mpr ⟨query, objects⟩

end Alike

end PlanSource

/-! ## Structures of tables -/

namespace Structure

variable {tables : List Table}

theorem names_ofTables (distinct : (tables.map Table.name).Nodup) :
    (ofTables tables).tables.map Table.name = tables.map Table.name := by
  rw [tables_ofTables distinct, List.map_map]
  rfl

theorem hasMany_ofTables (distinct : (tables.map Table.name).Nodup) :
    ∀ table ∈ (ofTables tables).tables,
      table.hasMany = referencing (ofTables tables).tables table.name := by
  rw [tables_ofTables distinct]
  rintro _ member
  obtain ⟨table, _, rfl⟩ := List.mem_map.mp member
  rw [referencing, referencing, List.map_map]
  rfl

end Structure

namespace SchemaPlan

variable {configuration : Configuration} {mapper : ColumnTypeMapper} {inflector : Inflector}
  {patterns : PatternEngine}

/-- Structures that show the same have the same plan, if long names are forced or the
same references are among several of their tables. -/
theorem build_eq_of_view {left right : List Table}
    (leftDistinct : (left.map Table.name).Nodup) (rightDistinct : (right.map Table.name).Nodup)
    (view : configuration.view (.ofTables left) = configuration.view (.ofTables right))
    (several : configuration.forcedLongNames = false →
      configuration.AgreeOnSeveral (.ofTables left) (.ofTables right)) :
    SchemaPlan.build (.ofTables left) configuration mapper inflector patterns =
      SchemaPlan.build (.ofTables right) configuration mapper inflector patterns := by
  rw [SchemaPlan.build, SchemaPlan.build]
  congr 1
  funext strip
  let source : PlanSource := ⟨.ofTables left, configuration, mapper, inflector, strip⟩
  have alike : source.Alike (.ofTables left) (.ofTables right) :=
    { leftDistinct := by rwa [Structure.names_ofTables leftDistinct]
      rightDistinct := by rwa [Structure.names_ofTables rightDistinct]
      leftInverse := Structure.hasMany_ofTables leftDistinct
      rightInverse := Structure.hasMany_ofTables rightDistinct
      view := view
      several := several }
  exact alike.plan_eq

/-! ### A catalog -/

private def catalogTable (name : String) (columns : List Column) (belongsTo : List (String × String)) :
    Table :=
  ⟨name, ⟨"id", false, true, "INTEGER", none⟩ :: columns, belongsTo, []⟩

private def catalog : List Table :=
  [catalogTable "categories" [] [],
    catalogTable "products" [.plain "category_id" "INTEGER"] [("category_id", "categories")]]

/-- The catalog with a table of suppliers that products and categories reference. -/
private def supplied : List Table :=
  [catalogTable "suppliers" [] [],
    catalogTable "categories" [.plain "supplier_id" "INTEGER"] [("supplier_id", "suppliers")],
    catalogTable "products" [.plain "supplier_id" "INTEGER", .plain "category_id" "INTEGER"]
      [("supplier_id", "suppliers"), ("category_id", "categories")]]

/-- The catalog with the category that a product had before. -/
private def recategorized : List Table :=
  [catalogTable "categories" [] [],
    catalogTable "products" [.plain "category_id" "INTEGER", .plain "old_category_id" "INTEGER"]
      [("category_id", "categories"), ("old_category_id", "categories")]]

private def withoutSuppliers : Configuration :=
  { Configuration.standard with
    exceptTables := ["suppliers"]
    exceptColumns := [("categories", ["supplier_id"]), ("products", ["supplier_id"])]
    forcedLongNames := false }

private def withoutOldCategory : Configuration :=
  { Configuration.standard with
    exceptColumns := [("products", ["old_category_id"])], forcedLongNames := false }

/-- Hidden suppliers leave no trace in the plan. -/
theorem build_eq_of_view_suppliers :
    (supplied.map Table.name).Nodup ∧ (catalog.map Table.name).Nodup ∧
      withoutSuppliers.view (.ofTables supplied) = withoutSuppliers.view (.ofTables catalog) ∧
      withoutSuppliers.AgreeOnSeveral (.ofTables supplied) (.ofTables catalog) ∧
      SchemaPlan.build (.ofTables supplied) withoutSuppliers nativeTypeMapper (fun _ => []) =
        SchemaPlan.build (.ofTables catalog) withoutSuppliers nativeTypeMapper (fun _ => []) := by
  have leftDistinct : (supplied.map Table.name).Nodup := by decide
  have rightDistinct : (catalog.map Table.name).Nodup := by decide
  have view : withoutSuppliers.view (.ofTables supplied) =
      withoutSuppliers.view (.ofTables catalog) := by decide
  have several : withoutSuppliers.AgreeOnSeveral (.ofTables supplied) (.ofTables catalog) := by
    unfold Configuration.AgreeOnSeveral
    decide
  exact ⟨leftDistinct, rightDistinct, view, several,
    build_eq_of_view leftDistinct rightDistinct view fun _ => several⟩

/-- A hidden reference lengthens the name of the field for one that is shown. -/
theorem not_build_eq_of_view :
    ¬ ∀ (configuration : Configuration) (mapper : ColumnTypeMapper) (inflector : Inflector)
        (left right : List Table), (left.map Table.name).Nodup → (right.map Table.name).Nodup →
        configuration.view (.ofTables left) = configuration.view (.ofTables right) →
        SchemaPlan.build (.ofTables left) configuration mapper inflector =
          SchemaPlan.build (.ofTables right) configuration mapper inflector := by
  intro claimed
  have same := claimed withoutOldCategory nativeTypeMapper (fun _ => []) recategorized catalog
    (by decide) (by decide) (by decide)
  obtain ⟨strip, read⟩ : ∃ strip, withoutOldCategory.readStripPattern = .ok strip := ⟨_, by cbv⟩
  let long : PlanSource :=
    ⟨.ofTables recategorized, withoutOldCategory, nativeTypeMapper, fun _ => [], strip⟩
  let short : PlanSource :=
    ⟨.ofTables catalog, withoutOldCategory, nativeTypeMapper, fun _ => [], strip⟩
  rw [build_of_read read, build_of_read read] at same
  have samePlan : long.plan = short.plan := Except.ok.inj same
  let namesProducts (plan : SchemaPlan) : Option Bool :=
    plan.objects.head?.map fun object => hasField object.fields "products"
  have longName : namesProducts long.plan = some false := rfl
  have shortName : namesProducts short.plan = some true := rfl
  rw [samePlan, shortName] at longName
  cases longName

end SchemaPlan

end TableGraph
