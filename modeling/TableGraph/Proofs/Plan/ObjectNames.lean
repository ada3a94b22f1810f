import Mathlib
import TableGraph.Plan.Builder

/-!
# Names of object types

The exposed tables are named one after the other, each by its singular unless
that is taken, else by its own name.  Only the singular is compared with the
names given before, so a table that keeps its own name may share it with an
earlier table whose singular it is.

The main statement, `SchemaPlan.nodup_names_iff`, is that this is the only way in which
two object types of a plan come to share a name.
-/

namespace TableGraph

/-! ## Naming tables -/

variable {inflector : Inflector} {patterns : PatternEngine}

/-- A table keeps its name or gets its first singular, which then is free. -/
theorem objectName_eq (used : List String) (table : String) :
    objectName inflector used table = table ∨
      (objectName inflector used table ∉ used ∧
        (inflector table).head? = some (objectName inflector used table) ∧
          isGraphName (objectName inflector used table) = true) := by
  unfold objectName
  split
  · rename_i singular offered
    split
    · rename_i free
      obtain ⟨valid, notUsed⟩ := Bool.and_eq_true_iff.mp free
      exact Or.inr ⟨by simpa using notUsed, offered, valid⟩
    · exact Or.inl rfl
  · exact Or.inl rfl

theorem tables_nameObjects (used : List String) (tables : List Table) :
    (nameObjects inflector used tables).map Prod.fst = tables := by
  induction tables generalizing used with
  | nil => rfl
  | cons head tail inductionHypothesis =>
      rw [nameObjects, List.map_cons, inductionHypothesis]

/-- What a name that was given to a table is, when some names were used before. -/
theorem mem_nameObjects {used : List String} {tables : List Table} {entry : Table × String}
    (member : entry ∈ nameObjects inflector used tables) :
    entry.2 = entry.1.name ∨
      (entry.2 ∉ used ∧ (inflector entry.1.name).head? = some entry.2 ∧
        isGraphName entry.2 = true) := by
  induction tables generalizing used with
  | nil => cases member
  | cons head tail inductionHypothesis =>
      rcases List.mem_cons.mp member with rfl | later
      · exact objectName_eq used head.name
      · rcases inductionHypothesis later with kept | ⟨notUsed, offered, valid⟩
        · exact Or.inl kept
        · exact Or.inr ⟨fun found => notUsed (List.mem_cons_of_mem _ found), offered, valid⟩

/-- Two tables share a name only when the later one keeps its own. -/
theorem pairwise_nameObjects (used : List String) (tables : List Table) :
    (nameObjects inflector used tables).Pairwise fun earlier later =>
      earlier.2 = later.2 → later.2 = later.1.name := by
  induction tables generalizing used with
  | nil => exact List.Pairwise.nil
  | cons head tail inductionHypothesis =>
      rw [nameObjects]
      refine List.pairwise_cons.mpr ⟨fun later member same => ?_, inductionHypothesis _⟩
      rcases mem_nameObjects member with kept | ⟨notUsed, _⟩
      · exact kept
      · exact absurd (same ▸ List.mem_cons_self) notUsed

/-! ## Object types of a plan -/

namespace PlanSource

variable (source : PlanSource)

/-- What the naming of the tables says of an object type: its table and its name. -/
def naming (object : ObjectPlan) : String × String := (object.table, object.name)

/-- Inverse polymorphic relations add fields only. -/
theorem naming_addMorphFields (relation : MorphRelation) (owner : String) (object : ObjectPlan) :
    naming (source.addMorphFields relation owner object) = naming object := by
  unfold addMorphFields
  split <;> rfl

theorem naming_addMorphRelation (objects : List ObjectPlan) (relation : MorphRelation) :
    (source.addMorphRelation objects relation).map naming = objects.map naming := by
  unfold addMorphRelation
  split
  · rfl
  · split
    · rfl
    · rename_i owner _
      rw [List.map_map]
      exact List.map_congr_left fun object _ => source.naming_addMorphFields relation owner.name object

theorem naming_plan :
    source.plan.objects.map naming =
      source.namedTables.map fun entry => (entry.1.name, entry.2) := by
  have kept :
      ∀ (relations : List MorphRelation) (objects : List ObjectPlan),
        (relations.foldl source.addMorphRelation objects).map naming = objects.map naming := by
    intro relations
    induction relations with
    | nil => exact fun _ => rfl
    | cons head tail inductionHypothesis =>
        intro objects
        rw [List.foldl_cons, inductionHypothesis, naming_addMorphRelation]
  rw [plan, kept, List.map_map]
  rfl

end PlanSource

namespace SchemaPlan

variable {database : Structure} {configuration : Configuration} {mapper : ColumnTypeMapper}
  {plan : SchemaPlan}

/-- The object types of a plan are those of the exposed tables, named one after the
other. -/
theorem naming_of_build
    (built : SchemaPlan.build database configuration mapper inflector patterns = .ok plan) :
    plan.objects.map PlanSource.naming =
      (nameObjects inflector [] (configuration.exposedTables database)).map
        fun entry => (entry.1.name, entry.2) := by
  obtain ⟨strip, rfl⟩ :
      ∃ strip, PlanSource.plan ⟨database, configuration, mapper, inflector, strip⟩ = plan := by
    unfold SchemaPlan.build at built
    cases read : configuration.readStripPattern patterns with
    | error failure => simp [read, Except.map] at built
    | ok strip =>
        rw [read] at built
        exact ⟨strip, Except.ok.inj built⟩
  exact PlanSource.naming_plan _

/-- Every exposed table has an object type, in the order of the tables, named by
the table or by its first singular.  The names are distinct exactly when no table
keeps its own name behind an object type that has this name already. -/
theorem nodup_names_iff
    (built : SchemaPlan.build database configuration mapper inflector patterns = .ok plan) :
    plan.objects.map ObjectPlan.table = (configuration.exposedTables database).map Table.name ∧
      (∀ object ∈ plan.objects, object.name = object.table ∨
        (inflector object.table).head? = some object.name ∧ isGraphName object.name = true) ∧
      ((plan.objects.map ObjectPlan.name).Nodup ↔
        plan.objects.Pairwise fun earlier later =>
          later.name = later.table → earlier.name ≠ later.table) := by
  have named := naming_of_build built
  refine ⟨?_, fun object member => ?_, ?_⟩
  · calc
      plan.objects.map ObjectPlan.table = (plan.objects.map PlanSource.naming).map Prod.fst := by
        rw [List.map_map]
        rfl
      _ = ((nameObjects inflector [] (configuration.exposedTables database)).map Prod.fst).map
            Table.name := by
        rw [named, List.map_map, List.map_map]
        rfl
      _ = (configuration.exposedTables database).map Table.name := by
        rw [tables_nameObjects]
  · have found := List.mem_map_of_mem (f := PlanSource.naming) member
    rw [named] at found
    obtain ⟨entry, entryMember, same⟩ := List.mem_map.mp found
    obtain ⟨table, name⟩ := Prod.mk.inj same
    rw [← table, ← name]
    exact (mem_nameObjects entryMember).imp id And.right
  · have shared :
        plan.objects.Pairwise fun earlier later =>
          earlier.name = later.name → later.name = later.table := by
      have onNames :
          (plan.objects.map PlanSource.naming).Pairwise fun earlier later =>
            earlier.2 = later.2 → later.2 = later.1 := by
        rw [named, List.pairwise_map]
        exact pairwise_nameObjects [] (configuration.exposedTables database)
      exact List.pairwise_map.mp onNames
    rw [List.nodup_iff_pairwise_ne, List.pairwise_map]
    constructor
    · intro distinct
      refine distinct.imp fun {earlier later} different kept => ?_
      rw [← kept]
      exact different
    · intro apart
      refine (apart.and shared).imp fun {earlier later} both same => ?_
      have kept := both.2 same
      exact both.1 kept (same.trans kept)

/-! ### Two tables of one singular -/

/-- The rules behind the first ones, with their patterns read. -/
def rulesBehind (count : Nat) : List (Pattern × Inflector.Ending) :=
  (Inflector.rules.drop count).filterMap fun rule =>
    (Pattern.parse? rule.pattern).map fun pattern => (pattern, rule.ending)

/-- A singular that the last rules give a word is its singular. -/
theorem english_of_rulesBehind {word singular : String} (count : Nat)
    (nonempty : word.isEmpty = false)
    (regular : Inflector.uncountable.contains word = false ∧
      Inflector.irregular.lookup word = none)
    (found : (rulesBehind count).reverse.findSome? (Inflector.applyRule word) = some singular) :
    Inflector.english word = [singular] := by
  have split :
      Inflector.readRules =
        ((Inflector.rules.take count).filterMap fun rule =>
          (Pattern.parse? rule.pattern).map fun pattern => (pattern, rule.ending)) ++
          rulesBehind count := by
    rw [rulesBehind, ← List.filterMap_append, List.take_append_drop]
    rfl
  have decided :
      Inflector.readRules.reverse.findSome? (Inflector.applyRule word) = some singular := by
    rw [split, List.reverse_append, List.findSome?_append, found]
    rfl
  rw [Inflector.english, nonempty, Inflector.englishSingular, regular.1, regular.2, decided]
  rfl

/-- A table with nothing but a key. -/
def keyed (name : String) : Table := ⟨name, [⟨"id", false, true, "INTEGER", none⟩], [], []⟩

private theorem english_order_statuses : Inflector.english "order_statuses" = ["status"] :=
  english_of_rulesBehind 21 (by decide) (by constructor <;> cbv) (by cbv)

theorem english_status : Inflector.english "status" = ["status"] :=
  english_of_rulesBehind 21 (by decide) (by constructor <;> cbv) (by cbv)

theorem exists_build {tables : List Table}
    (exposed : Configuration.standard.exposedTables ⟨tables⟩ = tables) :
    ∃ plan, SchemaPlan.build ⟨tables⟩ .standard nativeTypeMapper Inflector.english = .ok plan ∧
      plan.objects.map PlanSource.naming =
        (nameObjects Inflector.english [] tables).map fun entry => (entry.1.name, entry.2) := by
  obtain ⟨strip, read⟩ : ∃ strip, Configuration.standard.readStripPattern = .ok strip :=
    ⟨_, by cbv⟩
  have built :
      SchemaPlan.build ⟨tables⟩ .standard nativeTypeMapper Inflector.english =
        .ok (PlanSource.plan ⟨⟨tables⟩, .standard, nativeTypeMapper, Inflector.english, strip⟩) := by
    rw [SchemaPlan.build, read]
    rfl
  have named := naming_of_build built
  rw [exposed] at named
  exact ⟨_, built, named⟩

/-- The names are distinct when the table of the singular comes first. -/
theorem nodup_names_iff_singular_first :
    ∃ plan, SchemaPlan.build ⟨[keyed "status", keyed "order_statuses"]⟩ .standard
        nativeTypeMapper Inflector.english = .ok plan ∧
      plan.objects.map ObjectPlan.table = ["status", "order_statuses"] ∧
      (plan.objects.map ObjectPlan.name).Nodup := by
  have exposed :
      Configuration.standard.exposedTables ⟨[keyed "status", keyed "order_statuses"]⟩ =
        [keyed "status", keyed "order_statuses"] := by
    cbv
  obtain ⟨plan, built, named⟩ := exists_build exposed
  obtain ⟨tables, _, distinct⟩ := nodup_names_iff built
  rw [exposed] at tables
  refine ⟨plan, built, tables, distinct.mpr ?_⟩
  have apart :
      (plan.objects.map PlanSource.naming).Pairwise fun earlier later =>
        later.2 = later.1 → earlier.2 ≠ later.1 := by
    rw [named]
    simp only [nameObjects, objectName, keyed, english_order_statuses, english_status]
    decide
  exact List.pairwise_map.mp apart

/-- Both object types get the name of the table of the singular when it comes last. -/
theorem not_nodup_names_singular_last :
    ([keyed "order_statuses", keyed "status"].map Table.name).Nodup ∧
      ∃ plan, SchemaPlan.build ⟨[keyed "order_statuses", keyed "status"]⟩ .standard
          nativeTypeMapper Inflector.english = .ok plan ∧
        plan.objects.map ObjectPlan.table = ["order_statuses", "status"] ∧
        plan.objects.map ObjectPlan.name = ["status", "status"] ∧
        ¬ (plan.objects.map ObjectPlan.name).Nodup := by
  have exposed :
      Configuration.standard.exposedTables ⟨[keyed "order_statuses", keyed "status"]⟩ =
        [keyed "order_statuses", keyed "status"] := by
    cbv
  obtain ⟨plan, built, named⟩ := exists_build exposed
  simp only [nameObjects, objectName, keyed, english_order_statuses, english_status] at named
  have tables := congrArg (List.map Prod.fst) named
  rw [List.map_map] at tables
  have names : plan.objects.map ObjectPlan.name = ["status", "status"] := by
    have seconds := congrArg (List.map Prod.snd) named
    rw [List.map_map] at seconds
    exact seconds
  have repeated : ¬ (plan.objects.map ObjectPlan.name).Nodup := by
    rw [names]
    decide
  exact ⟨by decide, plan, built, tables, names, repeated⟩

end SchemaPlan

end TableGraph
