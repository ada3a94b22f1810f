import Mathlib.Data.List.Nodup
import TableGraph.Database.Introspection
import TableGraph.Proofs.Database.Consistency
import TableGraph.Proofs.Structure.Inverse

/-!
# Introspected edges

The columns of each foreign key are gathered from the listing of the engine, and a key of
one column becomes an edge.  So an edge of a table comes from a foreign key that its
definition declares on this column alone (`exists_foreignKey_of_edge`).
-/

namespace TableGraph

/-! ## Gathering the keys of a listing -/

namespace ForeignKeyEntry

/-- The column of an entry with the table it leads to. -/
def part (entry : ForeignKeyEntry) : String × String := (entry.column, entry.table)

/-- The parts of a key in a listing. -/
def partsOf (listing : List ForeignKeyEntry) (key : Nat) : Parts :=
  (listing.filter fun entry => entry.key == key).map part

/-- The keys that a listing has, each once and with all its parts. -/
structure Gathers (gathered : List (Nat × Parts)) (listing : List ForeignKeyEntry) : Prop where
  distinct : (gathered.map Prod.fst).Nodup
  parts : ∀ group ∈ gathered, group.2 = partsOf listing group.1
  complete : ∀ entry ∈ listing, entry.key ∈ gathered.map Prod.fst

theorem partsOf_append (listing : List ForeignKeyEntry) (entry : ForeignKeyEntry) (key : Nat) :
    partsOf (listing ++ [entry]) key =
      partsOf listing key ++ if entry.key = key then [entry.part] else [] := by
  by_cases same : entry.key = key
  · simp [partsOf, same]
  · simp [partsOf, same]

theorem gather_eq (entry : ForeignKeyEntry) (gathered : List (Nat × Parts))
    (distinct : (gathered.map Prod.fst).Nodup) :
    gather entry gathered =
      if entry.key ∈ gathered.map Prod.fst then
        gathered.map fun group =>
          (group.1, group.2 ++ if entry.key = group.1 then [entry.part] else [])
      else gathered ++ [(entry.key, [entry.part])] := by
  induction gathered with
  | nil => rfl
  | cons head tail inductionHypothesis =>
      obtain ⟨fresh, tailDistinct⟩ := List.nodup_cons.mp distinct
      by_cases same : head.1 = entry.key
      · have others : tail.map (fun group =>
            (group.1, group.2 ++ if entry.key = group.1 then [entry.part] else [])) = tail := by
          refine (List.map_congr_left fun group member => ?_).trans (List.map_id tail)
          have different : entry.key ≠ group.1 := fun isGroup =>
            fresh (same.trans isGroup ▸ List.mem_map_of_mem member)
          simp [different]
        have known : entry.key ∈ (head :: tail).map Prod.fst :=
          List.mem_cons.mpr (Or.inl same.symm)
        rw [gather, if_pos same, if_pos known, List.map_cons, others, if_pos same.symm]
        rfl
      · rw [gather, if_neg same, inductionHypothesis tailDistinct]
        simp only [List.map_cons, List.mem_cons, Ne.symm same, false_or, if_false, List.append_nil]
        split <;> rfl

theorem Gathers.gather {gathered : List (Nat × Parts)} {listing : List ForeignKeyEntry}
    (gathers : Gathers gathered listing) (entry : ForeignKeyEntry) :
    Gathers (entry.gather gathered) (listing ++ [entry]) := by
  rw [gather_eq entry gathered gathers.distinct]
  by_cases known : entry.key ∈ gathered.map Prod.fst
  · rw [if_pos known]
    have sameKeys : (gathered.map fun group =>
        (group.1, group.2 ++ if entry.key = group.1 then [entry.part] else [])).map Prod.fst =
          gathered.map Prod.fst := List.map_map
    refine ⟨sameKeys ▸ gathers.distinct, fun group member => ?_, fun other member => ?_⟩
    · obtain ⟨earlier, isEarlier, rfl⟩ := List.mem_map.mp member
      rw [partsOf_append, gathers.parts earlier isEarlier]
    · rw [sameKeys]
      rcases List.mem_append.mp member with before | isNew
      · exact gathers.complete other before
      · rwa [List.mem_singleton.mp isNew]
  · rw [if_neg known]
    -- A key that is not gathered yet has no entry before.
    have absent : partsOf listing entry.key = [] := by
      refine List.map_eq_nil_iff.mpr (List.filter_eq_nil_iff.mpr fun other member same => ?_)
      exact known (eq_of_beq same ▸ gathers.complete other member)
    refine ⟨?_, fun group member => ?_, fun other member => ?_⟩
    · rw [List.map_append, List.nodup_append]
      refine ⟨gathers.distinct, List.nodup_singleton _, fun key isKey other isOther same => known ?_⟩
      have isEntry : key = entry.key := same.trans (List.mem_singleton.mp isOther)
      exact isEntry ▸ isKey
    · rw [partsOf_append]
      rcases List.mem_append.mp member with before | isNew
      · have different : entry.key ≠ group.1 := fun same =>
          known (same ▸ List.mem_map_of_mem before)
        rw [if_neg different, List.append_nil, gathers.parts group before]
      · rw [List.mem_singleton.mp isNew, absent, if_pos rfl, List.nil_append]
    · rw [List.map_append]
      rcases List.mem_append.mp member with before | isNew
      · exact List.mem_append_left _ (gathers.complete other before)
      · rw [List.mem_singleton.mp isNew]
        exact List.mem_append_right _ List.mem_cons_self

theorem gathers_foldl (listing : List ForeignKeyEntry) :
    Gathers (listing.foldl (fun gathered entry => gather entry gathered) []) listing := by
  induction listing using List.reverseRecOn with
  | nil => exact ⟨List.nodup_nil, fun _ member => absurd member List.not_mem_nil,
      fun _ member => absurd member List.not_mem_nil⟩
  | append_singleton earlier entry inductionHypothesis =>
      rw [List.foldl_append, List.foldl_cons, List.foldl_nil]
      exact inductionHypothesis.gather entry

/-- The parts of a key are all its entries in the listing. -/
theorem exists_key_of_mem_keys {listing : List ForeignKeyEntry} {parts : Parts}
    (member : parts ∈ keys listing) : ∃ key, parts = partsOf listing key := by
  obtain ⟨group, isGroup, rfl⟩ := List.mem_map.mp (List.mem_reverse.mp member)
  exact ⟨group.1, (gathers_foldl listing).parts group isGroup⟩

/-! ## Edges -/

theorem mem_addEdge {edges : List (String × String)} {parts : Parts} {edge : String × String}
    (member : edge ∈ addEdge edges parts) : edge ∈ edges ∨ parts = [edge] := by
  unfold addEdge at member
  split at member
  · split at member
    · exact Or.inl member
    · exact (List.mem_append.mp member).imp_right fun isNew => by rw [List.mem_singleton.mp isNew]
  · exact Or.inl member

theorem mem_foldl_addEdge {keys : List Parts} {edges : List (String × String)}
    {edge : String × String} (member : edge ∈ keys.foldl addEdge edges) :
    edge ∈ edges ∨ [edge] ∈ keys := by
  induction keys generalizing edges with
  | nil => exact Or.inl member
  | cons head tail inductionHypothesis =>
      rcases inductionHypothesis member with earlier | later
      · rcases mem_addEdge earlier with before | isHead
        · exact Or.inl before
        · exact Or.inr (isHead ▸ List.mem_cons_self)
      · exact Or.inr (List.mem_cons_of_mem head later)

end ForeignKeyEntry

namespace TableDefinition

variable {table : TableDefinition} {edge : String × String}

def entriesOf (table : TableDefinition) (numbered : ForeignKey × Nat) : List ForeignKeyEntry :=
  numbered.1.columns.map fun column =>
    ⟨numbered.2, table.declaredName column, numbered.1.table⟩

theorem foreignKeyListing_eq (table : TableDefinition) :
    table.foreignKeyListing = table.foreignKeys.reverse.zipIdx.flatMap table.entriesOf :=
  rfl

/-- The entries of a key are parts of it, in their order. -/
theorem parts_entriesOf_sublist {numbered : ForeignKey × Nat}
    (member : numbered ∈ table.foreignKeys.reverse.zipIdx) :
    ((table.entriesOf numbered).map ForeignKeyEntry.part).Sublist
      (ForeignKeyEntry.partsOf table.foreignKeyListing numbered.2) := by
  have kept : (table.entriesOf numbered).filter (fun entry => entry.key == numbered.2) =
      table.entriesOf numbered := by
    refine List.filter_eq_self.mpr fun entry isEntry => ?_
    obtain ⟨_, _, rfl⟩ := List.mem_map.mp isEntry
    exact beq_self_eq_true numbered.2
  have within : (table.entriesOf numbered).Sublist table.foreignKeyListing := by
    rw [foreignKeyListing_eq, List.flatMap_def]
    exact List.sublist_flatten_of_mem (List.mem_map_of_mem member)
  rw [ForeignKeyEntry.partsOf, ← kept]
  exact (within.filter _).map _

/-- An edge comes from a foreign key of this one column. -/
theorem exists_foreignKey_of_edge
    (member : edge ∈ ForeignKeyEntry.edges table.foreignKeyListing) :
    ∃ foreignKey, table.References foreignKey edge.1 edge.2 := by
  have isKey := (ForeignKeyEntry.mem_foldl_addEdge member).resolve_left List.not_mem_nil
  obtain ⟨key, parts⟩ := ForeignKeyEntry.exists_key_of_mem_keys isKey
  have isPart : edge ∈ ForeignKeyEntry.partsOf table.foreignKeyListing key :=
    parts ▸ List.mem_cons_self
  obtain ⟨entry, isEntry, _⟩ := List.mem_map.mp isPart
  obtain ⟨listed, same⟩ := List.mem_filter.mp isEntry
  obtain ⟨⟨foreignKey, number⟩, numbered, among⟩ :=
    List.mem_flatMap.mp (table.foreignKeyListing_eq ▸ listed)
  obtain ⟨column, _, rfl⟩ := List.mem_map.mp among
  obtain rfl : number = key := eq_of_beq same
  -- The entries of the foreign key are some of the single part, and not none.
  have whole : (table.entriesOf (foreignKey, number)).map ForeignKeyEntry.part = [edge] :=
    (parts ▸ parts_entriesOf_sublist numbered).eq_of_length_le
      (List.length_pos_of_mem (List.mem_map_of_mem among))
  obtain ⟨only, single, isOnly⟩ := List.map_eq_singleton_iff.mp ((List.map_map).symm.trans whole)
  refine ⟨foreignKey, List.mem_reverse.mp (List.fst_mem_of_mem_zipIdx numbered), ?_, ?_⟩
  · rw [single, ← isOnly]
    rfl
  · rw [← isOnly]
    rfl

end TableDefinition

/-! ## Described tables -/

namespace Database

variable {database : Database} {table : Table} {edge : String × String}

theorem insertByName_perm (definition : TableDefinition) (sorted : List TableDefinition) :
    (insertByName definition sorted).Perm (definition :: sorted) := by
  induction sorted with
  | nil => exact List.Perm.refl _
  | cons head tail inductionHypothesis =>
      rw [insertByName]
      split
      · exact List.Perm.refl _
      · exact (inductionHypothesis.cons head).trans (List.Perm.swap definition head tail)

theorem listed_perm (database : Database) :
    database.listed.Perm
      ((database.tables.map StoredTable.definition).filter fun table => !isReserved table.name) := by
  have inserted (definitions sorted : List TableDefinition) :
      (definitions.foldl (fun sorted table => insertByName table sorted) sorted).Perm
        (definitions ++ sorted) := by
    induction definitions generalizing sorted with
    | nil => exact List.Perm.refl _
    | cons head tail inductionHypothesis =>
        refine (inductionHypothesis _).trans ?_
        exact ((insertByName_perm head sorted).append_left tail).trans List.perm_middle
  exact (inserted _ []).trans (List.Perm.of_eq (List.append_nil _))

theorem nodup_described
    (distinct : (database.tables.map fun table => table.definition.name).Nodup) :
    ((database.listed.map TableDefinition.describe).map Table.name).Nodup := by
  have kept : (((database.tables.map StoredTable.definition).filter fun table =>
      !isReserved table.name).map TableDefinition.name).Nodup := by
    refine List.Nodup.sublist (List.filter_sublist.map _) ?_
    rwa [List.map_map]
  have listed := (database.listed_perm.map TableDefinition.name).nodup_iff.mpr kept
  rwa [List.map_map]

/-- A table is described by its definition. -/
theorem IsConsistent.exists_stored (consistent : database.IsConsistent)
    (described : table ∈ database.introspect.tables) :
    ∃ stored ∈ database.tables, stored.definition.name = table.name ∧
      table.belongsTo = ForeignKeyEntry.edges stored.definition.foreignKeyListing := by
  have distinct := nodup_described (TableDraft.nodup_of_distinctNames consistent.distinct)
  rw [introspect, Structure.tables_ofTables distinct] at described
  obtain ⟨plain, isPlain, rfl⟩ := List.mem_map.mp described
  obtain ⟨definition, isListed, rfl⟩ := List.mem_map.mp isPlain
  obtain ⟨stored, isStored, rfl⟩ :=
    List.mem_map.mp (List.mem_filter.mp (database.listed_perm.mem_iff.mp isListed)).1
  exact ⟨stored, isStored, rfl, rfl⟩

end Database

end TableGraph
