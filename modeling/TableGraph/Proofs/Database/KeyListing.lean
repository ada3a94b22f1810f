import Mathlib.Data.List.Sort
import TableGraph.Proofs.Database.Introspection
import TableGraph.Proofs.Json.OrderedMap

/-!
# Edges of a listing of keys

The engine lists the columns of the foreign keys of a table from the key declared last;
gathered and turned around, the keys are in the order of their declaration again
(`keys_listing`).  Of the keys on one column alone the first one decides where the column
leads, and the edges stand in the order of the keys they come from.  These two properties
have only one solution, so they say what the edges of a listing are
(`edges_follow_first_keys`).
-/

namespace TableGraph

namespace ForeignKey

/-- Whether a key is one on a column alone. -/
def isOn (column : String) (key : ForeignKey) : Bool := key.columns == [column]

/-- The parts of a key, one for each of its columns in their order. -/
def parts (key : ForeignKey) : ForeignKeyEntry.Parts :=
  key.columns.map fun column => (column, key.table)

end ForeignKey

namespace ForeignKeyEntry

section Groups

/-! ## Listings in groups -/

variable {entry : ForeignKeyEntry} {listing : List ForeignKeyEntry} {gathered : List (Nat × Parts)}

theorem gather_last {parts : Parts}
    (distinct : ((gathered ++ [(entry.key, parts)]).map Prod.fst).Nodup) :
    gather entry (gathered ++ [(entry.key, parts)]) =
      gathered ++ [(entry.key, parts ++ [entry.part])] := by
  have known : entry.key ∈ (gathered ++ [(entry.key, parts)]).map Prod.fst :=
    List.mem_map_of_mem (List.mem_append_right gathered List.mem_cons_self)
  have others : gathered.map (fun group =>
      (group.1, group.2 ++ if entry.key = group.1 then [entry.part] else [])) = gathered := by
    refine (List.map_congr_left fun group member => ?_).trans (List.map_id gathered)
    rw [List.map_append, List.nodup_append] at distinct
    have different : group.1 ≠ entry.key :=
      distinct.2.2 group.1 (List.mem_map_of_mem member) entry.key List.mem_cons_self
    simp [different.symm]
  rw [gather_eq entry _ distinct, if_pos known, List.map_append, others]
  simp

/-- The entries of a new key end up together. -/
theorem foldl_gather_key {key : Nat} (sameKey : ∀ entry ∈ listing, entry.key = key)
    (distinct : (gathered.map Prod.fst).Nodup) (absent : key ∉ gathered.map Prod.fst) :
    listing.foldl (fun gathered entry => gather entry gathered) gathered =
      gathered ++ [(key, listing.map part)].filter fun group => !group.2.isEmpty := by
  -- From the end, since a part is added to the group that was gathered last.
  induction listing using List.reverseRecOn with
  | nil => simp
  | append_singleton earlier entry inductionHypothesis =>
      obtain rfl : entry.key = key := sameKey entry (by simp)
      rw [List.foldl_append, List.foldl_cons, List.foldl_nil,
        inductionHypothesis fun other member => sameKey other (List.mem_append_left _ member)]
      cases earlier with
      | nil =>
          rw [List.map_nil, List.filter_cons_of_neg (by simp), List.filter_nil, List.append_nil,
            gather_eq entry gathered distinct, if_neg absent]
          simp
      | cons head tail =>
          rw [List.filter_cons_of_pos (by simp), List.filter_nil, gather_last]
          · simp
          · rw [List.map_append]
            refine List.nodup_append.mpr ⟨distinct, List.nodup_singleton _, ?_⟩
            intro other isOther key isKey same
            have isKnown : other = entry.key := same.trans (List.mem_singleton.mp isKey)
            exact absent (isKnown ▸ isOther)

/-- The keys of a listing made of groups, each of one number, are the groups. -/
theorem foldl_gather_flatMap {Group : Type} {number : Group → Nat}
    {entries : Group → List ForeignKeyEntry} {groups : List Group}
    (own : ∀ group ∈ groups, ∀ entry ∈ entries group, entry.key = number group)
    (distinct : (gathered.map Prod.fst ++ groups.map number).Nodup) :
    (groups.flatMap entries).foldl (fun gathered entry => gather entry gathered) gathered =
      gathered ++ (groups.map fun group => (number group, (entries group).map part)).filter
        fun group => !group.2.isEmpty := by
  induction groups generalizing gathered with
  | nil => simp
  | cons head tail inductionHypothesis =>
      obtain ⟨gatheredDistinct, _, apart⟩ := List.nodup_append.mp distinct
      have absent : number head ∉ gathered.map Prod.fst := fun known =>
        apart _ known _ List.mem_cons_self rfl
      rw [List.flatMap_cons, List.foldl_append,
        foldl_gather_key (own head List.mem_cons_self) gatheredDistinct absent,
        inductionHypothesis fun group member => own group (List.mem_cons_of_mem head member)]
      · rw [List.append_assoc, ← List.filter_append, List.map_cons, List.singleton_append]
      · refine distinct.sublist ?_
        rw [List.map_append, List.append_assoc, List.map_cons, ← List.singleton_append]
        exact (List.Sublist.refl _).append ((List.filter_sublist.map Prod.fst).append_right _)

end Groups

/-! ## Keys of a listing -/

/-- The entries of a key that has a number, one for each of its columns in their order. -/
def ofKey (numbered : ForeignKey × Nat) : List ForeignKeyEntry :=
  numbered.1.columns.map fun column => ⟨numbered.2, column, numbered.1.table⟩

/-- The listing of the keys that a table declares in this order: they are numbered from the one
declared last, and listed by their numbers. -/
def listing (keys : List ForeignKey) : List ForeignKeyEntry := keys.reverse.zipIdx.flatMap ofKey

variable {keys : List ForeignKey} {edges : List (String × String)}

/-- The keys come back in the order of their declaration. -/
theorem keys_listing (keys : List ForeignKey) :
    ForeignKeyEntry.keys (listing keys) =
      (keys.map ForeignKey.parts).filter fun parts => !parts.isEmpty := by
  have own : ∀ numbered ∈ keys.reverse.zipIdx,
      ∀ entry ∈ ofKey numbered, entry.key = numbered.2 := by
    intro numbered _ entry isEntry
    obtain ⟨_, _, rfl⟩ := List.mem_map.mp isEntry
    rfl
  have numbers : (([] : List (Nat × Parts)).map Prod.fst ++
      keys.reverse.zipIdx.map Prod.snd).Nodup := by
    rw [List.map_nil, List.nil_append, List.zipIdx_map_snd]
    exact List.nodup_range'
  have parts : keys.reverse.zipIdx.map (fun numbered => (ofKey numbered).map part) =
      keys.reverse.map ForeignKey.parts := by
    calc
      _ = (keys.reverse.zipIdx.map Prod.fst).map ForeignKey.parts := by
        rw [List.map_map]
        exact List.map_congr_left fun _ _ => List.map_map
      _ = keys.reverse.map ForeignKey.parts := by rw [List.zipIdx_map_fst]
  have gathered := foldl_gather_flatMap own numbers
  rw [List.nil_append] at gathered
  rw [ForeignKeyEntry.keys, listing, gathered]
  calc
    _ = ((keys.reverse.zipIdx.map fun numbered => (ofKey numbered).map part).filter
          fun parts => !parts.isEmpty).reverse := by
      rw [List.filter_map, List.filter_map, List.map_map]
      rfl
    _ = (keys.map ForeignKey.parts).filter fun parts => !parts.isEmpty := by
      rw [parts, ← List.filter_reverse, ← List.map_reverse, List.reverse_reverse]

/-- A key of several columns, or of none, adds nothing. -/
theorem addEdge_of_length_ne {key : ForeignKey} (several : key.columns.length ≠ 1)
    (edges : List (String × String)) : addEdge edges key.parts = edges := by
  rw [ForeignKey.parts]
  rcases columns : key.columns with _ | ⟨first, _ | ⟨second, others⟩⟩
  · rfl
  · exact absurd (congrArg List.length columns) several
  · rfl

/-- The keys add their edges one after the other. -/
theorem edges_listing (keys : List ForeignKey) :
    ForeignKeyEntry.edges (listing keys) = (keys.map ForeignKey.parts).foldl addEdge [] := by
  have nothing (edges : List (String × String)) (parts : Parts) :
      (if (!parts.isEmpty) = true then addEdge edges parts else edges) = addEdge edges parts := by
    cases parts <;> rfl
  rw [ForeignKeyEntry.edges, keys_listing, List.foldl_filter]
  simp only [nothing]

/-! ## The first edge of a column -/

/-- The table that a key of a column on its own leads to. -/
def target? (column : String) : Parts → Option String
  | [(own, table)] => if column = own then some table else none
  | _ => none

theorem lookup_addEdge (edges : List (String × String)) (parts : Parts) (column : String) :
    (addEdge edges parts).lookup column = (edges.lookup column).or (target? column parts) := by
  rcases parts with _ | ⟨⟨own, table⟩, _ | ⟨second, others⟩⟩
  · exact Option.or_none.symm
  · rw [addEdge, target?]
    by_cases known : (edges.lookup own).isSome = true
    · rw [if_pos known]
      by_cases same : column = own
      · obtain ⟨earlier, found⟩ := Option.isSome_iff_exists.mp known
        rw [same, found, Option.some_or]
      · rw [if_neg same, Option.or_none]
    · rw [if_neg known, List.lookup_append, lookup_cons_eq, List.lookup_nil]
  · exact Option.or_none.symm

theorem lookup_foldl_addEdge (keys : List Parts) (edges : List (String × String))
    (column : String) :
    (keys.foldl addEdge edges).lookup column =
      (edges.lookup column).or (keys.findSome? (target? column)) := by
  induction keys generalizing edges with
  | nil => exact Option.or_none.symm
  | cons head tail inductionHypothesis =>
      rw [List.foldl_cons, inductionHypothesis, lookup_addEdge, Option.or_assoc,
        List.findSome?_cons]
      cases target? column head <;> rfl

theorem target?_parts (column : String) (key : ForeignKey) :
    target? column key.parts = if key.isOn column then some key.table else none := by
  rw [ForeignKey.parts, ForeignKey.isOn]
  rcases key.columns with _ | ⟨first, _ | ⟨second, others⟩⟩
  · rfl
  · by_cases same : column = first
    · simp [target?, same]
    · simp [target?, same, Ne.symm same]
  · rw [List.map_cons, List.map_cons, target?, if_neg (by simp)]
    simp

/-- The first key on a column alone decides where the column leads. -/
theorem lookup_edges_listing (keys : List ForeignKey) (column : String) :
    (ForeignKeyEntry.edges (listing keys)).lookup column =
      (keys.find? (ForeignKey.isOn column)).map ForeignKey.table := by
  rw [edges_listing, lookup_foldl_addEdge, List.lookup_nil, Option.none_or]
  induction keys with
  | nil => rfl
  | cons head tail inductionHypothesis =>
      rw [List.map_cons, List.findSome?_cons, target?_parts, List.find?_cons, inductionHypothesis]
      cases head.isOn column <;> rfl

/-! ## The order of the edges -/

/-- Edges that follow, for each column, the first key on the column alone. -/
structure FollowsFirst (keys : List ForeignKey) (edges : List (String × String)) : Prop where
  leads : ∀ column, edges.lookup column =
    (keys.find? (ForeignKey.isOn column)).map ForeignKey.table
  ordered : edges.Pairwise fun earlier later =>
    keys.findIdx (ForeignKey.isOn earlier.1) < keys.findIdx (ForeignKey.isOn later.1)

theorem FollowsFirst.distinct (follows : FollowsFirst keys edges) :
    (edges.map Prod.fst).Nodup := by
  refine List.pairwise_map.mpr (follows.ordered.imp fun before same => ?_)
  rw [same] at before
  exact lt_irrefl _ before

theorem FollowsFirst.findIdx_lt (follows : FollowsFirst keys edges) {edge : String × String}
    (member : edge ∈ edges) : keys.findIdx (ForeignKey.isOn edge.1) < keys.length := by
  have found := (follows.leads edge.1).symm.trans ((mem_iff_lookup follows.distinct).mp member)
  obtain ⟨key, first, _⟩ := Option.map_eq_some_iff.mp found
  exact List.findIdx_lt_length_of_exists ⟨key, List.mem_of_find?_eq_some first,
    List.find?_some (p := ForeignKey.isOn edge.1) first⟩

/-- There is only one way to follow the first keys. -/
theorem FollowsFirst.unique {others : List (String × String)} (follows : FollowsFirst keys edges)
    (alsoFollows : FollowsFirst keys others) : edges = others := by
  let Before (earlier later : String × String) : Prop :=
    keys.findIdx (ForeignKey.isOn earlier.1) < keys.findIdx (ForeignKey.isOn later.1)
  have irreflexive : Std.Irrefl Before := ⟨fun _ => lt_irrefl _⟩
  have antisymmetric : Std.Antisymm Before :=
    ⟨fun _ _ before behind => absurd before (lt_asymm behind)⟩
  refine List.Pairwise.eq_of_mem_iff (r := Before) follows.ordered alsoFollows.ordered
    fun edge => ?_
  rw [mem_iff_lookup follows.distinct, mem_iff_lookup alsoFollows.distinct, follows.leads,
    alsoFollows.leads]

/-- Where the first key of an edge stands is the same with one more key behind the others. -/
theorem FollowsFirst.findIdx_append (follows : FollowsFirst keys edges) (key : ForeignKey)
    {edge : String × String} (member : edge ∈ edges) :
    (keys ++ [key]).findIdx (ForeignKey.isOn edge.1) =
      keys.findIdx (ForeignKey.isOn edge.1) := by
  rw [List.findIdx_append, if_pos (follows.findIdx_lt member)]

theorem FollowsFirst.ordered_append (follows : FollowsFirst keys edges) (key : ForeignKey) :
    edges.Pairwise fun earlier later =>
      (keys ++ [key]).findIdx (ForeignKey.isOn earlier.1) <
        (keys ++ [key]).findIdx (ForeignKey.isOn later.1) := by
  refine follows.ordered.imp_of_mem fun isEarlier isLater before => ?_
  rwa [follows.findIdx_append key isEarlier, follows.findIdx_append key isLater]

/-- One more key adds its edge behind the others, or none. -/
theorem FollowsFirst.ordered_addEdge (follows : FollowsFirst keys edges) (key : ForeignKey) :
    (addEdge edges key.parts).Pairwise fun earlier later =>
      (keys ++ [key]).findIdx (ForeignKey.isOn earlier.1) <
        (keys ++ [key]).findIdx (ForeignKey.isOn later.1) := by
  unfold addEdge
  split
  · rename_i column table single
    split
    · exact follows.ordered_append key
    · rename_i unknown
      refine List.pairwise_append.mpr
        ⟨follows.ordered_append key, List.pairwise_singleton _ _,
          fun edge member added isAdded => ?_⟩
      rw [List.mem_singleton.mp isAdded, follows.findIdx_append key member]
      -- No key before this one is on its column alone.
      have absent : keys.find? (ForeignKey.isOn column) = none := by
        rw [follows.leads, Option.isSome_map] at unknown
        exact Option.not_isSome_iff_eq_none.mp unknown
      have noneBefore : keys.findIdx (ForeignKey.isOn column) = keys.length :=
        List.findIdx_eq_length.mpr fun other isOther => by
          simpa using List.find?_eq_none.mp absent other isOther
      have behind : keys.length ≤ (keys ++ [key]).findIdx (ForeignKey.isOn column) := by
        rw [List.findIdx_append, if_neg (by omega)]
        exact Nat.le_add_left _ _
      exact (follows.findIdx_lt member).trans_le behind
  · exact follows.ordered_append key

theorem followsFirst_listing (keys : List ForeignKey) :
    FollowsFirst keys (ForeignKeyEntry.edges (listing keys)) := by
  -- From the end, since the key declared last adds its edge last.
  induction keys using List.reverseRecOn with
  | nil => exact ⟨fun _ => rfl, List.Pairwise.nil⟩
  | append_singleton earlier key inductionHypothesis =>
      refine ⟨lookup_edges_listing _, ?_⟩
      have added := inductionHypothesis.ordered_addEdge key
      rw [edges_listing] at added
      rwa [edges_listing, List.map_append, List.foldl_append]

/-- The edges of a listing are the edges that follow the first key on each column alone, in the
order in which these keys are declared; a column without such a key has no edge, and the keys
of several columns play no part. -/
theorem edges_follow_first_keys (keys : List ForeignKey) :
    (∀ found, ForeignKeyEntry.edges (listing keys) = found ↔ FollowsFirst keys found) ∧
      (∀ column, column ∈ (ForeignKeyEntry.edges (listing keys)).map Prod.fst ↔
        ∃ key ∈ keys, key.columns = [column]) ∧
      ForeignKeyEntry.edges (listing keys) =
        ForeignKeyEntry.edges (listing (keys.filter fun key => key.columns.length == 1)) := by
  have follows := followsFirst_listing keys
  refine ⟨fun found => ?_, fun column => ?_, ?_⟩
  · constructor
    · rintro rfl
      exact follows
    · exact follows.unique
  · have led : column ∈ (ForeignKeyEntry.edges (listing keys)).map Prod.fst ↔
        ((ForeignKeyEntry.edges (listing keys)).lookup column).isSome := by
      rw [List.lookup_isSome_iff]
      simp
    rw [led, follows.leads, Option.isSome_map, List.find?_isSome]
    simp only [ForeignKey.isOn, beq_iff_eq]
  · rw [edges_listing, edges_listing, List.foldl_map, List.foldl_map, List.foldl_filter]
    refine List.foldl_ext _ _ _ fun edges key _ => ?_
    by_cases single : key.columns.length = 1
    · rw [if_pos (beq_iff_eq.mpr single)]
    · rw [if_neg fun same => single (beq_iff_eq.mp same), addEdge_of_length_ne single edges]

example : ForeignKeyEntry.edges (listing [⟨["shop", "name"], "offers", []⟩,
    ⟨["name"], "names", []⟩, ⟨["shop"], "shops", []⟩, ⟨["name"], "others", []⟩]) =
      [("name", "names"), ("shop", "shops")] := by
  decide

end ForeignKeyEntry

end TableGraph
