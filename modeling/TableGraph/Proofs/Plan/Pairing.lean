import Mathlib
import TableGraph.Proofs.Plan.DistinctFields

/-!
# Lists and their counts

A list of rows is offered together with the field of its count, but the two are added one
after the other, and each gives way to a field that has its name already.  So a half of a
pair is missing exactly when its name was given before.

The main statement, `KeepsPairs.pushFields`, is that this stays so while fields are added,
as long as every list is offered with its count right behind it.
-/

namespace TableGraph

namespace FieldPlan

/-- A field of rows of a name, found by the given settings. -/
structure IsListOf (field : FieldPlan) (name : String) (settings : FieldSettings) : Prop where
  named : field.name = name
  lists : ∃ object, field.type = .list object
  settled : field.settings = settings

/-- The count of the rows of a name, found by the given settings. -/
structure IsCountOf (field : FieldPlan) (name : String) (settings : FieldSettings) : Prop where
  named : field.name = name ++ countSuffix
  counts : field.type = .count
  settled : field.settings = settings

variable (field : FieldPlan) (name : String) (settings : FieldSettings)

instance : Decidable (∃ object, field.type = .list object) :=
  match field.type with
  | .list object => .isTrue ⟨object, rfl⟩
  | .scalar _ => .isFalse (fun ⟨_, same⟩ => by cases same)
  | .object _ => .isFalse (fun ⟨_, same⟩ => by cases same)
  | .count => .isFalse (fun ⟨_, same⟩ => by cases same)
  | .morph => .isFalse (fun ⟨_, same⟩ => by cases same)

instance : Decidable (field.IsListOf name settings) :=
  decidable_of_iff
    (field.name = name ∧ (∃ object, field.type = .list object) ∧ field.settings = settings)
    ⟨fun ⟨named, lists, settled⟩ => ⟨named, lists, settled⟩,
      fun isList => ⟨isList.named, isList.lists, isList.settled⟩⟩

instance : Decidable (field.IsCountOf name settings) :=
  decidable_of_iff
    (field.name = name ++ countSuffix ∧ field.type = .count ∧ field.settings = settings)
    ⟨fun ⟨named, counts, settled⟩ => ⟨named, counts, settled⟩,
      fun isCount => ⟨isCount.named, isCount.counts, isCount.settled⟩⟩

end FieldPlan

/-- Whether there are rows of a name, found by the given settings. -/
def HasList (fields : List FieldPlan) (name : String) (settings : FieldSettings) : Prop :=
  ∃ field ∈ fields, field.IsListOf name settings

/-- Whether there is a count of a name, found by the given settings. -/
def HasCount (fields : List FieldPlan) (name : String) (settings : FieldSettings) : Prop :=
  ∃ field ∈ fields, field.IsCountOf name settings

instance (fields : List FieldPlan) (name : String) (settings : FieldSettings) :
    Decidable (HasList fields name settings) :=
  inferInstanceAs (Decidable (∃ field ∈ fields, field.IsListOf name settings))

instance (fields : List FieldPlan) (name : String) (settings : FieldSettings) :
    Decidable (HasCount fields name settings) :=
  inferInstanceAs (Decidable (∃ field ∈ fields, field.IsCountOf name settings))

/-- Lists and counts come in pairs, but for the names that were given before. -/
structure KeepsPairs (fields : List FieldPlan) : Prop where
  /-- A list has its count unless a field in front of it is named like the count. -/
  count : ∀ front list behind name settings, fields = front ++ list :: behind →
    list.IsListOf name settings →
      (HasCount fields name settings ↔ ∀ other ∈ front, other.name ≠ name ++ FieldPlan.countSuffix)
  /-- A count has its list unless another field in front of it is named like the list. -/
  list : ∀ front count behind name settings, fields = front ++ count :: behind →
    count.IsCountOf name settings →
      (HasList fields name settings ↔
        ∀ other ∈ front, other.name = name → other.IsListOf name settings)

/-! ## Adding fields behind others -/

theorem hasList_append {fields added : List FieldPlan} {name : String} {settings : FieldSettings} :
    HasList (fields ++ added) name settings ↔
      HasList fields name settings ∨ HasList added name settings := by
  simp only [HasList, List.mem_append, or_and_right, exists_or]

theorem hasCount_append {fields added : List FieldPlan} {name : String} {settings : FieldSettings} :
    HasCount (fields ++ added) name settings ↔
      HasCount fields name settings ∨ HasCount added name settings := by
  simp only [HasCount, List.mem_append, or_and_right, exists_or]

/-- An element of two lists in a row stands in the first or in the second. -/
theorem append_eq_append_cons {Item : Type} (first : List Item) {second front behind : List Item}
    {item : Item}
    (split : first ++ second = front ++ item :: behind) :
    (∃ kept, first = front ++ item :: kept ∧ behind = kept ++ second) ∨
      ∃ more, second = more ++ item :: behind ∧ front = first ++ more := by
  rcases List.append_eq_append_iff.mp split with ⟨more, isFront, isSecond⟩ | ⟨kept, isFirst, isRest⟩
  · exact Or.inr ⟨more, isSecond, isFront⟩
  · cases kept with
    | nil => exact Or.inr ⟨[], isRest.symm, by rw [isFirst, List.append_nil, List.append_nil]⟩
    | cons head tail =>
        obtain ⟨rfl, rfl⟩ := List.cons.inj isRest
        exact Or.inl ⟨tail, isFirst, rfl⟩

namespace KeepsPairs

variable {fields added : List FieldPlan} {name : String} {settings : FieldSettings}

theorem nil : KeepsPairs [] where
  count := by
    intro front list behind name settings split
    exact absurd split.symm (List.append_ne_nil_of_right_ne_nil front (List.cons_ne_nil list behind))
  list := by
    intro front count behind name settings split
    exact absurd split.symm (List.append_ne_nil_of_right_ne_nil front (List.cons_ne_nil count behind))

/-- Without a field of the name of a list there is neither the list nor its count. -/
theorem absent_of_list_free (pairs : KeepsPairs fields)
    (free : name ∉ fields.map FieldPlan.name) :
    ¬ HasList fields name settings ∧ ¬ HasCount fields name settings := by
  have noList : ¬ HasList fields name settings := by
    rintro ⟨list, member, isList⟩
    exact free (List.mem_map.mpr ⟨list, member, isList.named⟩)
  refine ⟨noList, ?_⟩
  rintro ⟨count, member, isCount⟩
  obtain ⟨front, behind, split⟩ := List.append_of_mem member
  refine noList ((pairs.list front count behind name settings split isCount).mpr ?_)
  intro other among named
  have present : other ∈ fields := split ▸ List.mem_append_left _ among
  exact absurd (List.mem_map.mpr ⟨other, present, named⟩) free

/-- Without a field of the name of a count there is neither the count nor its list. -/
theorem absent_of_count_free (pairs : KeepsPairs fields)
    (free : name ++ FieldPlan.countSuffix ∉ fields.map FieldPlan.name) :
    ¬ HasList fields name settings ∧ ¬ HasCount fields name settings := by
  have noCount : ¬ HasCount fields name settings := by
    rintro ⟨count, member, isCount⟩
    exact free (List.mem_map.mpr ⟨count, member, isCount.named⟩)
  refine ⟨?_, noCount⟩
  rintro ⟨list, member, isList⟩
  obtain ⟨front, behind, split⟩ := List.append_of_mem member
  refine noCount ((pairs.count front list behind name settings split isList).mpr ?_)
  intro other among named
  have present : other ∈ fields := split ▸ List.mem_append_left _ among
  exact free (List.mem_map.mpr ⟨other, present, named⟩)

/-- Fields that are added behind others keep them in pairs when they belong to no pair of
them and lack a half only for a name that was given before. -/
theorem append (pairs : KeepsPairs fields)
    (apart : ∀ name settings, HasList added name settings ∨ HasCount added name settings →
      ¬ HasList fields name settings ∧ ¬ HasCount fields name settings)
    (count : ∀ front list behind name settings, added = front ++ list :: behind →
      list.IsListOf name settings → (HasCount added name settings ↔
        ∀ other ∈ fields ++ front, other.name ≠ name ++ FieldPlan.countSuffix))
    (list : ∀ front count behind name settings, added = front ++ count :: behind →
      count.IsCountOf name settings → (HasList added name settings ↔
        ∀ other ∈ fields ++ front, other.name = name → other.IsListOf name settings)) :
    KeepsPairs (fields ++ added) where
  count := by
    intro front field behind name settings split isList
    rw [hasCount_append]
    rcases append_eq_append_cons _ split with ⟨kept, inFields, _⟩ | ⟨more, inAdded, rfl⟩
    · have present : HasList fields name settings :=
        ⟨field, inFields ▸ List.mem_append_right _ List.mem_cons_self, isList⟩
      have notAdded : ¬ HasCount added name settings :=
        fun counted => (apart name settings (Or.inr counted)).1 present
      rw [or_iff_left notAdded]
      exact pairs.count front field kept name settings inFields isList
    · have present : HasList added name settings :=
        ⟨field, inAdded ▸ List.mem_append_right _ List.mem_cons_self, isList⟩
      rw [or_iff_right (apart name settings (Or.inl present)).2]
      exact count more field behind name settings inAdded isList
  list := by
    intro front field behind name settings split isCount
    rw [hasList_append]
    rcases append_eq_append_cons _ split with ⟨kept, inFields, _⟩ | ⟨more, inAdded, rfl⟩
    · have present : HasCount fields name settings :=
        ⟨field, inFields ▸ List.mem_append_right _ List.mem_cons_self, isCount⟩
      have notAdded : ¬ HasList added name settings :=
        fun listed => (apart name settings (Or.inl listed)).2 present
      rw [or_iff_left notAdded]
      exact pairs.list front field kept name settings inFields isCount
    · have present : HasCount added name settings :=
        ⟨field, inAdded ▸ List.mem_append_right _ List.mem_cons_self, isCount⟩
      rw [or_iff_right (apart name settings (Or.inr present)).1]
      exact list more field behind name settings inAdded isCount

end KeepsPairs

/-! ## Halves of a pair -/

namespace FieldPlan

/-- A list with its count right behind it. -/
def pair (name object : String) (kind countKind : ResolverKind) (settings : FieldSettings) :
    List FieldPlan :=
  [list name object kind settings, count name countKind settings]

theorem pair_eq (name object : String) (kind countKind : ResolverKind) (settings : FieldSettings) :
    pair name object kind countKind settings =
      [list name object kind settings] ++ [count name countKind settings] := rfl

/-- Whether a field is a list or a count. -/
def IsHalf (field : FieldPlan) : Prop := (∃ object, field.type = .list object) ∨ field.type = .count

variable {field : FieldPlan} {name other object : String} {kind : ResolverKind}
  {settings given : FieldSettings}

theorem isListOf_list_iff :
    (list name object kind settings).IsListOf other given ↔ other = name ∧ given = settings := by
  constructor
  · rintro ⟨named, _, settled⟩
    exact ⟨named.symm, settled.symm⟩
  · rintro ⟨rfl, rfl⟩
    exact ⟨rfl, ⟨object, rfl⟩, rfl⟩

theorem isCountOf_count_iff :
    (count name kind settings).IsCountOf other given ↔ other = name ∧ given = settings := by
  constructor
  · rintro ⟨named, _, settled⟩
    exact ⟨append_countSuffix_inj.mp named.symm, settled.symm⟩
  · rintro ⟨rfl, rfl⟩
    exact ⟨rfl, rfl, rfl⟩

theorem not_isCountOf_list : ¬ (list name object kind settings).IsCountOf other given := by
  rintro ⟨_, counts, _⟩
  cases counts

theorem not_isListOf_count : ¬ (count name kind settings).IsListOf other given := by
  rintro ⟨_, ⟨_, lists⟩, _⟩
  cases lists

end FieldPlan

section Single

variable {field : FieldPlan} {name : String} {given : FieldSettings}

theorem hasList_singleton : HasList [field] name given ↔ field.IsListOf name given := by
  simp only [HasList, List.mem_singleton, exists_eq_left]

theorem hasCount_singleton : HasCount [field] name given ↔ field.IsCountOf name given := by
  simp only [HasCount, List.mem_singleton, exists_eq_left]

theorem eq_of_singleton_eq {Item : Type} {item found : Item} {front behind : List Item}
    (split : [item] = front ++ found :: behind) : front = [] ∧ found = item := by
  rcases append_eq_append_cons [] split with ⟨_, isEmpty, _⟩ | ⟨more, isOne, isFront⟩
  · exact absurd isEmpty.symm (List.append_ne_nil_of_right_ne_nil _ (List.cons_ne_nil _ _))
  · cases more with
    | nil => exact ⟨isFront, (List.cons.inj isOne).1.symm⟩
    | cons head tail =>
        have isEmpty := (List.cons.inj isOne).2
        exact absurd isEmpty.symm (List.append_ne_nil_of_right_ne_nil _ (List.cons_ne_nil _ _))

theorem hasList_pair {object : String} {kind countKind : ResolverKind} {other : String}
    {settings : FieldSettings} :
    HasList (FieldPlan.pair name object kind countKind settings) other given ↔
      other = name ∧ given = settings := by
  rw [FieldPlan.pair_eq, hasList_append, hasList_singleton, hasList_singleton,
    or_iff_left FieldPlan.not_isListOf_count]
  exact FieldPlan.isListOf_list_iff

theorem hasCount_pair {object : String} {kind countKind : ResolverKind} {other : String}
    {settings : FieldSettings} :
    HasCount (FieldPlan.pair name object kind countKind settings) other given ↔
      other = name ∧ given = settings := by
  rw [FieldPlan.pair_eq, hasCount_append, hasCount_singleton, hasCount_singleton,
    or_iff_right FieldPlan.not_isCountOf_list]
  exact FieldPlan.isCountOf_count_iff

end Single

section Pair

variable {fields : List FieldPlan} {name object : String} {kind countKind : ResolverKind}
  {settings : FieldSettings}

/-- The list of a pair is added before its count. -/
theorem pushFields_pair_eq (fields : List FieldPlan) (name object : String)
    (kind countKind : ResolverKind) (settings : FieldSettings) :
    pushFields fields (FieldPlan.pair name object kind countKind settings) =
      pushField (pushField fields (FieldPlan.list name object kind settings))
        (FieldPlan.count name countKind settings) := rfl

theorem pushField_list_of_free (free : name ∉ fields.map FieldPlan.name) :
    pushField fields (FieldPlan.list name object kind settings) =
      fields ++ [FieldPlan.list name object kind settings] := pushField_of_not_mem free

theorem pushField_count_of_free (free : name ++ FieldPlan.countSuffix ∉ fields.map FieldPlan.name) :
    pushField fields (FieldPlan.count name countKind settings) =
      fields ++ [FieldPlan.count name countKind settings] := pushField_of_not_mem free

theorem pushField_list_of_taken (taken : name ∈ fields.map FieldPlan.name) :
    pushField fields (FieldPlan.list name object kind settings) = fields := pushField_of_mem taken

theorem pushField_count_of_taken
    (taken : name ++ FieldPlan.countSuffix ∈ fields.map FieldPlan.name) :
    pushField fields (FieldPlan.count name countKind settings) = fields := pushField_of_mem taken

/-- A list and its count are added together when both of their names are free. -/
theorem pushFields_pair_of_free (listFree : name ∉ fields.map FieldPlan.name)
    (countFree : name ++ FieldPlan.countSuffix ∉ fields.map FieldPlan.name) :
    pushFields fields (FieldPlan.pair name object kind countKind settings) =
      fields ++ FieldPlan.pair name object kind countKind settings := by
  have stillFree : name ++ FieldPlan.countSuffix ∉
      (fields ++ [FieldPlan.list name object kind settings]).map FieldPlan.name := by
    rw [List.map_append, List.mem_append, not_or]
    exact ⟨countFree, fun same => FieldPlan.append_countSuffix_ne name (List.mem_singleton.mp same)⟩
  rw [pushFields_pair_eq, pushField_list_of_free listFree, pushField_count_of_free stillFree,
    List.append_assoc, FieldPlan.pair_eq]

end Pair

/-- Fields of which none is wanted leave open whether there is a wanted one. -/
theorem exists_mem_pushFields_iff {fields added : List FieldPlan} {Wanted : FieldPlan → Prop}
    (absent : ¬ ∃ field ∈ added, Wanted field) :
    (∃ field ∈ pushFields fields added, Wanted field) ↔ ∃ field ∈ fields, Wanted field := by
  constructor
  · rintro ⟨field, member, wanted⟩
    rcases mem_pushFields member with before | offered
    · exact ⟨field, before, wanted⟩
    · exact absurd ⟨field, offered, wanted⟩ absent
  · rintro ⟨field, member, wanted⟩
    exact ⟨field, subset_pushFields fields added member, wanted⟩

/-- A field is added behind others exactly when they do not give its name away. -/
theorem mem_pushFields_iff {front behind : List FieldPlan} {field : FieldPlan}
    (apart : field ∉ front) :
    field ∈ pushFields [] (front ++ field :: behind) ↔ field.name ∉ front.map FieldPlan.name := by
  have inTurn : pushFields [] (front ++ field :: behind) =
      pushFields (pushField (pushFields [] front) field) behind := List.foldl_append
  have distinct : ((pushFields [] (front ++ field :: behind)).map FieldPlan.name).Nodup := by
    apply nodup_pushFields
    exact List.nodup_nil
  constructor
  · intro member taken
    obtain ⟨offered, among, named⟩ := List.mem_map.mp taken
    have given : field.name ∈ (pushFields [] front).map FieldPlan.name := by
      rw [← named]
      exact name_mem_pushFields among
    obtain ⟨taker, present, sameName⟩ := List.mem_map.mp given
    have kept : taker ∈ pushFields [] (front ++ field :: behind) := by
      rw [inTurn]
      exact subset_pushFields _ _ (subset_pushField _ _ present)
    have same : taker = field := List.inj_on_of_nodup_map distinct kept member sameName
    rcases mem_pushFields present with before | inFront
    · cases before
    · exact apart (same ▸ inFront)
  · intro free
    have stillFree : field.name ∉ (pushFields [] front).map FieldPlan.name := by
      intro taken
      obtain ⟨taker, present, sameName⟩ := List.mem_map.mp taken
      rcases mem_pushFields present with before | inFront
      · cases before
      · exact free (List.mem_map.mpr ⟨taker, inFront, sameName⟩)
    rw [inTurn, pushField_of_not_mem stillFree]
    exact subset_pushFields _ _ (List.mem_append_right _ List.mem_cons_self)

namespace KeepsPairs

variable {fields : List FieldPlan} {name object : String} {kind countKind : ResolverKind}
  {settings : FieldSettings}

/-- A field that is no half of a pair keeps the others in pairs. -/
theorem push {field : FieldPlan} (pairs : KeepsPairs fields) (noHalf : ¬ field.IsHalf) :
    KeepsPairs (pushField fields field) := by
  have noList (name : String) (settings : FieldSettings) : ¬ field.IsListOf name settings :=
    fun isList => noHalf (Or.inl isList.lists)
  have noCount (name : String) (settings : FieldSettings) : ¬ field.IsCountOf name settings :=
    fun isCount => noHalf (Or.inr isCount.counts)
  by_cases taken : field.name ∈ fields.map FieldPlan.name
  · rw [pushField_of_mem taken]
    exact pairs
  · rw [pushField_of_not_mem taken]
    refine pairs.append ?_ ?_ ?_
    · intro name settings half
      rw [hasList_singleton, hasCount_singleton] at half
      exact absurd half (not_or.mpr ⟨noList name settings, noCount name settings⟩)
    · intro front list behind name settings split isList
      rw [(eq_of_singleton_eq split).2] at isList
      exact absurd isList (noList name settings)
    · intro front count behind name settings split isCount
      rw [(eq_of_singleton_eq split).2] at isCount
      exact absurd isCount (noCount name settings)

/-- Only the count is added: the name of the list was given before. -/
theorem append_count (pairs : KeepsPairs fields) (listTaken : name ∈ fields.map FieldPlan.name)
    (countFree : name ++ FieldPlan.countSuffix ∉ fields.map FieldPlan.name) :
    KeepsPairs (fields ++ [FieldPlan.count name countKind settings]) := by
  refine pairs.append ?_ ?_ ?_
  · intro other given half
    rw [hasList_singleton, hasCount_singleton, or_iff_right FieldPlan.not_isListOf_count,
      FieldPlan.isCountOf_count_iff] at half
    obtain ⟨rfl, rfl⟩ := half
    exact pairs.absent_of_count_free countFree
  · intro front list behind other given split isList
    rw [(eq_of_singleton_eq split).2] at isList
    exact absurd isList FieldPlan.not_isListOf_count
  · intro front count behind other given split isCount
    obtain ⟨rfl, rfl⟩ := eq_of_singleton_eq split
    obtain ⟨rfl, rfl⟩ := FieldPlan.isCountOf_count_iff.mp isCount
    rw [hasList_singleton, List.append_nil]
    refine iff_of_false FieldPlan.not_isListOf_count fun onlyLists => ?_
    obtain ⟨taker, member, named⟩ := List.mem_map.mp listTaken
    exact (pairs.absent_of_count_free countFree).1 ⟨taker, member, onlyLists taker member named⟩

/-- Only the list is added: the name of the count was given before. -/
theorem append_list (pairs : KeepsPairs fields) (listFree : name ∉ fields.map FieldPlan.name)
    (countTaken : name ++ FieldPlan.countSuffix ∈ fields.map FieldPlan.name) :
    KeepsPairs (fields ++ [FieldPlan.list name object kind settings]) := by
  refine pairs.append ?_ ?_ ?_
  · intro other given half
    rw [hasList_singleton, hasCount_singleton, or_iff_left FieldPlan.not_isCountOf_list,
      FieldPlan.isListOf_list_iff] at half
    obtain ⟨rfl, rfl⟩ := half
    exact pairs.absent_of_list_free listFree
  · intro front list behind other given split isList
    obtain ⟨rfl, rfl⟩ := eq_of_singleton_eq split
    obtain ⟨rfl, rfl⟩ := FieldPlan.isListOf_list_iff.mp isList
    rw [hasCount_singleton, List.append_nil]
    refine iff_of_false FieldPlan.not_isCountOf_list fun free => ?_
    obtain ⟨taker, member, named⟩ := List.mem_map.mp countTaken
    exact free taker member named
  · intro front count behind other given split isCount
    rw [(eq_of_singleton_eq split).2] at isCount
    exact absurd isCount FieldPlan.not_isCountOf_list

/-- Both halves are added. -/
theorem append_both (pairs : KeepsPairs fields) (listFree : name ∉ fields.map FieldPlan.name)
    (countFree : name ++ FieldPlan.countSuffix ∉ fields.map FieldPlan.name) :
    KeepsPairs (fields ++ FieldPlan.pair name object kind countKind settings) := by
  refine pairs.append ?_ ?_ ?_
  · intro other given half
    rw [hasList_pair, hasCount_pair, or_self_iff] at half
    obtain ⟨rfl, rfl⟩ := half
    exact pairs.absent_of_list_free listFree
  · intro front list behind other given split isList
    rcases append_eq_append_cons [_] split with ⟨kept, isFirst, _⟩ | ⟨more, isSecond, _⟩
    · obtain ⟨rfl, rfl⟩ := eq_of_singleton_eq isFirst
      obtain ⟨rfl, rfl⟩ := FieldPlan.isListOf_list_iff.mp isList
      rw [hasCount_pair, List.append_nil]
      refine iff_of_true ⟨rfl, rfl⟩ fun taker member named => ?_
      exact countFree (List.mem_map.mpr ⟨taker, member, named⟩)
    · rw [(eq_of_singleton_eq isSecond).2] at isList
      exact absurd isList FieldPlan.not_isListOf_count
  · intro front count behind other given split isCount
    rcases append_eq_append_cons [_] split with ⟨kept, isFirst, _⟩ | ⟨more, isSecond, rfl⟩
    · rw [(eq_of_singleton_eq isFirst).2] at isCount
      exact absurd isCount FieldPlan.not_isCountOf_list
    · obtain ⟨rfl, rfl⟩ := eq_of_singleton_eq isSecond
      obtain ⟨rfl, rfl⟩ := FieldPlan.isCountOf_count_iff.mp isCount
      rw [hasList_pair, List.append_nil]
      refine iff_of_true ⟨rfl, rfl⟩ fun taker member named => ?_
      rcases List.mem_append.mp member with before | isList
      · exact absurd (List.mem_map.mpr ⟨taker, before, named⟩) listFree
      · rw [List.mem_singleton.mp isList]
        exact FieldPlan.isListOf_list_iff.mpr ⟨rfl, rfl⟩

/-- A list and its count, added one after the other, keep the others in pairs. -/
theorem pushFields_pair (pairs : KeepsPairs fields) :
    KeepsPairs (pushFields fields (FieldPlan.pair name object kind countKind settings)) := by
  by_cases listTaken : name ∈ fields.map FieldPlan.name
  · rw [pushFields_pair_eq, pushField_list_of_taken listTaken]
    by_cases countTaken : name ++ FieldPlan.countSuffix ∈ fields.map FieldPlan.name
    · rw [pushField_count_of_taken countTaken]
      exact pairs
    · rw [pushField_count_of_free countTaken]
      exact pairs.append_count listTaken countTaken
  · by_cases countTaken : name ++ FieldPlan.countSuffix ∈ fields.map FieldPlan.name
    · have stillTaken : name ++ FieldPlan.countSuffix ∈
          (fields ++ [FieldPlan.list name object kind settings]).map FieldPlan.name :=
        List.map_subset FieldPlan.name (List.subset_append_left _ _) countTaken
      rw [pushFields_pair_eq, pushField_list_of_free listTaken, pushField_count_of_taken stillTaken]
      exact pairs.append_list listTaken countTaken
    · rw [pushFields_pair_of_free listTaken countTaken]
      exact pairs.append_both listTaken countTaken

end KeepsPairs

/-! ## Passes -/

/-- Fields that are offered one after the other, each list with its count behind it. -/
inductive ComesInPairs : List FieldPlan → Prop where
  | nil : ComesInPairs []
  | cons {field : FieldPlan} {rest : List FieldPlan} (noHalf : ¬ field.IsHalf)
      (others : ComesInPairs rest) : ComesInPairs (field :: rest)
  | pair {rest : List FieldPlan} (name object : String) (kind countKind : ResolverKind)
      (settings : FieldSettings) (others : ComesInPairs rest) :
      ComesInPairs (FieldPlan.pair name object kind countKind settings ++ rest)

namespace ComesInPairs

theorem append {first second : List FieldPlan} (comes : ComesInPairs first)
    (others : ComesInPairs second) : ComesInPairs (first ++ second) := by
  induction comes with
  | nil => exact others
  | cons noHalf _ inductionHypothesis => exact .cons noHalf inductionHypothesis
  | pair name object kind countKind settings _ inductionHypothesis =>
      exact .pair name object kind countKind settings inductionHypothesis

theorem flatMap {Item : Type} {items : List Item} {fields : Item → List FieldPlan}
    (each : ∀ item ∈ items, ComesInPairs (fields item)) : ComesInPairs (items.flatMap fields) := by
  induction items with
  | nil => exact .nil
  | cons head tail inductionHypothesis =>
      have others := inductionHypothesis fun item member =>
        each item (List.mem_cons_of_mem head member)
      rw [List.flatMap_cons]
      exact (each head List.mem_cons_self).append others

theorem of_noHalf {fields : List FieldPlan} (noHalf : ∀ field ∈ fields, ¬ field.IsHalf) :
    ComesInPairs fields := by
  induction fields with
  | nil => exact .nil
  | cons head tail inductionHypothesis =>
      have others := inductionHypothesis fun field member =>
        noHalf field (List.mem_cons_of_mem head member)
      exact .cons (noHalf head List.mem_cons_self) others

end ComesInPairs

/-- Adding fields that come in pairs leaves no half behind but for a name. -/
theorem KeepsPairs.pushFields {fields added : List FieldPlan} (pairs : KeepsPairs fields)
    (comes : ComesInPairs added) : KeepsPairs (TableGraph.pushFields fields added) := by
  induction comes generalizing fields with
  | nil => exact pairs
  | cons noHalf _ inductionHypothesis => exact inductionHypothesis (pairs.push noHalf)
  | pair name object kind countKind settings _ inductionHypothesis =>
      exact inductionHypothesis pairs.pushFields_pair

end TableGraph
