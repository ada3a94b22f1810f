import Mathlib.Data.List.Nodup
import TableGraph.Json.Basic

/-!
# Looking up in ordered maps

Of pairs that are inserted one after the other, the last one of a key is found.  With
distinct keys, every pair is found.
-/

namespace TableGraph

variable {α : Type}

theorem lookup_cons_eq (sought : String) (head : String × α) (tail : List (String × α)) :
    (head :: tail).lookup sought = if sought = head.1 then some head.2 else tail.lookup sought := by
  obtain ⟨key, value⟩ := head
  by_cases same : sought = key
  · rw [if_pos same, same]
    exact List.lookup_cons_self
  · rw [if_neg same, List.lookup_cons, beq_eq_false_iff_ne.mpr same]

theorem lookup_map_values {β : Type} (change : α → β) (sought : String) (pairs : List (String × α)) :
    (pairs.map fun entry => (entry.1, change entry.2)).lookup sought =
      (pairs.lookup sought).map change := by
  induction pairs with
  | nil => rfl
  | cons head tail inductionHypothesis =>
      rw [List.map_cons, lookup_cons_eq, lookup_cons_eq, inductionHypothesis]
      by_cases same : sought = head.1
      · rw [if_pos same, if_pos same]
        rfl
      · rw [if_neg same, if_neg same]

/-- With distinct keys every pair is the one that is found for its key. -/
theorem mem_iff_lookup {pairs : List (String × α)} (distinct : (pairs.map Prod.fst).Nodup)
    {entry : String × α} : entry ∈ pairs ↔ pairs.lookup entry.1 = some entry.2 := by
  induction pairs with
  | nil => simp
  | cons head tail inductionHypothesis =>
      obtain ⟨fresh, distinctTail⟩ := List.nodup_cons.mp distinct
      rw [lookup_cons_eq, List.mem_cons]
      by_cases same : entry.1 = head.1
      · rw [if_pos same]
        constructor
        · rintro (rfl | later)
          · rfl
          · exact absurd (same ▸ List.mem_map_of_mem later) fresh
        · intro found
          exact Or.inl (Prod.ext same (Option.some.inj found).symm)
      · rw [if_neg same, inductionHypothesis distinctTail]
        exact or_iff_right fun isHead => same (congrArg Prod.fst isHead)

theorem lookup_insertPair (key sought : String) (value : α) (pairs : List (String × α)) :
    (insertPair key value pairs).lookup sought =
      if sought = key then some value else pairs.lookup sought := by
  induction pairs with
  | nil => exact lookup_cons_eq sought (key, value) []
  | cons head tail inductionHypothesis =>
      obtain ⟨other, old⟩ := head
      by_cases replaced : other = key
      · subst replaced
        rw [insertPair, if_pos (beq_self_eq_true other), lookup_cons_eq, lookup_cons_eq]
        by_cases same : sought = other <;> simp [same]
      · rw [insertPair, if_neg (by simpa using replaced), lookup_cons_eq, lookup_cons_eq,
          inductionHypothesis]
        by_cases found : sought = other
        · have different : sought ≠ key := fun same => replaced (found.symm.trans same)
          rw [if_pos found, if_neg different, if_pos found]
        · rw [if_neg found, if_neg found]

/-- What is found after pairs were inserted one after the other, by any insertion that
makes a key lead to its value and leaves the other keys alone. -/
theorem lookup_foldl_insert
    {insert : String → α → List (String × α) → List (String × α)}
    (inserts : ∀ key sought value pairs, (insert key value pairs).lookup sought =
      if sought = key then some value else pairs.lookup sought)
    (sought : String) (pairs built : List (String × α)) :
    (pairs.foldl (fun built entry => insert entry.1 entry.2 built) built).lookup sought =
      (pairs.reverse.lookup sought).or (built.lookup sought) := by
  induction pairs generalizing built with
  | nil => rfl
  | cons head tail inductionHypothesis =>
      rw [List.foldl_cons, inductionHypothesis, inserts, List.reverse_cons,
        List.lookup_append, Option.or_assoc, lookup_cons_eq]
      by_cases same : sought = head.1
      · rw [if_pos same, if_pos same, Option.some_or]
      · rw [if_neg same, if_neg same, List.lookup_nil, Option.none_or]

/-- The last pair of a key is found. -/
theorem lookup_pairsOf (sought : String) (pairs : List (String × α)) :
    (pairsOf pairs).lookup sought = pairs.reverse.lookup sought := by
  rw [pairsOf, lookup_foldl_insert lookup_insertPair]
  exact Option.or_none

theorem mem_of_lookup_reverse {sought : String} {value : α} {pairs : List (String × α)}
    (found : pairs.reverse.lookup sought = some value) : (sought, value) ∈ pairs := by
  obtain ⟨before, behind, split, _⟩ := List.lookup_eq_some_iff.mp found
  have member : (sought, value) ∈ pairs.reverse := by
    rw [split]
    exact List.mem_append_right before List.mem_cons_self
  exact List.mem_reverse.mp member

theorem mem_of_lookup_pairsOf {sought : String} {value : α} {pairs : List (String × α)}
    (found : (pairsOf pairs).lookup sought = some value) : (sought, value) ∈ pairs := by
  rw [lookup_pairsOf] at found
  exact mem_of_lookup_reverse found

theorem isSome_lookup_pairsOf {sought : String} {pairs : List (String × α)} :
    ((pairsOf pairs).lookup sought).isSome = true ↔ sought ∈ pairs.map Prod.fst := by
  rw [lookup_pairsOf, List.lookup_isSome_iff]
  simp

theorem lookup_reverse_eq_none_iff {sought : String} {pairs : List (String × α)} :
    pairs.reverse.lookup sought = none ↔ sought ∉ pairs.map Prod.fst := by
  rw [← lookup_pairsOf, ← Option.not_isSome_iff_eq_none, isSome_lookup_pairsOf]

end TableGraph
