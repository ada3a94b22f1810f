import Mathlib
import TableGraph.Proofs.Json.OrderedMap

/-!
# Looking up in sorted maps

Of pairs that are inserted into a list sorted by key, the last one of a key is kept,
and it is the only one of its key.
-/

namespace TableGraph

variable {α : Type}

theorem lookup_insertSorted (key sought : String) (value : α) (pairs : List (String × α)) :
    (insertSorted key value pairs).lookup sought =
      if sought = key then some value else pairs.lookup sought := by
  induction pairs with
  | nil => exact lookup_cons_eq sought (key, value) []
  | cons head tail inductionHypothesis =>
      obtain ⟨other, old⟩ := head
      rw [insertSorted]
      split
      · exact lookup_cons_eq sought (key, value) _
      · split
        · rename_i same
          have replaced : other = key := eq_of_beq same
          subst replaced
          rw [lookup_cons_eq, lookup_cons_eq]
          by_cases found : sought = other <;> simp [found]
        · rename_i different
          have apart : other ≠ key := by simpa using different
          rw [lookup_cons_eq, lookup_cons_eq, inductionHypothesis]
          by_cases found : sought = other
          · rw [if_pos found, if_neg (fun same => apart (found.symm.trans same)), if_pos found]
          · rw [if_neg found, if_neg found]

/-- The last pair of a key is found. -/
theorem lookup_sortedPairs (sought : String) (pairs : List (String × α)) :
    (sortedPairs pairs).lookup sought = pairs.reverse.lookup sought := by
  rw [sortedPairs, lookup_foldl_insert lookup_insertSorted]
  exact Option.or_none

/-! ## Order -/

/-- Whether the keys of some pairs grow from each pair to the next. -/
def IsSorted (pairs : List (String × α)) : Prop := pairs.Pairwise fun earlier later => earlier.1 < later.1

theorem mem_insertSorted {key : String} {value : α} {pairs : List (String × α)}
    {entry : String × α} (member : entry ∈ insertSorted key value pairs) :
    entry = (key, value) ∨ entry ∈ pairs := by
  induction pairs with
  | nil => exact Or.inl (List.mem_singleton.mp member)
  | cons head tail inductionHypothesis =>
      obtain ⟨other, old⟩ := head
      rw [insertSorted] at member
      split at member
      · exact List.mem_cons.mp member
      · split at member
        · exact (List.mem_cons.mp member).imp_right (List.mem_cons_of_mem (other, old))
        · rcases List.mem_cons.mp member with rfl | later
          · exact Or.inr List.mem_cons_self
          · exact (inductionHypothesis later).imp_right (List.mem_cons_of_mem (other, old))

theorem IsSorted.insert {pairs : List (String × α)} (sorted : IsSorted pairs) (key : String)
    (value : α) : IsSorted (insertSorted key value pairs) := by
  induction pairs with
  | nil => exact List.pairwise_singleton _ _
  | cons head tail inductionHypothesis =>
      obtain ⟨other, old⟩ := head
      obtain ⟨behind, sortedTail⟩ := List.pairwise_cons.mp sorted
      rw [insertSorted]
      split
      · rename_i before
        refine List.pairwise_cons.mpr ⟨fun entry member => ?_, sorted⟩
        rcases List.mem_cons.mp member with rfl | later
        · exact before
        · exact before.trans (behind entry later)
      · rename_i notBefore
        split
        · rename_i same
          rw [eq_of_beq same] at behind
          exact List.pairwise_cons.mpr ⟨behind, sortedTail⟩
        · rename_i different
          have after : other < key :=
            lt_of_le_of_ne (not_lt.mp notBefore) (by simpa using different)
          refine List.pairwise_cons.mpr ⟨fun entry member => ?_, inductionHypothesis sortedTail⟩
          rcases mem_insertSorted member with rfl | later
          · exact after
          · exact behind entry later

theorem isSorted_sortedPairs (pairs : List (String × α)) : IsSorted (sortedPairs pairs) := by
  have built :
      ∀ built : List (String × α), IsSorted built →
        IsSorted (pairs.foldl (fun built entry => insertSorted entry.1 entry.2 built) built) := by
    induction pairs with
    | nil => exact fun _ sorted => sorted
    | cons head tail inductionHypothesis =>
        exact fun built sorted => inductionHypothesis _ (sorted.insert head.1 head.2)
  exact built [] List.Pairwise.nil

theorem IsSorted.nodup {pairs : List (String × α)} (sorted : IsSorted pairs) :
    (pairs.map Prod.fst).Nodup :=
  List.pairwise_map.mpr (sorted.imp fun grows => grows.ne)

/-- A pair is kept when no later one has its key. -/
theorem mem_sortedPairs {pairs : List (String × α)} {entry : String × α} :
    entry ∈ sortedPairs pairs ↔ pairs.reverse.lookup entry.1 = some entry.2 := by
  rw [mem_iff_lookup (isSorted_sortedPairs pairs).nodup, lookup_sortedPairs]

/-- With distinct keys every pair is the last one of its key. -/
theorem lookup_reverse_of_nodup {pairs : List (String × α)} {entry : String × α}
    (distinct : (pairs.map Prod.fst).Nodup) (member : entry ∈ pairs) :
    pairs.reverse.lookup entry.1 = some entry.2 := by
  have distinctReversed : (pairs.reverse.map Prod.fst).Nodup := by
    rw [List.map_reverse]
    exact List.nodup_reverse.mpr distinct
  exact (mem_iff_lookup distinctReversed).mp (List.mem_reverse.mpr member)

end TableGraph
