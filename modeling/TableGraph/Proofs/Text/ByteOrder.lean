import Mathlib.Data.String.Basic
import TableGraph.Sql.Cell

/-!
# The byte order of texts

Stored texts are compared by their bytes, texts of the language by their characters.  The
encoding of characters keeps their order and no code is the beginning of another one, so
the two orders are the same (`Cell.compareBytes_bytesOf`).
-/

namespace TableGraph

namespace Cell

/-! ## Sequences of bytes -/

theorem compareBytes_append_left (shared left right : List UInt8) :
    compareBytes (shared ++ left) (shared ++ right) = compareBytes left right := by
  induction shared with
  | nil => rfl
  | cons head tail inductionHypothesis =>
      rw [List.cons_append, List.cons_append, compareBytes, Std.compare_self]
      exact inductionHypothesis

theorem compareBytes_self (bytes : List UInt8) : compareBytes bytes bytes = .eq := by
  have whole := compareBytes_append_left bytes [] []
  rwa [List.append_nil] at whole

theorem compareBytes_swap (left right : List UInt8) :
    (compareBytes left right).swap = compareBytes right left := by
  induction left generalizing right with
  | nil => cases right <;> rfl
  | cons head tail inductionHypothesis =>
      cases right with
      | nil => rfl
      | cons other rest =>
          rw [compareBytes, compareBytes, Ordering.swap_then, inductionHypothesis,
            ← Std.OrientedCmp.eq_swap]

theorem compareBytes_cons_of_le {left right : Nat} {lefts rights : List UInt8}
    (atMost : left ≤ right) (small : right < 256)
    (decided : left = right → compareBytes lefts rights = .lt) :
    compareBytes (UInt8.ofNat left :: lefts) (UInt8.ofNat right :: rights) = .lt := by
  rw [compareBytes]
  by_cases same : left = right
  · rw [same, Std.compare_self]
    exact decided same
  · have less : UInt8.ofNat left < UInt8.ofNat right := by
      rw [UInt8.lt_iff_toNat_lt, UInt8.toNat_ofNat_of_lt' (Nat.lt_of_le_of_lt atMost small),
        UInt8.toNat_ofNat_of_lt' small]
      omega
    rw [Std.compare_eq_lt.mpr less]
    rfl

theorem compareBytes_cons_of_lt {left right : Nat} (less : left < right) (small : right < 256)
    (lefts rights : List UInt8) :
    compareBytes (UInt8.ofNat left :: lefts) (UInt8.ofNat right :: rights) = .lt :=
  compareBytes_cons_of_le (Nat.le_of_lt less) small fun same => absurd same (Nat.ne_of_lt less)

/-! ## Encoded characters -/

theorem compareBytes_utf8EncodeChar {left right : Char} (less : left < right)
    (lefts rights : List UInt8) :
    compareBytes (String.utf8EncodeChar left ++ lefts) (String.utf8EncodeChar right ++ rights) =
      .lt := by
  have below : left.val.toNat < right.val.toNat := less
  have bounded : right.val.toNat < 0x110000 := by
    have valid : right.val.toNat < 0xD800 ∨
        0xDFFF < right.val.toNat ∧ right.val.toNat < 0x110000 := right.valid
    omega
  unfold String.utf8EncodeChar
  generalize left.val.toNat = code at below ⊢
  generalize right.val.toNat = other at below bounded ⊢
  dsimp only
  -- A longer code has a greater first byte; codes of one length differ first where the
  -- numbers of the characters do.
  split
  case isTrue oneByte =>
    split
    case isTrue => exact compareBytes_cons_of_lt below (by omega) _ _
    case isFalse =>
      split
      case isTrue => exact compareBytes_cons_of_lt (by omega) (by omega) _ _
      case isFalse => split <;> exact compareBytes_cons_of_lt (by omega) (by omega) _ _
  case isFalse moreThanOne =>
    rw [if_neg (by omega : ¬ other ≤ 127)]
    split
    case isTrue twoBytes =>
      split
      case isTrue =>
        refine compareBytes_cons_of_le (by omega) (by omega) fun sameFirst => ?_
        exact compareBytes_cons_of_lt (by omega) (by omega) _ _
      case isFalse => split <;> exact compareBytes_cons_of_lt (by omega) (by omega) _ _
    case isFalse moreThanTwo =>
      rw [if_neg (by omega : ¬ other ≤ 2047)]
      split
      case isTrue threeBytes =>
        split
        case isTrue =>
          refine compareBytes_cons_of_le (by omega) (by omega) fun sameFirst => ?_
          refine compareBytes_cons_of_le (by omega) (by omega) fun sameSecond => ?_
          exact compareBytes_cons_of_lt (by omega) (by omega) _ _
        case isFalse => exact compareBytes_cons_of_lt (by omega) (by omega) _ _
      case isFalse moreThanThree =>
        rw [if_neg (by omega : ¬ other ≤ 65535)]
        refine compareBytes_cons_of_le (by omega) (by omega) fun sameFirst => ?_
        refine compareBytes_cons_of_le (by omega) (by omega) fun sameSecond => ?_
        refine compareBytes_cons_of_le (by omega) (by omega) fun sameThird => ?_
        exact compareBytes_cons_of_lt (by omega) (by omega) _ _

/-! ## Texts -/

theorem compareBytes_flatMap_utf8EncodeChar {lefts rights : List Char} (less : lefts < rights) :
    compareBytes (lefts.flatMap String.utf8EncodeChar) (rights.flatMap String.utf8EncodeChar) =
      .lt := by
  induction less with
  | @nil head tail =>
      obtain ⟨byte, bytes, code⟩ :=
        List.exists_cons_of_ne_nil (String.utf8EncodeChar_ne_nil (c := head))
      rw [List.flatMap_cons, code]
      rfl
  | cons _ inductionHypothesis =>
      rw [List.flatMap_cons, List.flatMap_cons, compareBytes_append_left]
      exact inductionHypothesis
  | rel first => exact compareBytes_utf8EncodeChar first _ _

/-- Texts are in the order of their bytes. -/
theorem compareBytes_bytesOf (left right : String) :
    compareBytes (bytesOf left) (bytesOf right) = compare left right := by
  have less {first second : String} (before : first < second) :
      compareBytes (bytesOf first) (bytesOf second) = .lt :=
    compareBytes_flatMap_utf8EncodeChar (String.lt_iff.mp before)
  rcases lt_trichotomy left right with before | same | after
  · rw [compare_lt_iff_lt.mpr before, less before]
  · rw [same, compareBytes_self, compare_eq_iff_eq.mpr rfl]
  · rw [compare_gt_iff_gt.mpr after, ← compareBytes_swap, less after]
    rfl

end Cell

end TableGraph
