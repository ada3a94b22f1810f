import Mathlib.Data.List.Basic
import TableGraph.Sql.Like

/-!
# What a pattern fits

A pattern that begins with letters fits the texts that begin with them in either case and
whose rest the rest of the pattern fits (`LikePattern.fits_append_iff`); an underscore takes
any one character (`LikePattern.fits_any_iff`), a final percent sign everything.
-/

namespace TableGraph

namespace LikePattern

/-! ## Letters of either case -/

theorem toNat_toUpper (character : Char) :
    character.toUpper.toNat =
      if 97 ≤ character.toNat ∧ character.toNat ≤ 122 then character.toNat - 32
      else character.toNat := by
  unfold Char.toUpper
  by_cases small : 97 ≤ character.toNat ∧ character.toNat ≤ 122
  · have inRange : 'a'.val ≤ character.val ∧ character.val ≤ 'z'.val := small
    have bounds : 97 ≤ character.val.toNat ∧ character.val.toNat ≤ 122 := small
    have distance : ('A'.val - 'a'.val : UInt32).toNat = 4294967264 := rfl
    rw [dif_pos inRange, if_pos small]
    change (character.val + ('A'.val - 'a'.val)).toNat = character.val.toNat - 32
    rw [UInt32.toNat_add, distance]
    omega
  · have outside : ¬ ('a'.val ≤ character.val ∧ character.val ≤ 'z'.val) := small
    rw [dif_neg outside, if_neg small]

theorem toNat_toLower (character : Char) :
    character.toLower.toNat =
      if 65 ≤ character.toNat ∧ character.toNat ≤ 90 then character.toNat + 32
      else character.toNat := by
  unfold Char.toLower
  by_cases capital : 65 ≤ character.toNat ∧ character.toNat ≤ 90
  · have inRange : character.val ≥ 'A'.val ∧ character.val ≤ 'Z'.val := capital
    have bounds : 65 ≤ character.val.toNat ∧ character.val.toNat ≤ 90 := capital
    have distance : ('a'.val - 'A'.val : UInt32).toNat = 32 := rfl
    rw [dif_pos inRange, if_pos capital]
    change (character.val + ('a'.val - 'A'.val)).toNat = character.val.toNat + 32
    rw [UInt32.toNat_add, distance]
    omega
  · have outside : ¬ (character.val ≥ 'A'.val ∧ character.val ≤ 'Z'.val) := capital
    rw [dif_neg outside, if_neg capital]

theorem toLower_eq_iff {left right : Char} :
    left.toLower = right.toLower ↔ left.toUpper = right.toUpper := by
  have byNumber {first second : Char} : first = second ↔ first.toNat = second.toNat :=
    ⟨congrArg Char.toNat, fun same => Char.ext (UInt32.toNat_inj.mp same)⟩
  rw [byNumber, byNumber, toNat_toLower, toNat_toLower, toNat_toUpper, toNat_toUpper]
  split <;> split <;> split <;> split <;> omega

/-! ## Marks of a pattern -/

theorem someEnd_of_nil {accepts : List Char → Bool} (accepted : accepts [] = true)
    (text : List Char) : someEnd accepts text = true := by
  induction text with
  | nil => exact accepted
  | cons head tail inductionHypothesis => rw [someEnd, inductionHypothesis, Bool.or_true]

theorem fits_all (text : List Char) : fits ['%'] text = true := by
  unfold fits
  rw [if_pos rfl]
  exact someEnd_of_nil rfl text

theorem fits_any_iff {pattern text : List Char} :
    fits ('_' :: pattern) text = true ↔
      ∃ character rest, text = character :: rest ∧ fits pattern rest = true := by
  cases text with
  | nil => simp [fits]
  | cons head tail => simp [fits]

theorem fits_letter_iff {mark : Char} (isLetter : mark ≠ '%' ∧ mark ≠ '_')
    {pattern text : List Char} :
    fits (mark :: pattern) text = true ↔
      ∃ character rest, text = character :: rest ∧ character.toLower = mark.toLower ∧
        fits pattern rest = true := by
  cases text with
  | nil => simp [fits, isLetter.1]
  | cons head tail =>
      simp only [fits, if_neg isLetter.1, Bool.and_eq_true, Bool.or_eq_true, beq_iff_eq,
        isLetter.2, false_or, List.cons.injEq]
      constructor
      · rintro ⟨sameLetter, fitting⟩
        exact ⟨head, tail, ⟨rfl, rfl⟩, sameLetter.symm, fitting⟩
      · rintro ⟨_, _, ⟨rfl, rfl⟩, sameLetter, fitting⟩
        exact ⟨sameLetter.symm, fitting⟩

/-- Letters fit themselves in either case. -/
theorem fits_append_iff {letters pattern text : List Char}
    (areLetters : ∀ mark ∈ letters, mark ≠ '%' ∧ mark ≠ '_') :
    fits (letters ++ pattern) text = true ↔
      ∃ front rest, text = front ++ rest ∧ front.map Char.toUpper = letters.map Char.toUpper ∧
        fits pattern rest = true := by
  induction letters generalizing text with
  | nil => simp
  | cons head tail inductionHypothesis =>
      rw [List.cons_append, fits_letter_iff (areLetters head List.mem_cons_self)]
      have tailLetters : ∀ mark ∈ tail, mark ≠ '%' ∧ mark ≠ '_' :=
        fun mark member => areLetters mark (List.mem_cons_of_mem head member)
      constructor
      · rintro ⟨character, rest, rfl, sameHead, fitting⟩
        obtain ⟨front, others, rfl, sameTail, fitting⟩ :=
          (inductionHypothesis tailLetters).mp fitting
        refine ⟨character :: front, others, rfl, ?_, fitting⟩
        rw [List.map_cons, List.map_cons, toLower_eq_iff.mp sameHead, sameTail]
      · rintro ⟨front, rest, rfl, same, fitting⟩
        obtain ⟨character, others, rfl, sameHead, sameTail⟩ := List.map_eq_cons_iff.mp same
        refine ⟨character, others ++ rest, rfl, toLower_eq_iff.mpr sameHead, ?_⟩
        exact (inductionHypothesis tailLetters).mpr ⟨others, rest, rfl, sameTail, fitting⟩

end LikePattern

end TableGraph
