import Mathlib
import TableGraph.Proofs.Sql.Equality

/-!
# Exact values of floating-point numbers

A finite number stands for a rational one.  It is integral exactly when that is an integer,
and cutting off its fraction then changes nothing.  An integer of 64 bits is never rounded
to infinity.
-/

namespace TableGraph

namespace Double

/-- The rational number that a finite number stands for. -/
def toRat (number : Double) : ℚ :=
  (if number.negative then -1 else 1) * number.significand * 2 ^ number.scale

theorem cast_twoTo (exponent : Nat) : (twoTo exponent : ℚ) = 2 ^ exponent := by
  rw [show twoTo exponent = 2 ^ exponent from rfl, Nat.cast_pow, Nat.cast_ofNat]

theorem toRat_eq (number : Double) :
    number.toRat = (number.signedNumerator : ℚ) / (number.denominator : ℚ) := by
  have power : (2 : ℚ) ^ number.scale =
      (2 : ℚ) ^ number.scale.toNat / (2 : ℚ) ^ (-number.scale).toNat := by
    rw [← zpow_natCast, ← zpow_natCast, ← zpow_sub₀ (by norm_num)]
    congr 1
    omega
  have top : (number.numerator : ℚ) = number.significand * 2 ^ number.scale.toNat := by
    rw [numerator, Nat.cast_mul, cast_twoTo]
  rw [toRat, power, signedNumerator, denominator, cast_twoTo]
  cases number.negative with
  | true =>
      rw [if_pos rfl, if_pos rfl, Int.cast_neg, Int.cast_natCast, top]
      ring
  | false =>
      rw [if_neg Bool.false_ne_true, if_neg Bool.false_ne_true, Int.cast_natCast, top]
      ring

theorem isInfinite_of_isFinite {number : Double} (finite : number.isFinite = true) :
    number.isInfinite = false := by
  simp only [isFinite, bne_iff_ne] at finite
  simp [isInfinite, finite]

theorem toRat_of_isIntegral {number : Double} (integral : number.isIntegral = true) :
    number.toRat = number.truncate := by
  have finite := (Bool.and_eq_true_iff.mp integral).1
  have content := content_of_isIntegral integral
  rw [content_of_finite (isInfinite_of_isFinite finite)] at content
  rw [toRat_eq]
  exact (Prod.mk.inj content).2

/-- A finite number that stands for an integer is integral. -/
theorem isIntegral_of_toRat {number : Double} (finite : number.isFinite = true) {whole : Int}
    (same : number.toRat = whole) : number.isIntegral = true := by
  have nonzero : (number.denominator : ℚ) ≠ 0 := by exact_mod_cast number.denominator_pos.ne'
  rw [toRat_eq, div_eq_iff nonzero] at same
  have divides : (number.denominator : Int) ∣ number.signedNumerator :=
    ⟨whole, by rw [mul_comm]; exact_mod_cast same⟩
  have natural : number.denominator ∣ number.numerator := by
    rw [signedNumerator] at divides
    split at divides
    · exact Int.natCast_dvd_natCast.mp ((dvd_neg).mp divides)
    · exact Int.natCast_dvd_natCast.mp divides
  rw [isIntegral, finite, Nat.mod_eq_zero_of_dvd natural]
  rfl

theorem isIntegral_iff {number : Double} :
    number.isIntegral = true ↔ number.isFinite = true ∧ ∃ whole : Int, number.toRat = whole := by
  constructor
  · intro integral
    exact ⟨(Bool.and_eq_true_iff.mp integral).1, number.truncate, toRat_of_isIntegral integral⟩
  · rintro ⟨finite, whole, same⟩
    exact isIntegral_of_toRat finite same

/-! ## Integers are finite -/

theorem isFinite_ofSignificand {negative : Bool} {significand : Nat} {scale : Int}
    (small : scale ≤ 971) : (ofSignificand negative significand scale).isFinite = true := by
  unfold ofSignificand
  split
  · rfl
  · have below : (scale + 1075).toNat < 2047 := by omega
    have notLast : Fin.ofNat 2048 (scale + 1075).toNat ≠ 2047 := by
      intro isLast
      have values := congrArg Fin.val isLast
      rw [Fin.val_ofNat, Nat.mod_eq_of_lt (by omega)] at values
      exact below.ne values
    rw [if_neg (by omega), isFinite]
    exact bne_iff_ne.mpr notLast

theorem isFinite_ofInteger {value : Int} (fits : fitsInt64 value = true) :
    (ofInteger value).isFinite = true := by
  obtain ⟨above, below⟩ := Bool.and_eq_true_iff.mp fits
  have bounds : value.natAbs < 2 ^ 64 := by
    have lower := of_decide_eq_true above
    have upper := of_decide_eq_true below
    simp only [signedBound] at lower upper
    omega
  unfold ofInteger ofRatio
  split
  · rfl
  · next nonzero =>
      have small : value.natAbs.log2 < 64 := (Nat.log2_lt nonzero).mpr bounds
      rw [scaleOf_one (Nat.pos_of_ne_zero nonzero)]
      simp only
      split
      · exact isFinite_ofSignificand (by omega)
      · exact isFinite_ofSignificand (by omega)

end Double

end TableGraph
