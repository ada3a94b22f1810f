import Mathlib
import TableGraph.Sql.Affinity

/-!
# Equality of cells

Two cells are equal in the order when they have the same content: the same bytes or the
same number, whatever kind of number each is stored as.  So equality is an equivalence on
everything but what is not a number, and a conversion that only changes the kind of a
number changes nothing about it.
-/

namespace TableGraph

/-! ## Numbers -/

namespace Double

/-- The value of a number behind its place: below, among or above the finite numbers. -/
def content (number : Double) : Int × ℚ :=
  if number.isInfinite then (if number.negative then -1 else 1, 0)
  else (0, (number.signedNumerator : ℚ) / (number.denominator : ℚ))

theorem denominator_pos (number : Double) : 0 < number.denominator :=
  Nat.pow_pos (by decide)

theorem content_of_finite {number : Double} (finite : number.isInfinite = false) :
    number.content = (0, (number.signedNumerator : ℚ) / (number.denominator : ℚ)) := by
  rw [content, finite]
  rfl

theorem compare?_eq_iff {left right : Double} (leftNumber : left.isNaN = false)
    (rightNumber : right.isNaN = false) :
    left.compare? right = some .eq ↔ left.content = right.content := by
  have leftPositive : (left.denominator : ℚ) ≠ 0 := by exact_mod_cast left.denominator_pos.ne'
  have rightPositive : (right.denominator : ℚ) ≠ 0 := by exact_mod_cast right.denominator_pos.ne'
  unfold compare? content
  simp only [leftNumber, rightNumber, Bool.or_self, Bool.false_eq_true, if_false]
  cases left.isInfinite with
  | true =>
      cases right.isInfinite with
      | true => cases left.negative <;> cases right.negative <;> simp
      | false => cases left.negative <;> simp
  | false =>
      cases right.isInfinite with
      | true => cases right.negative <;> simp
      | false =>
          simp only [Bool.or_self, Bool.false_eq_true, if_false, Option.some.injEq,
            Std.compare_eq_iff_eq, Prod.mk.injEq, true_and]
          rw [div_eq_div_iff leftPositive rightPositive]
          norm_cast

theorem isSome_compare? {left right : Double} (leftNumber : left.isNaN = false)
    (rightNumber : right.isNaN = false) : (left.compare? right).isSome = true := by
  simp only [compare?, leftNumber, rightNumber, Bool.or_self, Bool.false_eq_true, if_false]
  split <;> rfl

/-- A number with an integral value is that integer. -/
theorem content_of_isIntegral {number : Double} (integral : number.isIntegral = true) :
    number.content = (0, (number.truncate : ℚ)) := by
  obtain ⟨finite, whole⟩ := Bool.and_eq_true_iff.mp integral
  have notInfinite : number.isInfinite = false := by
    simp only [isFinite, bne_iff_ne] at finite
    simp [isInfinite, finite]
  have divides : (number.denominator : Int) ∣ number.signedNumerator := by
    have natural : number.denominator ∣ number.numerator :=
      Nat.dvd_of_mod_eq_zero (eq_of_beq whole)
    rw [signedNumerator]
    split
    · exact (Int.natCast_dvd_natCast.mpr natural).neg_right
    · exact Int.natCast_dvd_natCast.mpr natural
  have nonzero : ((number.denominator : Int) : ℚ) ≠ 0 := by
    exact_mod_cast number.denominator_pos.ne'
  rw [content_of_finite notInfinite, truncate, Int.tdiv_eq_ediv_of_dvd divides,
    Int.cast_div divides nonzero]
  norm_cast

/-! ### Results of rounding -/

theorem isNaN_ofSignificand (negative : Bool) (significand : Nat) (scale : Int) :
    (ofSignificand negative significand scale).isNaN = false := by
  unfold ofSignificand
  split
  · rfl
  · split
    · rfl
    · next _ small =>
        have below : (scale + 1075).toNat < 2047 := by omega
        have notLast : Fin.ofNat 2048 (scale + 1075).toNat ≠ 2047 := by
          intro isLast
          have values := congrArg Fin.val isLast
          rw [Fin.val_ofNat, Nat.mod_eq_of_lt (by omega)] at values
          exact below.ne values
        rw [isNaN, beq_eq_false_iff_ne.mpr notLast, Bool.false_and]

theorem isNaN_ofRatio (negative : Bool) (numerator denominator : Nat) :
    (ofRatio negative numerator denominator).isNaN = false := by
  unfold ofRatio
  split
  · rfl
  · simp only
    split
    · exact isNaN_ofSignificand _ _ _
    · exact isNaN_ofSignificand _ _ _

theorem isNaN_ofDecimal (negative : Bool) (digits : Nat) (exponent : Int) :
    (ofDecimal negative digits exponent).isNaN = false := by
  unfold ofDecimal
  split
  · rfl
  · simp only
    split
    · rfl
    · split
      · rfl
      · exact isNaN_ofRatio _ _ _

/-! ### Integers -/

theorem hiddenBit_le_roundQuotient {numerator denominator : Nat} (positive : 0 < denominator)
    (large : hiddenBit * denominator ≤ numerator) :
    hiddenBit ≤ roundQuotient numerator denominator := by
  have quotient : hiddenBit ≤ numerator / denominator :=
    (Nat.le_div_iff_mul_le positive).mpr large
  unfold roundQuotient
  simp only
  split
  · exact Nat.le_succ_of_le quotient
  · exact quotient

theorem isZero_ofSignificand {negative : Bool} {significand : Nat} {scale : Int}
    (large : hiddenBit ≤ significand) (above : -1075 < scale) :
    (ofSignificand negative significand scale).isZero = false := by
  unfold ofSignificand
  rw [if_neg (Nat.not_lt.mpr large)]
  split
  · rfl
  · next small =>
      have below : (scale + 1075).toNat < 2048 := by omega
      have notFirst : Fin.ofNat 2048 (scale + 1075).toNat ≠ 0 := by
        intro isFirst
        have values := congrArg Fin.val isFirst
        rw [Fin.val_ofNat, Nat.mod_eq_of_lt below, Fin.val_zero] at values
        omega
      rw [isZero, beq_eq_false_iff_ne.mpr notFirst, Bool.false_and]

theorem twoTo_log2_le {number : Nat} (positive : 0 < number) : twoTo number.log2 ≤ number :=
  Nat.log2_self_le positive.ne'

/-- The scale of an integer leaves its leading bit as the hidden one. -/
theorem scaleOf_one {number : Nat} (positive : 0 < number) :
    scaleOf number 1 = (number.log2 : Int) - 52 := by
  have logOne : Nat.log2 1 = 0 := rfl
  have leading : (52 + ((number.log2 : Int) - 0 - 52)).toNat = number.log2 := by omega
  have trailing : (-(52 + ((number.log2 : Int) - 0 - 52))).toNat = 0 := by omega
  have fits : 1 * twoTo number.log2 ≤ number * twoTo 0 := by
    simpa [twoTo] using twoTo_log2_le positive
  unfold scaleOf
  simp only [logOne, Nat.cast_zero, leading, trailing, if_pos fits]
  omega

/-- Rounding leaves a positive integer positive. -/
theorem isZero_ofRatio_one {negative : Bool} {number : Nat} (positive : 0 < number) :
    (ofRatio negative number 1).isZero = false := by
  let scale : Int := (number.log2 : Int) - 52
  have large : hiddenBit ≤ roundAtScale number 1 scale := by
    have exponents : 52 + scale.toNat = number.log2 + (-scale).toNat := by omega
    refine hiddenBit_le_roundQuotient (by simp [twoTo]) ?_
    calc hiddenBit * (1 * twoTo scale.toNat)
        = twoTo (52 + scale.toNat) := by simp [twoTo, pow_add, hiddenBit]
      _ = twoTo number.log2 * twoTo (-scale).toNat := by
          rw [exponents]
          simp [twoTo, pow_add]
      _ ≤ number * twoTo (-scale).toNat := Nat.mul_le_mul_right _ (twoTo_log2_le positive)
  unfold ofRatio
  rw [if_neg positive.ne', scaleOf_one positive]
  simp only
  split
  · exact isZero_ofSignificand (le_refl _) (by omega)
  · exact isZero_ofSignificand large (by omega)

end Double

/-! ## Cells -/

namespace Cell

/-- What equality looks at. -/
inductive Content where
  | null
  | number (value : Int × ℚ)
  | text (bytes : List UInt8)
  | blob (bytes : List UInt8)

def content : Cell → Content
  | .null => .null
  | .integer value => .number (0, (value.toInt : ℚ))
  | .real value => .number value.content
  | .text bytes => .text bytes
  | .blob bytes => .blob bytes

/-- Whether a cell has a place in the order: what is not a number has none. -/
def isOrdered : Cell → Bool
  | .real value => !value.isNaN
  | _ => true

theorem isNull_of_content {left right : Cell} (same : left.content = right.content) :
    left.isNull = right.isNull := by
  cases left <;> cases right <;> first | rfl | cases same

theorem compareBytes_eq_iff {left right : List UInt8} :
    compareBytes left right = .eq ↔ left = right := by
  induction left generalizing right with
  | nil => cases right <;> simp [compareBytes]
  | cons head tail inductionHypothesis =>
      cases right with
      | nil => simp [compareBytes]
      | cons first rest =>
          rw [compareBytes, Ordering.then_eq_eq, Std.compare_eq_iff_eq, inductionHypothesis,
            List.cons.injEq]

theorem compareMixed_eq_iff {left : Int64} {right : Double} :
    compareMixed left right = .eq ↔ ((0 : Int), (left.toInt : ℚ)) = right.content := by
  have positive : (right.denominator : ℚ) ≠ 0 := by exact_mod_cast right.denominator_pos.ne'
  unfold compareMixed Double.content
  cases right.isInfinite with
  | true => cases right.negative <;> simp
  | false =>
      simp only [Bool.false_eq_true, if_false, Std.compare_eq_iff_eq, Prod.mk.injEq, true_and]
      rw [eq_div_iff positive]
      norm_cast

/-- Cells are equal in the order exactly when they have the same content. -/
theorem order_eq_iff {left right : Cell} (leftOrdered : left.isOrdered = true)
    (rightOrdered : right.isOrdered = true) :
    left.order right = .eq ↔ left.content = right.content := by
  cases left with
  | null => cases right <;> simp [order, content, rank]
  | text bytes => cases right <;> simp [order, content, rank, compareBytes_eq_iff]
  | blob bytes => cases right <;> simp [order, content, rank, compareBytes_eq_iff]
  | integer value =>
      cases right with
      | integer other => simp [order, content, Int64.toInt_inj]
      | real other => simp [order, content, compareMixed_eq_iff]
      | _ => simp [order, content, rank]
  | real value =>
      cases right with
      | integer other =>
          -- The integer is compared with the real number, and the outcome turned around.
          have swapped : (compareMixed other value).swap = .eq ↔ compareMixed other value = .eq := by
            cases compareMixed other value <;> decide
          rw [order, swapped, compareMixed_eq_iff]
          simp only [content, Content.number.injEq]
          exact eq_comm
      | real other =>
          have leftNumber : value.isNaN = false := by simpa [isOrdered] using leftOrdered
          have rightNumber : other.isNaN = false := by simpa [isOrdered] using rightOrdered
          have decided : compareReal value other = .eq ↔ value.compare? other = some .eq := by
            obtain ⟨place, placed⟩ := Option.isSome_iff_exists.mp
              (Double.isSome_compare? leftNumber rightNumber)
            rw [compareReal, placed, Option.getD_some, Option.some.injEq]
          rw [order, decided, Double.compare?_eq_iff leftNumber rightNumber]
          simp only [content, Content.number.injEq]
      | _ => simp [order, content, rank]

end Cell

/-! ## Conversions -/

namespace Affinity

/-- What a comparison with a column of this affinity converts both sides to. -/
def convert : Affinity → Cell → Cell
  | .text => preferText
  | .blob => id
  | _ => preferNumber

theorem align_some (affinity : Affinity) (left right : Cell) :
    align (some affinity) left right = (affinity.convert left, affinity.convert right) := by
  cases affinity <;> rfl

/-- A text is taken as a number or stays, and what is read from digits is a number. -/
theorem numberOf_cases (bytes : List UInt8) :
    numberOf bytes = .text bytes ∨ (∃ value, numberOf bytes = .integer value) ∨
      ∃ value, value.isNaN = false ∧ numberOf bytes = .real value := by
  unfold numberOf
  split
  · next leading _ =>
      split
      · unfold LeadingNumeral.toCell
        split
        · exact Or.inr (Or.inl ⟨_, rfl⟩)
        · exact Or.inr (Or.inr ⟨_, Double.isNaN_ofDecimal _ _ _, rfl⟩)
      · exact Or.inl rfl
  · exact Or.inl rfl

theorem isNull_preferNumber (cell : Cell) : (preferNumber cell).isNull = cell.isNull := by
  cases cell with
  | text bytes =>
      obtain stays | ⟨value, isInteger⟩ | ⟨value, _, isReal⟩ := numberOf_cases bytes
      · rw [preferNumber, stays]
      · rw [preferNumber, isInteger]
        rfl
      · rw [preferNumber, isReal]
        rfl
  | _ => rfl

theorem isNull_convert (affinity : Affinity) (cell : Cell) :
    (affinity.convert cell).isNull = cell.isNull := by
  cases affinity with
  | blob => rfl
  | text => cases cell <;> rfl
  | _ => exact isNull_preferNumber cell

theorem isOrdered_preferNumber {cell : Cell} (ordered : cell.isOrdered = true) :
    (preferNumber cell).isOrdered = true := by
  cases cell with
  | text bytes =>
      obtain stays | ⟨value, isInteger⟩ | ⟨value, isNumber, isReal⟩ := numberOf_cases bytes
      · rw [preferNumber, stays]
        rfl
      · rw [preferNumber, isInteger]
        rfl
      · rw [preferNumber, isReal, Cell.isOrdered, isNumber]
        rfl
  | _ => exact ordered

theorem isOrdered_convert (affinity : Affinity) {cell : Cell} (ordered : cell.isOrdered = true) :
    (affinity.convert cell).isOrdered = true := by
  cases affinity with
  | blob => exact ordered
  | text => cases cell <;> rfl
  | _ => exact isOrdered_preferNumber ordered

theorem content_preferWhole (cell : Cell) : (preferWhole cell).content = cell.content := by
  cases cell with
  | real value =>
      rw [preferWhole, wholeOf]
      split
      · next whole =>
          simp only [Bool.and_eq_true, decide_eq_true_eq] at whole
          obtain ⟨⟨integral, above⟩, below⟩ := whole
          rw [Cell.content, Cell.content, Double.content_of_isIntegral integral,
            Int64.toInt_ofInt_of_le]
          all_goals
            simp only [signedBound] at above below
            omega
      · rfl
  | _ => rfl

theorem isOrdered_store (affinity : Affinity) {cell : Cell} (ordered : cell.isOrdered = true) :
    (affinity.store cell).isOrdered = true := by
  have asNumber := isOrdered_preferNumber ordered
  cases affinity with
  | blob => exact ordered
  | text => exact isOrdered_convert .text ordered
  | real =>
      rw [store]
      cases number : preferNumber cell with
      | integer value =>
          rw [preferReal, Cell.isOrdered, Double.ofInteger, Double.isNaN_ofRatio]
          rfl
      | real value =>
          rw [number] at asNumber
          rw [preferReal]
          split
          · rfl
          · exact asNumber
      | _ => rfl
  | _ =>
      change (preferWhole (preferNumber cell)).isOrdered = true
      cases number : preferNumber cell with
      | real value =>
          rw [number] at asNumber
          rw [preferWhole, wholeOf]
          split
          · rfl
          · exact asNumber
      | _ => rfl

/-! ### Storing and comparing -/

/-- What stores a text as itself stores only texts that are no numerals. -/
theorem preferNumber_of_stored (prefer : Cell → Cell) {cell : Cell}
    (keepsText : ∀ other bytes, prefer other = .text bytes → other = .text bytes)
    (stored : prefer (preferNumber cell) = cell) : preferNumber cell = cell := by
  cases cell with
  | text bytes => exact keepsText _ _ stored
  | _ => rfl

/-- A cell as a column stores it is compared as it is. -/
theorem convert_of_stored {affinity : Affinity} {cell : Cell} (stored : affinity.store cell = cell) :
    affinity.convert cell = cell := by
  cases affinity with
  | blob => rfl
  | text => exact stored
  | real =>
      refine preferNumber_of_stored preferReal (fun other bytes isText => ?_) stored
      cases other <;> first | exact isText | cases isText
  | _ =>
      refine preferNumber_of_stored preferWhole (fun other bytes isText => ?_) stored
      cases other with
      | real value =>
          rw [preferWhole, wholeOf] at isText
          split at isText <;> cases isText
      | _ => exact isText

/-- Storing a cell changes nothing but the kind of its number. -/
def Keeps (affinity : Affinity) (cell : Cell) : Prop :=
  (affinity.store cell).same (affinity.convert cell) = true

theorem keeps_iff {affinity : Affinity} {cell : Cell} (ordered : cell.isOrdered = true) :
    affinity.Keeps cell ↔ (affinity.store cell).content = (affinity.convert cell).content := by
  rw [Keeps, Cell.same, beq_iff_eq]
  exact Cell.order_eq_iff (isOrdered_store affinity ordered) (isOrdered_convert affinity ordered)

/-- Only a column of real numbers rounds what it stores. -/
theorem keeps_of_ne_real {affinity : Affinity} (notReal : affinity ≠ .real) {cell : Cell}
    (ordered : cell.isOrdered = true) : affinity.Keeps cell := by
  rw [keeps_iff ordered]
  cases affinity with
  | blob => rfl
  | text => rfl
  | real => exact absurd rfl notReal
  | _ => exact content_preferWhole _

end Affinity

end TableGraph
