import Mathlib
import TableGraph.Proofs.Number.Exact
import TableGraph.Proofs.Number.Numeral
import TableGraph.Proofs.Text.Utf8
import TableGraph.Scalar
import TableGraph.Sql.Cell

/-!
# Exact integers

An integer field shows a stored integer, an integral number or a text that writes an
integer, and what it shows is the number that is stored.  The main statement,
`Scalar.shows_exactly_iff`, says when that is so: for every stored value but an integral
number that 64 bits cannot hold, which is shown as the nearest one that they can.
-/

namespace TableGraph

/-! ## The number that is stored -/

/-- The number that a value stands for, if it stands for one. -/
inductive Value.Denotes : Value → ℚ → Prop where
  | bool (value : Bool) : Denotes (.bool value) (if value then 1 else 0)
  | integer (value : Int64) : Denotes (.integer value) value.toInt
  | float {value : Double} (finite : value.isFinite = true) : Denotes (.float value) value.toRat
  | text {value : Int} {text : String} (writes : WritesInteger value text.toList) :
      Denotes (.text text) value

/-- The number that a stored cell stands for, if it stands for one; a text is the bytes of
a numeral. -/
inductive Cell.Denotes : Cell → ℚ → Prop where
  | integer (value : Int64) : Denotes (.integer value) value.toInt
  | real {value : Double} (finite : value.isFinite = true) : Denotes (.real value) value.toRat
  | text {value : Int} {text : String} (writes : WritesInteger value text.toList) :
      Denotes (.ofText text) value

/-- An integral number that 64 bits cannot hold. -/
inductive Value.IsBeyondInt64 : Value → Prop where
  | float {value : Double} {whole : Int} (finite : value.isFinite = true)
      (integral : value.toRat = whole) (large : fitsInt64 whole = false) :
      IsBeyondInt64 (.float value)

/-! ## Values as they are read -/

theorem toNat_lt_of_writesInteger {value : Int} {text : List Char}
    (writes : WritesInteger value text) : ∀ character ∈ text, character.toNat < 0x80 := by
  have ofDigit {digit : Char} (isDigit : digit.isDigit = true) : digit.toNat < 0x80 := by
    have range : 48 ≤ digit.toNat ∧ digit.toNat ≤ 57 := Char.isDigit_iff_toNat.mp isDigit
    omega
  intro character member
  cases writes with
  | unsigned _ areDigits => exact ofDigit (areDigits character member)
  | positive _ areDigits =>
      rcases List.mem_cons.mp member with rfl | digit
      · decide
      · exact ofDigit (areDigits character digit)
  | negative _ areDigits =>
      rcases List.mem_cons.mp member with rfl | digit
      · decide
      · exact ofDigit (areDigits character digit)

/-- Reading a cell changes nothing about the number that it stands for. -/
theorem Cell.denotes_iff {cell : Cell} {number : ℚ} :
    cell.Denotes number ↔ cell.toValue.Denotes number := by
  constructor
  · intro denotes
    cases denotes with
    | integer value => exact .integer value
    | real finite => exact .float finite
    | @text value text writes =>
        have read : (Cell.ofText text).toValue = .text text :=
          congrArg Value.text (Utf8.decodeLossy_utf8EncodeChar text)
        rw [read]
        exact .text writes
  · intro denotes
    cases cell with
    | null => cases denotes
    | blob bytes => cases denotes
    | integer value =>
        cases denotes
        exact .integer value
    | real value =>
        cases denotes with
        | float finite => exact .real finite
    | text bytes =>
        generalize kept : (Cell.text bytes).toValue = read at denotes
        cases denotes with
        | @text value text writes =>
            have same : Utf8.decodeLossy bytes = text := Value.text.inj kept
            have characters : Utf8.decodeFrom .between bytes = text.toList := by
              rw [← same, Utf8.decodeLossy, String.toList_ofList]
            have narrow := toNat_lt_of_writesInteger writes
            rw [← characters] at narrow
            have bytesOf : Cell.text bytes = .ofText text := by
              rw [Cell.ofText, Cell.bytesOf, ← characters, Utf8.flatMap_decodeFrom narrow]
            rw [bytesOf]
            exact .text writes
        | _ => cases kept

/-! ## What an integer field shows -/

namespace Scalar

theorem clampInt64_of_fits {value : Int} (fits : fitsInt64 value = true) :
    clampInt64 value = value := by
  obtain ⟨above, below⟩ := Bool.and_eq_true_iff.mp fits
  have lower := of_decide_eq_true above
  have upper := of_decide_eq_true below
  rw [clampInt64]
  omega

theorem fitsInt64_clampInt64 (value : Int) : fitsInt64 (clampInt64 value) = true := by
  have bounds : -(signedBound : Int) ≤ clampInt64 value ∧ clampInt64 value < signedBound := by
    simp only [clampInt64, signedBound]
    omega
  exact Bool.and_eq_true_iff.mpr ⟨decide_eq_true bounds.1, decide_eq_true bounds.2⟩

theorem number_ne_integer {value : Double} {shown : Int} :
    number value ≠ .ok (.integer shown) := by
  unfold number
  intro same
  split at same
  · cases same
  · cases same

/-- An integer field shows an integer for a number only when that has no fraction. -/
theorem show_float_eq_integer_iff {value : Double} {shown : Int} :
    Scalar.int.showValue (.float value) = .ok (.integer shown) ↔
      value.isIntegral = true ∧ clampInt64 value.truncate = shown := by
  rw [showValue]
  by_cases integral : value.isIntegral = true
  · rw [if_pos integral]
    simp [integral]
  · rw [if_neg integral]
    exact ⟨fun same => absurd same number_ne_integer, fun both => absurd both.1 integral⟩

theorem show_text_eq_integer {text : String} {shown : Int}
    (shows : Scalar.int.showValue (.text text) = .ok (.integer shown)) :
    WritesInteger shown text.toList := by
  simp only [showValue, showText] at shows
  split at shows
  · next value read =>
      rw [← Json.integer.inj (Except.ok.inj shows)]
      exact Int64.ofText?_eq_some_iff.mp read
  · cases shows

/-- What is shown for a value is the number it stands for, unless that is beyond 64 bits. -/
theorem denotes_of_shows {value : Value} (within : ¬ value.IsBeyondInt64) {shown : Int}
    (shows : Scalar.int.showValue value = .ok (.integer shown)) : value.Denotes shown := by
  cases value with
  | null => cases shows
  | bytes stored => cases shows
  | integer stored =>
      rw [← Json.integer.inj (Except.ok.inj shows)]
      exact .integer stored
  | bool stored =>
      rw [← Json.integer.inj (Except.ok.inj shows)]
      have same : (((if stored then 1 else 0 : Int)) : ℚ) = if stored then 1 else 0 := by
        cases stored <;> rfl
      rw [same]
      exact .bool stored
  | text stored => exact .text (show_text_eq_integer shows)
  | float stored =>
      obtain ⟨integral, rfl⟩ := show_float_eq_integer_iff.mp shows
      obtain ⟨finite, _⟩ := Double.isIntegral_iff.mp integral
      have exactly := Double.toRat_of_isIntegral integral
      have fits : fitsInt64 stored.truncate = true := by
        rw [← Bool.not_eq_false]
        exact fun large => within (.float finite exactly large)
      rw [clampInt64_of_fits fits, ← exactly]
      exact .float finite

/-- An integral number beyond 64 bits is shown as another integer. -/
theorem exists_shown_of_isBeyondInt64 {value : Value} (beyond : value.IsBeyondInt64) :
    ∃ shown, Scalar.int.showValue value = .ok (.integer shown) ∧ ¬ value.Denotes shown := by
  cases beyond with
  | @float stored whole finite same large =>
      have integral := Double.isIntegral_of_toRat finite same
      have truncated : stored.truncate = whole := by
        have both := Double.toRat_of_isIntegral integral
        rw [same] at both
        exact_mod_cast both.symm
      refine ⟨_, show_float_eq_integer_iff.mpr ⟨integral, rfl⟩, fun denotes => ?_⟩
      have fits := fitsInt64_clampInt64 stored.truncate
      generalize clampInt64 stored.truncate = shown at denotes fits
      generalize number : (shown : ℚ) = shownNumber at denotes
      cases denotes with
      | float _ =>
          rw [same] at number
          have equal : shown = whole := by exact_mod_cast number
          rw [equal, large] at fits
          cases fits

theorem shows_denoted_iff (value : Value) :
    (∀ shown, Scalar.int.showValue value = .ok (.integer shown) → value.Denotes shown) ↔
      ¬ value.IsBeyondInt64 := by
  constructor
  · intro shows beyond
    obtain ⟨shown, isShown, differs⟩ := exists_shown_of_isBeyondInt64 beyond
    exact differs (shows shown isShown)
  · intro within shown shows
    exact denotes_of_shows within shows

/-- An integer field shows the number that a value stands for, and the number that is stored
in a cell, unless it is an integral number that 64 bits cannot hold. -/
theorem shows_exactly_iff (value : Value) (cell : Cell) :
    ((∀ shown, Scalar.int.showValue value = .ok (.integer shown) → value.Denotes shown) ↔
      ¬ value.IsBeyondInt64) ∧
    ((∀ shown, Scalar.int.showValue cell.toValue = .ok (.integer shown) → cell.Denotes shown) ↔
      ¬ cell.toValue.IsBeyondInt64) := by
  refine ⟨shows_denoted_iff value, ?_⟩
  rw [← shows_denoted_iff]
  exact forall₂_congr fun shown _ => Cell.denotes_iff

/-- The least number that is integral and beyond 64 bits. -/
private def leastBeyond : Double := .ofInteger 9223372036854775808

/-- The least integral number beyond 64 bits is shown as the integer before it. -/
theorem not_shows_exactly_leastBeyond :
    Scalar.int.showValue (.float leastBeyond) = .ok (.integer 9223372036854775807) ∧
      leastBeyond.toRat = 9223372036854775808 ∧
        ¬ (Value.float leastBeyond).Denotes 9223372036854775807 := by
  have integral : leastBeyond.isIntegral = true := by decide +kernel
  have whole : leastBeyond.truncate = 9223372036854775808 := by decide +kernel
  have clamped : clampInt64 leastBeyond.truncate = 9223372036854775807 := by
    rw [whole]
    rfl
  have number : leastBeyond.toRat = 9223372036854775808 := by
    rw [Double.toRat_of_isIntegral integral, whole]
    norm_num
  refine ⟨show_float_eq_integer_iff.mpr ⟨integral, clamped⟩, number, fun denotes => ?_⟩
  generalize shown : (9223372036854775807 : ℚ) = other at denotes
  cases denotes with
  | float _ =>
      rw [number] at shown
      norm_num at shown

end Scalar

end TableGraph
