import Mathlib
import TableGraph.Proofs.Scalar.ExactIntegers

/-!
# Values and the domains of scalars

A column may hold a value that its scalar has no form for.  A value that has a form is shown
in it.  Of the others, a number that is not finite is refused; texts and bytes in a field of
numbers, bytes in a boolean field and a fraction in an integer field are passed on as they
are.  The main statement is `Scalar.showsByForm`.
-/

namespace TableGraph

namespace Scalar

/-! ## Domains -/

/-- The documents of a scalar type, null aside. -/
inductive Admits : Scalar → Json → Prop where
  | id (text : String) : Admits .id (.text text)
  | string (text : String) : Admits .string (.text text)
  | boolean (value : Bool) : Admits .boolean (.bool value)
  | int {value : Int} (fits : fitsInt64 value = true) : Admits .int (.integer value)
  | float {value : Double} (finite : value.isFinite = true) : Admits .float (.float value)

/-- The values that a scalar type has a form for. -/
inductive HasForm : Scalar → Value → Prop where
  | id {value : Value} (present : value ≠ .null) : HasForm .id value
  | string {value : Value} (present : value ≠ .null) : HasForm .string value
  | intOfInteger (value : Int64) : HasForm .int (.integer value)
  | intOfBool (value : Bool) : HasForm .int (.bool value)
  | intOfFloat {value : Double} {whole : Int} (finite : value.isFinite = true)
      (integral : value.toRat = whole) : HasForm .int (.float value)
  | intOfText {value : Int64} {text : String} (writes : WritesInteger value.toInt text.toList) :
      HasForm .int (.text text)
  | floatOfInteger (value : Int64) : HasForm .float (.integer value)
  | floatOfFloat {value : Double} (finite : value.isFinite = true) : HasForm .float (.float value)
  | floatOfText {value : Double} {text : String} (read : Double.ofText? text = some value)
      (finite : value.isFinite = true) : HasForm .float (.text text)
  | booleanOfInteger (value : Int64) : HasForm .boolean (.integer value)
  | booleanOfBool (value : Bool) : HasForm .boolean (.bool value)
  | booleanOfText (text : String) : HasForm .boolean (.text text)

/-- The number that is not finite and would have to be shown for a value. -/
inductive Exceeds : Scalar → Value → Double → Prop where
  | stored {scalar : Scalar} {value : Double} (noText : scalar ≠ .id ∧ scalar ≠ .string)
      (infinite : value.isFinite = false) : Exceeds scalar (.float value) value
  | read {value : Double} {text : String} (read : Double.ofText? text = some value)
      (infinite : value.isFinite = false) : Exceeds .float (.text text) value

/-- The values that a scalar type has no form for and that are passed on as they are. -/
inductive Passes : Scalar → Value → Prop where
  | bytes {scalar : Scalar} (noText : scalar ≠ .id ∧ scalar ≠ .string) (bytes : List UInt8) :
      Passes scalar (.bytes bytes)
  | textInInt {text : String}
      (noInteger : ∀ value : Int64, ¬ WritesInteger value.toInt text.toList) :
      Passes .int (.text text)
  | textInFloat {text : String} (noNumber : Double.ofText? text = none) : Passes .float (.text text)
  | fractionInInt {value : Double} (finite : value.isFinite = true)
      (fractional : ∀ whole : Int, value.toRat ≠ whole) : Passes .int (.float value)

/-- The values that a conversion is missing for. -/
inductive LacksConversion : Scalar → Value → Prop where
  | boolInFloat (value : Bool) : LacksConversion .float (.bool value)
  | numberInBoolean (value : Double) : LacksConversion .boolean (.float value)

/-- What a field of a scalar type shows for a value. -/
structure ShowsByForm (scalar : Scalar) (value : Value) : Prop where
  /-- Null is shown for null alone. -/
  null : scalar.showValue value = .ok .null ↔ value = .null
  /-- A value with a form is shown in the domain of the scalar. -/
  form : scalar.HasForm value → ∃ shown, scalar.showValue value = .ok shown ∧ scalar.Admits shown
  /-- A number that is not finite is refused. -/
  refused : ∀ number, scalar.Exceeds value number →
    scalar.showValue value = .error (.nonFinite (FloatLayout.plain.render number))
  /-- What is passed on is outside of the domain. -/
  passed : scalar.Passes value →
    scalar.showValue value = .ok value.toJson ∧ ¬ scalar.Admits value.toJson
  exhaustive : value = .null ∨ scalar.HasForm value ∨ (∃ number, scalar.Exceeds value number) ∨
    scalar.Passes value ∨ scalar.LacksConversion value

/-! ## Numbers -/

theorem number_of_finite {value : Double} (finite : value.isFinite = true) :
    number value = .ok (.float value) := by
  rw [number, if_pos finite]

theorem number_of_infinite {value : Double} (infinite : value.isFinite = false) :
    number value = .error (.nonFinite (FloatLayout.plain.render value)) := by
  rw [number, infinite, if_neg Bool.false_ne_true]

/-! ## Null -/

variable {scalar : Scalar} {shown : Json}

theorem number_ne_null {value : Double} (shows : number value = .ok shown) : shown ≠ .null := by
  unfold number at shows
  split at shows
  · rw [← Except.ok.inj shows]
    exact Json.noConfusion
  · cases shows

theorem showText_ne_null {value : String} (shows : scalar.showText value = .ok shown) :
    shown ≠ .null := by
  unfold showText at shows
  split at shows
  · rw [← Except.ok.inj shows]
    exact Json.noConfusion
  · rw [← Except.ok.inj shows]
    exact Json.noConfusion
  · split at shows <;>
      · rw [← Except.ok.inj shows]
        exact Json.noConfusion
  · split at shows
    · exact number_ne_null shows
    · rw [← Except.ok.inj shows]
      exact Json.noConfusion
  · rw [← Except.ok.inj shows]
    exact Json.noConfusion

/-- A value that is held is never shown as null. -/
theorem showValue_ne_null {value : Value} (present : value.isNull = false)
    (shows : scalar.showValue value = .ok shown) : shown ≠ .null := by
  cases value with
  | null => cases present
  | text stored => exact showText_ne_null shows
  | bytes stored =>
      rw [← Except.ok.inj shows]
      exact Json.noConfusion
  | integer stored =>
      cases scalar <;>
        · rw [← Except.ok.inj shows]
          exact Json.noConfusion
  | bool stored =>
      cases scalar <;>
        · rw [← Except.ok.inj shows]
          exact Json.noConfusion
  | float stored =>
      cases scalar with
      | id =>
          rw [← Except.ok.inj shows]
          exact Json.noConfusion
      | string =>
          rw [← Except.ok.inj shows]
          exact Json.noConfusion
      | float => exact number_ne_null shows
      | boolean => exact number_ne_null shows
      | int =>
          simp only [showValue] at shows
          split at shows
          · rw [← Except.ok.inj shows]
            exact Json.noConfusion
          · exact number_ne_null shows

/-! ## Forms -/

theorem showValue_of_hasForm {value : Value} (hasForm : scalar.HasForm value) :
    ∃ shown, scalar.showValue value = .ok shown ∧ scalar.Admits shown := by
  cases hasForm with
  | id present =>
      cases value with
      | null => exact absurd rfl present
      | _ => exact ⟨_, rfl, .id _⟩
  | string present =>
      cases value with
      | null => exact absurd rfl present
      | _ => exact ⟨_, rfl, .string _⟩
  | intOfInteger stored => exact ⟨_, rfl, .int (fitsInt64_toInt stored)⟩
  | intOfBool stored =>
      have fits : fitsInt64 (if stored then 1 else 0) = true := by cases stored <;> rfl
      exact ⟨_, rfl, .int fits⟩
  | intOfFloat finite integral =>
      have shows := show_float_eq_integer_iff.mpr
        ⟨Double.isIntegral_of_toRat finite integral, rfl⟩
      exact ⟨_, shows, .int (fitsInt64_clampInt64 _)⟩
  | @intOfText stored text writes =>
      have shows : Scalar.int.showValue (.text text) = .ok (.integer stored.toInt) := by
        simp only [showValue, showText, Int64.ofText?_eq_some_iff.mpr writes]
      exact ⟨_, shows, .int (fitsInt64_toInt stored)⟩
  | floatOfInteger stored =>
      exact ⟨_, rfl, .float (Double.isFinite_ofInteger (fitsInt64_toInt stored))⟩
  | floatOfFloat finite => exact ⟨_, number_of_finite finite, .float finite⟩
  | @floatOfText parsed text read finite =>
      have shows : Scalar.float.showValue (.text text) = .ok (.float parsed) := by
        simp only [showValue, showText, read, number_of_finite finite]
      exact ⟨_, shows, .float finite⟩
  | booleanOfInteger stored => exact ⟨_, rfl, .boolean _⟩
  | booleanOfBool stored => exact ⟨_, rfl, .boolean _⟩
  | booleanOfText text => exact ⟨_, rfl, .boolean _⟩

/-- A number without an integral value is shown by an integer field like by a float field. -/
theorem show_float_of_not_isIntegral {value : Double} (fractional : ¬ value.isIntegral = true) :
    Scalar.int.showValue (.float value) = number value := by
  rw [showValue, if_neg fractional]

theorem showValue_of_exceeds {value : Value} {exceeding : Double}
    (exceeds : scalar.Exceeds value exceeding) :
    scalar.showValue value = .error (.nonFinite (FloatLayout.plain.render exceeding)) := by
  cases exceeds with
  | stored noText infinite =>
      cases scalar with
      | id => exact absurd rfl noText.1
      | string => exact absurd rfl noText.2
      | float => exact number_of_infinite infinite
      | boolean => exact number_of_infinite infinite
      | int =>
          have fractional : ¬ exceeding.isIntegral = true := by
            rw [Double.isIntegral, infinite]
            exact Bool.false_ne_true
          rw [show_float_of_not_isIntegral fractional, number_of_infinite infinite]
  | read read infinite => simp only [showValue, showText, read, number_of_infinite infinite]

/-! ## Values without a form -/

theorem showValue_of_passes {value : Value} (passes : scalar.Passes value) :
    scalar.showValue value = .ok value.toJson ∧ ¬ scalar.Admits value.toJson := by
  cases passes with
  | bytes noText bytes =>
      refine ⟨by cases scalar <;> rfl, fun admitted => ?_⟩
      cases admitted with
      | id => exact noText.1 rfl
      | string => exact noText.2 rfl
  | @textInInt text noInteger =>
      have unread : Int64.ofText? text = none := by
        rw [Option.eq_none_iff_forall_ne_some]
        exact fun value read => noInteger value (Int64.ofText?_eq_some_iff.mp read)
      refine ⟨by simp only [showValue, showText, unread, Value.toJson], fun admitted => ?_⟩
      cases admitted
  | textInFloat noNumber =>
      refine ⟨by simp only [showValue, showText, noNumber, Value.toJson], fun admitted => ?_⟩
      cases admitted
  | @fractionInInt number finite fractional =>
      have notIntegral : ¬ number.isIntegral = true := by
        intro integral
        obtain ⟨_, whole, same⟩ := Double.isIntegral_iff.mp integral
        exact fractional whole same
      rw [show_float_of_not_isIntegral notIntegral, number_of_finite finite, Value.toJson,
        if_pos finite]
      refine ⟨rfl, fun admitted => ?_⟩
      cases admitted

/-- A value other than null has a form, is refused or passed on, or lacks a conversion. -/
theorem hasForm_or (scalar : Scalar) {value : Value} (present : value ≠ .null) :
    scalar.HasForm value ∨ (∃ number, scalar.Exceeds value number) ∨ scalar.Passes value ∨
      scalar.LacksConversion value := by
  cases scalar with
  | id => exact Or.inl (.id present)
  | string => exact Or.inl (.string present)
  | int =>
      cases value with
      | null => exact absurd rfl present
      | bool stored => exact Or.inl (.intOfBool stored)
      | integer stored => exact Or.inl (.intOfInteger stored)
      | bytes stored => exact Or.inr (Or.inr (Or.inl (.bytes (by decide) stored)))
      | text stored =>
          by_cases writes : ∃ value : Int64, WritesInteger value.toInt stored.toList
          · obtain ⟨value, writes⟩ := writes
            exact Or.inl (.intOfText writes)
          · exact Or.inr (Or.inr (Or.inl (.textInInt (not_exists.mp writes))))
      | float stored =>
          by_cases finite : stored.isFinite = true
          · by_cases integral : ∃ whole : Int, stored.toRat = whole
            · obtain ⟨whole, same⟩ := integral
              exact Or.inl (.intOfFloat finite same)
            · exact Or.inr (Or.inr (Or.inl (.fractionInInt finite (not_exists.mp integral))))
          · rw [Bool.not_eq_true] at finite
            exact Or.inr (Or.inl ⟨stored, .stored (by decide) finite⟩)
  | float =>
      cases value with
      | null => exact absurd rfl present
      | bool stored => exact Or.inr (Or.inr (Or.inr (.boolInFloat stored)))
      | integer stored => exact Or.inl (.floatOfInteger stored)
      | bytes stored => exact Or.inr (Or.inr (Or.inl (.bytes (by decide) stored)))
      | text stored =>
          cases read : Double.ofText? stored with
          | none => exact Or.inr (Or.inr (Or.inl (.textInFloat read)))
          | some number =>
              by_cases finite : number.isFinite = true
              · exact Or.inl (.floatOfText read finite)
              · rw [Bool.not_eq_true] at finite
                exact Or.inr (Or.inl ⟨number, .read read finite⟩)
      | float stored =>
          by_cases finite : stored.isFinite = true
          · exact Or.inl (.floatOfFloat finite)
          · rw [Bool.not_eq_true] at finite
            exact Or.inr (Or.inl ⟨stored, .stored (by decide) finite⟩)
  | boolean =>
      cases value with
      | null => exact absurd rfl present
      | bool stored => exact Or.inl (.booleanOfBool stored)
      | integer stored => exact Or.inl (.booleanOfInteger stored)
      | text stored => exact Or.inl (.booleanOfText stored)
      | bytes stored => exact Or.inr (Or.inr (Or.inl (.bytes (by decide) stored)))
      | float stored => exact Or.inr (Or.inr (Or.inr (.numberInBoolean stored)))

/-- Every field shows a value in the domain of its scalar when the value has a form there.
Nothing but null is shown as null, numbers that are not finite are refused, and what is
passed on otherwise is known. -/
theorem showsByForm (scalar : Scalar) (value : Value) : scalar.ShowsByForm value where
  null := by
    constructor
    · intro shows
      by_contra present
      exact showValue_ne_null (beq_eq_false_iff_ne.mpr present) shows rfl
    · rintro rfl
      rfl
  form := showValue_of_hasForm
  refused := fun _ => showValue_of_exceeds
  passed := showValue_of_passes
  exhaustive := by
    by_cases absent : value = .null
    · exact Or.inl absent
    · exact Or.inr (hasForm_or scalar absent)

/-- An integer field shows a text that writes no integer as a text. -/
theorem not_admits_abc :
    ¬ ∀ (scalar : Scalar) (value : Value) (shown : Json), scalar.showValue value = .ok shown →
      (shown = .null ↔ value = .null) ∧ (value ≠ .null → scalar.Admits shown) := by
  intro admits
  have unread : Int64.ofText? "abc" = none := by decide
  have shows : Scalar.int.showValue (.text "abc") = .ok (.text "abc") := by
    simp only [showValue, showText, unread]
  have admitted := (admits .int (.text "abc") (.text "abc") shows).2 Value.noConfusion
  cases admitted

end Scalar

end TableGraph
