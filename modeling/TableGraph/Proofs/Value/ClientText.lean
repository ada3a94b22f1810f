import Mathlib.Data.List.Basic
import TableGraph.Condition.Compiler
import TableGraph.Proofs.Number.Numeral
import TableGraph.Text.WhiteSpace

/-!
# Client text is kept

A text of a client is bound as a number when it is how that number is written, and as
itself otherwise.  So whatever is bound can be written back as the text it came from, and
texts that differ are never bound as one value; `keepsText_ofInput` says so, and that every
integer of 64 bits is recognised.
-/

namespace TableGraph

/-! ## What is no decimal form -/

/-- A text that is no decimal form of an integer of 64 bits, although other readers take
texts like it for one. -/
inductive IsIrregular : List Char → Prop where
  | plusSign (rest : List Char) : IsIrregular ('+' :: rest)
  | leadingZero {rest : List Char} (more : rest ≠ []) : IsIrregular ('0' :: rest)
  /-- A minus in front of zero or of leading zeros. -/
  | negativeZero (rest : List Char) : IsIrregular ('-' :: '0' :: rest)
  | blankBefore {blank : Char} (isBlank : isWhiteSpace blank = true) (rest : List Char) :
      IsIrregular (blank :: rest)
  | blankBehind {blank : Char} (isBlank : isWhiteSpace blank = true) (front : List Char) :
      IsIrregular (front ++ [blank])
  | beyond {value : Int} {text : List Char} (writes : WritesInteger value text)
      (large : fitsInt64 value = false) : IsIrregular text

theorem not_mem_decimalText {value : Int} {blank : Char} (isBlank : isWhiteSpace blank = true) :
    blank ∉ (decimalText value).toList := by
  intro member
  rcases mem_decimalText member with rfl | isDigit
  · cases isBlank
  · have range : 48 ≤ blank.toNat ∧ blank.toNat ≤ 57 := Char.isDigit_iff_toNat.mp isDigit
    simp only [isWhiteSpace, Bool.or_eq_true, Bool.and_eq_true, decide_eq_true_eq,
      beq_iff_eq] at isBlank
    omega

/-- The decimal form of an integer of 64 bits is none of the irregular texts. -/
theorem not_isIrregular_decimalText (value : Int64) :
    ¬ IsIrregular (decimalText value.toInt).toList := by
  have form := decimalText_cases value.toInt
  intro irregular
  generalize written : (decimalText value.toInt).toList = text at irregular form
  cases irregular with
  | plusSign rest =>
      have member : '+' ∈ (decimalText value.toInt).toList := written ▸ List.mem_cons_self
      rcases mem_decimalText member with isMinus | isDigit
      · cases isMinus
      · cases isDigit
  | leadingZero more =>
      obtain ⟨_, digits⟩ | ⟨_, digits⟩ := form
      · exact more (eq_nil_of_toDigits_eq_zero_cons digits.symm).2
      · cases (List.cons.inj digits).1
  | negativeZero rest =>
      obtain ⟨_, digits⟩ | ⟨negative, digits⟩ := form
      · have isDigit := areDigits_toDigits value.toInt.natAbs '-' (digits ▸ List.mem_cons_self)
        cases isDigit
      · have zero := (eq_nil_of_toDigits_eq_zero_cons (List.cons.inj digits).2.symm).1
        omega
  | blankBefore isBlank rest =>
      exact not_mem_decimalText isBlank (written ▸ List.mem_cons_self)
  | @blankBehind blank isBlank front =>
      have member : blank ∈ (decimalText value.toInt).toList :=
        written ▸ List.mem_append_right front (List.mem_singleton_self _)
      exact not_mem_decimalText isBlank member
  | beyond writes large =>
      have read := readInteger?_decimalText value.toInt
      rw [written, readInteger?_eq_some_iff.mpr writes] at read
      rw [Option.some.inj read, fitsInt64_toInt] at large
      cases large

/-! ## Reading client text -/

/-- A reading of client text that loses nothing. -/
structure KeepsText (read : String → Value) : Prop where
  /-- An integer is read from its decimal form and from no other text. -/
  integer : ∀ text value, read text = .integer value ↔ text = toString value.toInt
  /-- A float is finite and read from the form that it is written back in. -/
  float : ∀ text value, read text = .float value →
    value.isFinite = true ∧ text = FloatLayout.exact.render value
  /-- What is no number stays as it is. -/
  otherwise : ∀ text, (∃ value, read text = .integer value) ∨ (∃ value, read text = .float value) ∨
    read text = .text text
  irregular : ∀ text, IsIrregular text.toList → ∀ value, read text ≠ .integer value
  /-- Different texts are different values, floats compared by their fields. -/
  injective : Function.Injective read

namespace Value

theorem canonicalInteger?_eq_some_iff {text : String} {value : Int64} :
    canonicalInteger? text = some value ↔ text = decimalText value.toInt := by
  rw [canonicalInteger?, Option.filter_eq_some_iff, beq_iff_eq]
  constructor
  · rintro ⟨_, same⟩
    exact same.symm
  · rintro rfl
    exact ⟨Int64.ofText?_eq_some_iff.mpr (writesInteger_decimalText value.toInt), rfl⟩

theorem canonicalFloat?_eq_some {text : String} {value : Double}
    (read : canonicalFloat? text = some value) :
    value.isFinite = true ∧ text = FloatLayout.exact.render value := by
  unfold canonicalFloat? at read
  simp only at read
  split at read
  · obtain ⟨finite, same⟩ := Bool.and_eq_true_iff.mp (Option.filter_eq_some_iff.mp read).2
    exact ⟨finite, (eq_of_beq same).symm⟩
  · cases read

/-- What a text is bound as, with what it has to be for that. -/
theorem ofInput_cases (text : String) :
    (∃ value, canonicalInteger? text = some value ∧ ofInput text = .integer value) ∨
      (∃ value, canonicalFloat? text = some value ∧ ofInput text = .float value) ∨
        canonicalInteger? text = none ∧ ofInput text = .text text := by
  unfold ofInput
  cases canonicalInteger? text with
  | some value => exact Or.inl ⟨value, rfl, rfl⟩
  | none =>
      cases canonicalFloat? text with
      | some value => exact Or.inr (Or.inl ⟨value, rfl, rfl⟩)
      | none => exact Or.inr (Or.inr ⟨rfl, rfl⟩)

theorem ofInput_eq_integer_iff {text : String} {value : Int64} :
    ofInput text = .integer value ↔ text = decimalText value.toInt := by
  rw [← canonicalInteger?_eq_some_iff]
  constructor
  · intro read
    obtain ⟨found, canonical, isInteger⟩ | ⟨found, _, isFloat⟩ | ⟨_, isText⟩ := ofInput_cases text
    · rw [isInteger] at read
      rw [canonical, Value.integer.inj read]
    · rw [isFloat] at read
      cases read
    · rw [isText] at read
      cases read
  · intro canonical
    rw [ofInput, canonical]

theorem ofInput_eq_float {text : String} {value : Double} (read : ofInput text = .float value) :
    value.isFinite = true ∧ text = FloatLayout.exact.render value := by
  obtain ⟨found, _, isInteger⟩ | ⟨found, canonical, isFloat⟩ | ⟨_, isText⟩ := ofInput_cases text
  · rw [isInteger] at read
    cases read
  · rw [isFloat] at read
    rw [← Value.float.inj read]
    exact canonicalFloat?_eq_some canonical
  · rw [isText] at read
    cases read

/-- The text that a bound number was read from. -/
def written : Value → String
  | .integer value => decimalText value.toInt
  | .float value => FloatLayout.exact.render value
  | .text kept => kept
  | _ => ""

theorem written_ofInput (text : String) : (ofInput text).written = text := by
  obtain ⟨value, _, isInteger⟩ | ⟨value, _, isFloat⟩ | ⟨_, isText⟩ := ofInput_cases text
  · rw [isInteger]
    exact (ofInput_eq_integer_iff.mp isInteger).symm
  · rw [isFloat]
    exact (ofInput_eq_float isFloat).2.symm
  · rw [isText]
    rfl

end Value

open Compiler in
/-- Client text is kept: it is a number only when it is the way that number is written.
The value that is bound tells the text, and whether there was one. -/
theorem keepsText_ofInput : KeepsText Value.ofInput ∧ Function.Injective boundInput := by
  have injective : Function.Injective Value.ofInput :=
    Function.LeftInverse.injective Value.written_ofInput
  have notNull : ∀ text, Value.ofInput text ≠ .null := by
    intro text
    obtain ⟨_, _, same⟩ | ⟨_, _, same⟩ | ⟨_, same⟩ := Value.ofInput_cases text
    · rw [same]; exact Value.noConfusion
    · rw [same]; exact Value.noConfusion
    · rw [same]; exact Value.noConfusion
  refine ⟨⟨?_, ?_, ?_, ?_, injective⟩, ?_⟩
  · intro text value
    rw [← decimalText_eq_toString]
    exact Value.ofInput_eq_integer_iff
  · intro text value read
    exact Value.ofInput_eq_float read
  · intro text
    obtain ⟨value, _, same⟩ | ⟨value, _, same⟩ | ⟨_, same⟩ := Value.ofInput_cases text
    · exact Or.inl ⟨value, same⟩
    · exact Or.inr (Or.inl ⟨value, same⟩)
    · exact Or.inr (Or.inr same)
  · intro text irregular value read
    rw [Value.ofInput_eq_integer_iff.mp read] at irregular
    exact not_isIrregular_decimalText value irregular
  · intro left right same
    cases left with
    | none =>
        cases right with
        | none => rfl
        | some text => exact absurd same.symm (notNull text)
    | some text =>
        cases right with
        | none => exact absurd same (notNull text)
        | some other => exact congrArg some (injective same)

example :
    ["-9223372036854775808", "9223372036854775808", "007", "-0", "12.5", "1.50"].map Value.ofInput =
      [.integer Int64.minValue, .text "9223372036854775808", .text "007", .text "-0",
        .float ⟨false, 1026, 2533274790395904⟩, .text "1.50"] := by
  decide +kernel

end TableGraph
