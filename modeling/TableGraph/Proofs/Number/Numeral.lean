import Mathlib.Data.List.Basic
import TableGraph.Number.Layout
import TableGraph.Number.Reading

/-!
# Numerals

Many texts write one integer: a plus sign and zeros in front say nothing.  The reader of
integers accepts all of them, and the decimal form is the one among them that has neither,
so that a text that is its own decimal form stands for one integer and no other text does.
-/

namespace TableGraph

/-! ## Texts that write an integer -/

/-- A text that writes an integer: digits, the most significant first, behind an optional
sign. -/
inductive WritesInteger : Int → List Char → Prop where
  | unsigned {digits : List Char} (nonempty : digits ≠ [])
      (areDigits : ∀ digit ∈ digits, digit.isDigit = true) :
      WritesInteger (Nat.ofDigitChars 10 digits 0) digits
  | positive {digits : List Char} (nonempty : digits ≠ [])
      (areDigits : ∀ digit ∈ digits, digit.isDigit = true) :
      WritesInteger (Nat.ofDigitChars 10 digits 0) ('+' :: digits)
  | negative {digits : List Char} (nonempty : digits ≠ [])
      (areDigits : ∀ digit ∈ digits, digit.isDigit = true) :
      WritesInteger (-(Nat.ofDigitChars 10 digits 0 : Int)) ('-' :: digits)

theorem naturalOfDigits_eq (digits : List Char) :
    naturalOfDigits digits = Nat.ofDigitChars 10 digits 0 := rfl

theorem splitSign_of_isDigit {first : Char} (isDigit : first.isDigit = true) (rest : List Char) :
    splitSign (first :: rest) = (false, first :: rest) := by
  unfold splitSign
  split
  · next same =>
      obtain ⟨rfl, _⟩ := List.cons.inj same
      cases isDigit
  · next same =>
      obtain ⟨rfl, _⟩ := List.cons.inj same
      cases isDigit
  · rfl

/-- What a text reads as follows from its sign and its digits. -/
theorem readInteger?_of_splitSign {text digits : List Char} {negative : Bool}
    (signed : splitSign text = (negative, digits)) (nonempty : digits ≠ [])
    (areDigits : ∀ digit ∈ digits, digit.isDigit = true) :
    readInteger? text =
      some (if negative then -(Nat.ofDigitChars 10 digits 0 : Int)
        else Nat.ofDigitChars 10 digits 0) := by
  have valid : (digits.isEmpty || !digits.all Char.isDigit) = false := by
    simpa [nonempty] using areDigits
  rw [readInteger?, signed]
  simp only [valid, Bool.false_eq_true, if_false, naturalOfDigits_eq]

theorem writesInteger_of_splitSign {text digits : List Char} {negative : Bool}
    (signed : splitSign text = (negative, digits)) (nonempty : digits ≠ [])
    (areDigits : ∀ digit ∈ digits, digit.isDigit = true) :
    WritesInteger (if negative then -(Nat.ofDigitChars 10 digits 0 : Int)
      else Nat.ofDigitChars 10 digits 0) text := by
  unfold splitSign at signed
  split at signed
  · obtain ⟨rfl, rfl⟩ := Prod.mk.inj signed
    exact .negative nonempty areDigits
  · obtain ⟨rfl, rfl⟩ := Prod.mk.inj signed
    exact .positive nonempty areDigits
  · obtain ⟨rfl, rfl⟩ := Prod.mk.inj signed
    exact .unsigned nonempty areDigits

/-- The reader accepts exactly the texts that write an integer. -/
theorem readInteger?_eq_some_iff {text : List Char} {value : Int} :
    readInteger? text = some value ↔ WritesInteger value text := by
  constructor
  · intro read
    cases signed : splitSign text with
    | mk negative digits =>
        rw [readInteger?, signed] at read
        simp only at read
        split at read
        · cases read
        · next valid =>
            obtain ⟨nonempty, areDigits⟩ :
                digits ≠ [] ∧ ∀ digit ∈ digits, digit.isDigit = true := by
              simpa using valid
            rw [← Option.some.inj read]
            exact writesInteger_of_splitSign signed nonempty areDigits
  · intro writes
    cases writes with
    | positive nonempty areDigits => exact readInteger?_of_splitSign rfl nonempty areDigits
    | negative nonempty areDigits => exact readInteger?_of_splitSign rfl nonempty areDigits
    | unsigned nonempty areDigits =>
        obtain ⟨first, rest, rfl⟩ := List.exists_cons_of_ne_nil nonempty
        have unsigned := splitSign_of_isDigit (areDigits first List.mem_cons_self) rest
        exact readInteger?_of_splitSign unsigned nonempty areDigits

/-! ## The decimal form -/

theorem areDigits_toDigits (value : Nat) :
    ∀ digit ∈ Nat.toDigits 10 value, digit.isDigit = true :=
  fun _ member => Nat.isDigit_of_mem_toDigits (by decide) (by decide) member

/-- A decimal form consists of digits, behind a minus sign or alone. -/
theorem decimalText_cases (value : Int) :
    (0 ≤ value ∧ (decimalText value).toList = Nat.toDigits 10 value.natAbs) ∨
      value < 0 ∧ (decimalText value).toList = '-' :: Nat.toDigits 10 value.natAbs := by
  by_cases negative : value < 0
  · exact Or.inr ⟨negative, by simp [decimalText, negative]⟩
  · exact Or.inl ⟨Int.not_lt.mp negative, by simp [decimalText, negative]⟩

theorem mem_decimalText {value : Int} {character : Char}
    (member : character ∈ (decimalText value).toList) :
    character = '-' ∨ character.isDigit = true := by
  obtain ⟨_, form⟩ | ⟨_, form⟩ := decimalText_cases value
  · rw [form] at member
    exact Or.inr (areDigits_toDigits _ character member)
  · rw [form] at member
    exact (List.mem_cons.mp member).imp_right (areDigits_toDigits _ character)

theorem writesInteger_decimalText (value : Int) : WritesInteger value (decimalText value).toList := by
  have back : (Nat.ofDigitChars 10 (Nat.toDigits 10 value.natAbs) 0 : Int) = value.natAbs := by
    rw [Nat.ofDigitChars_ten_toDigits]
  obtain ⟨nonnegative, form⟩ | ⟨negative, form⟩ := decimalText_cases value
  · have same : (Nat.ofDigitChars 10 (Nat.toDigits 10 value.natAbs) 0 : Int) = value := by omega
    rw [form]
    nth_rewrite 1 [← same]
    exact .unsigned Nat.toDigits_ne_nil (areDigits_toDigits _)
  · have same : -(Nat.ofDigitChars 10 (Nat.toDigits 10 value.natAbs) 0 : Int) = value := by omega
    rw [form]
    nth_rewrite 1 [← same]
    exact .negative Nat.toDigits_ne_nil (areDigits_toDigits _)

theorem readInteger?_decimalText (value : Int) :
    readInteger? (decimalText value).toList = some value :=
  readInteger?_eq_some_iff.mpr (writesInteger_decimalText value)

/-- The first digit of a positive number is not zero. -/
theorem exists_toDigits_eq_cons {value : Nat} (positive : 0 < value) :
    ∃ first rest, Nat.toDigits 10 value = first :: rest ∧ first ≠ '0' := by
  induction value using Nat.strongRecOn with
  | ind value inductionHypothesis =>
      by_cases small : value < 10
      · refine ⟨value.digitChar, [], Nat.toDigits_of_lt_base small, ?_⟩
        intro zero
        have codes := congrArg Char.toNat zero
        rw [Nat.toNat_digitChar_of_lt_ten small] at codes
        have zeroCode : '0'.toNat = 48 := rfl
        omega
      · obtain ⟨first, rest, digits, nonzero⟩ :=
          inductionHypothesis (value / 10) (by omega) (by omega)
        refine ⟨first, rest ++ [(value % 10).digitChar], ?_, nonzero⟩
        rw [Nat.toDigits_of_base_le (by decide) (by omega), digits, List.cons_append]

/-- Digits that begin with zero are zero alone. -/
theorem eq_nil_of_toDigits_eq_zero_cons {value : Nat} {rest : List Char}
    (digits : Nat.toDigits 10 value = '0' :: rest) : value = 0 ∧ rest = [] := by
  by_cases zero : value = 0
  · rw [zero, Nat.toDigits_zero] at digits
    exact ⟨zero, (List.cons.inj digits).2.symm⟩
  · obtain ⟨first, others, form, nonzero⟩ := exists_toDigits_eq_cons (Nat.pos_of_ne_zero zero)
    rw [form] at digits
    exact absurd (List.cons.inj digits).1 nonzero

/-- The decimal form is the one the library writes. -/
theorem decimalText_eq_toString (value : Int) : decimalText value = toString value := by
  cases value with
  | ofNat magnitude =>
      have written : toString (Int.ofNat magnitude) = toString magnitude := rfl
      have unsigned : ¬ Int.ofNat magnitude < 0 := Int.not_lt.mpr (Int.natCast_nonneg magnitude)
      rw [written, Nat.toString_eq_ofList_toDigits, decimalText, if_neg unsigned]
      rfl
  | negSucc magnitude =>
      have written : toString (Int.negSucc magnitude) = "-" ++ toString (magnitude + 1) := rfl
      have signed : Int.negSucc magnitude < 0 := Int.negSucc_lt_zero magnitude
      rw [written, Nat.toString_eq_ofList_toDigits, decimalText, if_pos signed, String.ofList_append]
      rfl

/-! ## Integers of 64 bits -/

theorem fitsInt64_toInt (value : Int64) : fitsInt64 value.toInt = true :=
  Bool.and_eq_true_iff.mpr ⟨decide_eq_true value.le_toInt, decide_eq_true value.toInt_lt⟩

theorem toInt_ofInt_of_fits {value : Int} (fits : fitsInt64 value = true) :
    (Int64.ofInt value).toInt = value := by
  obtain ⟨above, below⟩ := Bool.and_eq_true_iff.mp fits
  exact Int64.toInt_ofInt_of_le (of_decide_eq_true above) (of_decide_eq_true below)

/-- An integer of 64 bits is read from the texts that write it. -/
theorem Int64.ofText?_eq_some_iff {text : String} {value : Int64} :
    Int64.ofText? text = some value ↔ WritesInteger value.toInt text.toList := by
  rw [Int64.ofText?, Option.bind_eq_some_iff]
  constructor
  · rintro ⟨written, read, kept⟩
    split at kept
    · next fits =>
        rw [← Option.some.inj kept, toInt_ofInt_of_fits fits]
        exact readInteger?_eq_some_iff.mp read
    · cases kept
  · intro writes
    refine ⟨value.toInt, readInteger?_eq_some_iff.mpr writes, ?_⟩
    rw [if_pos (fitsInt64_toInt value), Int64.ofInt_toInt]

end TableGraph
