import Mathlib
import TableGraph.Text.Utf8

/-!
# Decoding what was encoded

Lossy decoding reads the bytes of a text as that text: the bytes of one character lead
through the states of its sequence and back between two characters.  Other bytes may be read
as the same text, but not as a text of ASCII.
-/

namespace TableGraph

namespace Utf8

/-! ## Bytes of a sequence -/

variable {bits following lower upper byte part : Nat}

theorem decodeFrom_ofNat {state next : State} (read : List Char) (small : byte < 256)
    (steps : step state byte = (read, next)) (rest : List UInt8) :
    decodeFrom state (UInt8.ofNat byte :: rest) = read ++ decodeFrom next rest := by
  have reads :
      decodeFrom state (UInt8.ofNat byte :: rest) =
        (step state (UInt8.ofNat byte).toNat).1 ++
          decodeFrom (step state (UInt8.ofNat byte).toNat).2 rest := by
    cases state <;> rfl
  rw [reads, UInt8.toNat_ofNat_of_lt' small, steps]

theorem decodeFrom_lead (large : 0x80 ≤ byte) (small : byte < 256)
    (leads : lead? byte = some ⟨bits, following, lower, upper⟩) (rest : List UInt8) :
    decodeFrom .between (UInt8.ofNat byte :: rest) =
      decodeFrom (.inside bits following lower upper) rest := by
  refine decodeFrom_ofNat [] small ?_ rest
  rw [step, begin, if_neg (by omega), leads]

theorem decodeFrom_following (above : lower ≤ part + 0x80) (below : part + 0x80 ≤ upper)
    (small : part < 64) (rest : List UInt8) :
    decodeFrom (.inside bits (following + 2) lower upper) (UInt8.ofNat (part + 0x80) :: rest) =
      decodeFrom (.inside (bits * 64 + part) (following + 1) 0x80 0xBF) rest := by
  refine decodeFrom_ofNat [] (by omega) ?_ rest
  simp [step, above, below]

theorem decodeFrom_last (above : lower ≤ part + 0x80) (below : part + 0x80 ≤ upper)
    (small : part < 64) (rest : List UInt8) :
    decodeFrom (.inside bits 1 lower upper) (UInt8.ofNat (part + 0x80) :: rest) =
      Char.ofNat (bits * 64 + part) :: decodeFrom .between rest := by
  refine decodeFrom_ofNat [_] (by omega) ?_ rest
  simp [step, above, below]

/-! ## First bytes -/

theorem lead?_two {value : Nat} (above : 0x7F < value) (below : value ≤ 0x7FF) :
    lead? (value / 64 % 32 + 0xC0) = some ⟨value / 64, 1, 0x80, 0xBF⟩ := by
  rw [lead?, if_neg (by omega), if_pos (by omega), Nat.add_sub_cancel, Nat.mod_eq_of_lt (by omega)]

/-- The first byte of three bounds the second so that no form is overlong or a surrogate. -/
theorem exists_lead_three {value : Nat} (above : 0x7FF < value) (below : value ≤ 0xFFFF)
    (notSurrogate : value < 0xD800 ∨ 0xDFFF < value) :
    ∃ lower upper, lead? (value / 4096 % 16 + 0xE0) = some ⟨value / 4096, 2, lower, upper⟩ ∧
      lower ≤ value / 64 % 64 + 0x80 ∧ value / 64 % 64 + 0x80 ≤ upper := by
  have small : value / 4096 % 16 = value / 4096 := by omega
  rw [small]
  by_cases first : value / 4096 = 0
  · exact ⟨0xA0, 0xBF, by simp [lead?, first], by omega, by omega⟩
  · by_cases surrogate : value / 4096 = 0xD
    · exact ⟨0x80, 0x9F, by simp [lead?, surrogate], by omega, by omega⟩
    · refine ⟨0x80, 0xBF, ?_, by omega, by omega⟩
      rw [lead?, if_neg (by omega), if_neg (by omega), if_neg (by omega), if_neg (by omega),
        if_pos (by omega), Nat.add_sub_cancel]

theorem exists_lead_four {value : Nat} (above : 0xFFFF < value) (below : value < 0x110000) :
    ∃ lower upper, lead? (value / 262144 % 8 + 0xF0) = some ⟨value / 262144, 3, lower, upper⟩ ∧
      lower ≤ value / 4096 % 64 + 0x80 ∧ value / 4096 % 64 + 0x80 ≤ upper := by
  have small : value / 262144 % 8 = value / 262144 := by omega
  rw [small]
  by_cases first : value / 262144 = 0
  · exact ⟨0x90, 0xBF, by simp [lead?, first], by omega, by omega⟩
  · by_cases last : value / 262144 = 4
    · exact ⟨0x80, 0x8F, by simp [lead?, last], by omega, by omega⟩
    · refine ⟨0x80, 0xBF, ?_, by omega, by omega⟩
      rw [lead?, if_neg (by omega), if_neg (by omega), if_neg (by omega), if_neg (by omega),
        if_neg (by omega), if_neg (by omega), if_pos (by omega), Nat.add_sub_cancel]

/-! ## Characters and texts -/

theorem decodeFrom_utf8EncodeChar (character : Char) (rest : List UInt8) :
    decodeFrom .between (String.utf8EncodeChar character ++ rest) =
      character :: decodeFrom .between rest := by
  let value := character.val.toNat
  have isCharacter : Char.ofNat value = character := Char.ofNat_toNat character
  have valid : value < 0xD800 ∨ 0xDFFF < value ∧ value < 0x110000 := character.valid
  by_cases one : value ≤ 0x7F
  · have steps : step .between value = ([character], .between) := by
      rw [step, begin, if_pos (by omega), isCharacter]
    rw [String.utf8EncodeChar, if_pos one]
    exact decodeFrom_ofNat [character] (by omega) steps rest
  · by_cases two : value ≤ 0x7FF
    · have whole : value / 64 * 64 + value % 64 = value := by omega
      rw [String.utf8EncodeChar, if_neg one, if_pos two]
      refine (decodeFrom_lead (by omega) (by omega) (lead?_two (by omega) two) _).trans ?_
      refine (decodeFrom_last (by omega) (by omega) (by omega) rest).trans ?_
      rw [whole, isCharacter]
    · by_cases three : value ≤ 0xFFFF
      · obtain ⟨lower, upper, leads, above, below⟩ :=
          exists_lead_three (Nat.lt_of_not_le two) three (valid.imp_right And.left)
        have whole : (value / 4096 * 64 + value / 64 % 64) * 64 + value % 64 = value := by omega
        rw [String.utf8EncodeChar, if_neg one, if_neg two, if_pos three]
        refine (decodeFrom_lead (by omega) (by omega) leads _).trans ?_
        refine (decodeFrom_following above below (by omega) _).trans ?_
        refine (decodeFrom_last (by omega) (by omega) (by omega) rest).trans ?_
        rw [whole, isCharacter]
      · obtain ⟨lower, upper, leads, above, below⟩ :=
          exists_lead_four (Nat.lt_of_not_le three) (by omega)
        have whole :
            ((value / 262144 * 64 + value / 4096 % 64) * 64 + value / 64 % 64) * 64 + value % 64 =
              value := by omega
        rw [String.utf8EncodeChar, if_neg one, if_neg two, if_neg three]
        refine (decodeFrom_lead (by omega) (by omega) leads _).trans ?_
        refine (decodeFrom_following above below (by omega) _).trans ?_
        refine (decodeFrom_following (by omega) (by omega) (by omega) _).trans ?_
        refine (decodeFrom_last (by omega) (by omega) (by omega) rest).trans ?_
        rw [whole, isCharacter]

theorem decodeLossy_utf8EncodeChar (text : String) :
    decodeLossy (text.toList.flatMap String.utf8EncodeChar) = text := by
  have decoded (characters : List Char) :
      decodeFrom .between (characters.flatMap String.utf8EncodeChar) = characters := by
    induction characters with
    | nil => rfl
    | cons head tail inductionHypothesis =>
        rw [List.flatMap_cons, decodeFrom_utf8EncodeChar, inductionHypothesis]
  rw [decodeLossy, decoded, String.ofList_toList]

/-! ## Texts of ASCII

A byte beyond ASCII begins a sequence, and a sequence is read as a character beyond ASCII or
replaced by one.
-/

/-- The characters that a sequence may still become lie beyond ASCII, and all are valid: the
least one continues with the lower bound and zeros, the greatest with the upper and ones. -/
structure IsWide (bits following lower upper : Nat) : Prop where
  least : 0x80 ≤ (bits * 64 + (lower - 0x80)) * 64 ^ (following - 1)
  greatest : (bits * 64 + (upper - 0x80) + 1) * 64 ^ (following - 1) ≤ 0x110000
  apart : (bits * 64 + (upper - 0x80) + 1) * 64 ^ (following - 1) ≤ 0xD800 ∨
    0xDFFF < (bits * 64 + (lower - 0x80)) * 64 ^ (following - 1)
  short : 1 ≤ following ∧ following ≤ 3
  bounds : 0x80 ≤ lower ∧ lower ≤ upper ∧ upper ≤ 0xBF

theorem isWide_of_lead? {lead : Lead} (leads : lead? byte = some lead) :
    IsWide lead.bits lead.following lead.lower lead.upper := by
  unfold lead? at leads
  repeat' split at leads
  all_goals first | contradiction | rw [← Option.some.inj leads]
  all_goals
    constructor
    all_goals simp only [Nat.reduceSub, Nat.reducePow]
    all_goals omega

theorem toNat_ofNat_of_valid (valid : bits < 0xD800 ∨ 0xDFFF < bits ∧ bits < 0x110000) :
    (Char.ofNat bits).toNat = bits := by
  have isValid : bits.isValidChar := valid
  rw [Char.ofNat, dif_pos isValid]
  rfl

/-- A byte that continues a sequence, but does not end it, keeps what it may become wide. -/
theorem IsWide.onward (wide : IsWide bits following lower upper) (more : ¬ following ≤ 1)
    (above : lower ≤ byte) (below : byte ≤ upper) :
    IsWide (bits * 64 + (byte - 0x80)) (following - 1) 0x80 0xBF := by
  obtain ⟨least, greatest, apart, short, bounds⟩ := wide
  obtain ⟨rest, rfl⟩ : ∃ rest, following = rest + 2 := ⟨following - 2, by omega⟩
  -- One byte more narrows the range of what the sequence may become on both sides.
  have rises : (bits * 64 + (lower - 0x80)) * 64 ^ (rest + 1) ≤
      ((bits * 64 + (byte - 0x80)) * 64 + (0x80 - 0x80)) * 64 ^ rest := by
    rw [Nat.pow_succ', ← Nat.mul_assoc]
    exact Nat.mul_le_mul_right _ (by omega)
  have falls : ((bits * 64 + (byte - 0x80)) * 64 + (0xBF - 0x80) + 1) * 64 ^ rest ≤
      (bits * 64 + (upper - 0x80) + 1) * 64 ^ (rest + 1) := by
    rw [Nat.pow_succ', ← Nat.mul_assoc]
    exact Nat.mul_le_mul_right _ (by omega)
  exact ⟨Nat.le_trans least rises, Nat.le_trans falls greatest,
    apart.imp (Nat.le_trans falls) fun beyond => Nat.lt_of_lt_of_le beyond rises,
    by omega, by omega⟩

/-- The character that ends a sequence lies beyond ASCII. -/
theorem IsWide.toNat_last (wide : IsWide bits following lower upper) (last : following ≤ 1)
    (above : lower ≤ byte) (below : byte ≤ upper) :
    0x80 ≤ (Char.ofNat (bits * 64 + (byte - 0x80))).toNat := by
  obtain ⟨least, greatest, apart, short, bounds⟩ := wide
  obtain rfl : following = 1 := by omega
  simp only [Nat.reduceSub, Nat.pow_zero, Nat.mul_one] at least greatest apart
  rw [toNat_ofNat_of_valid (by omega)]
  omega

theorem decodeFrom_between (first : UInt8) (rest : List UInt8) :
    decodeFrom .between (first :: rest) =
      (begin first.toNat).1 ++ decodeFrom (begin first.toNat).2 rest := rfl

theorem decodeFrom_inside (first : UInt8) (rest : List UInt8) :
    decodeFrom (.inside bits following lower upper) (first :: rest) =
      (step (.inside bits following lower upper) first.toNat).1 ++
        decodeFrom (step (.inside bits following lower upper) first.toNat).2 rest := rfl

theorem replacement_wide : 0x80 ≤ replacement.toNat := by decide

/-- A sequence that was begun is read as something beyond ASCII. -/
theorem exists_wide_inside {bytes : List UInt8} (wide : IsWide bits following lower upper) :
    ∃ character ∈ decodeFrom (.inside bits following lower upper) bytes,
      0x80 ≤ character.toNat := by
  induction bytes generalizing bits following lower upper with
  | nil => exact ⟨replacement, List.mem_singleton_self _, replacement_wide⟩
  | cons first rest inductionHypothesis =>
      rw [decodeFrom_inside]
      by_cases continues : lower ≤ first.toNat ∧ first.toNat ≤ upper
      · obtain ⟨above, below⟩ := continues
        by_cases last : following ≤ 1
        · have ends : (step (.inside bits following lower upper) first.toNat).1 =
              [Char.ofNat (bits * 64 + (first.toNat - 0x80))] := by
            simp [step, above, below, last]
          rw [ends]
          exact ⟨_, List.mem_cons_self, wide.toNat_last last above below⟩
        · have goesOn : (step (.inside bits following lower upper) first.toNat).2 =
              .inside (bits * 64 + (first.toNat - 0x80)) (following - 1) 0x80 0xBF := by
            simp [step, above, below, last]
          rw [goesOn]
          obtain ⟨character, member, beyond⟩ :=
            inductionHypothesis (wide.onward last above below)
          exact ⟨character, List.mem_append_right _ member, beyond⟩
      · have replaced : replacement ∈ (step (.inside bits following lower upper) first.toNat).1 := by
          have broken : (decide (lower ≤ first.toNat) && decide (first.toNat ≤ upper)) = false := by
            simpa using continues
          rw [step, if_neg (by rw [broken]; exact Bool.false_ne_true)]
          exact List.mem_cons_self
        exact ⟨replacement, List.mem_append_left _ replaced, replacement_wide⟩

/-- A byte between two characters is one of ASCII, or what it is read as is wide. -/
theorem begin_cases (byte : Nat) :
    (byte < 0x80 ∧ begin byte = ([Char.ofNat byte], .between)) ∨
      begin byte = ([replacement], .between) ∨
        ∃ lead, lead? byte = some lead ∧
          begin byte = ([], .inside lead.bits lead.following lead.lower lead.upper) := by
  by_cases small : byte < 0x80
  · exact Or.inl ⟨small, by rw [begin, if_pos small]⟩
  · cases leads : lead? byte with
    | none => exact Or.inr (Or.inl (by rw [begin, if_neg small, leads]))
    | some lead => exact Or.inr (Or.inr ⟨lead, rfl, by rw [begin, if_neg small, leads]⟩)

theorem utf8EncodeChar_ofNat {byte : UInt8} (small : byte.toNat < 0x80) :
    String.utf8EncodeChar (Char.ofNat byte.toNat) = [byte] := by
  have code : (Char.ofNat byte.toNat).val.toNat = byte.toNat :=
    toNat_ofNat_of_valid (Or.inl (by omega))
  rw [String.utf8EncodeChar, if_pos (by omega), code]
  exact congrArg (fun byte => [byte]) (UInt8.ofNat_toNat)

/-- Bytes that are read as a text of ASCII are the bytes of this text. -/
theorem flatMap_decodeFrom {bytes : List UInt8}
    (narrow : ∀ character ∈ decodeFrom .between bytes, character.toNat < 0x80) :
    (decodeFrom .between bytes).flatMap String.utf8EncodeChar = bytes := by
  induction bytes with
  | nil => rfl
  | cons first rest inductionHypothesis =>
      rw [decodeFrom_between] at narrow ⊢
      obtain ⟨small, ascii⟩ | replaced | ⟨lead, leads, begun⟩ := begin_cases first.toNat
      · rw [ascii] at narrow ⊢
        rw [List.flatMap_append, List.flatMap_singleton, utf8EncodeChar_ofNat small,
          inductionHypothesis fun character member => narrow character (List.mem_append_right _ member)]
        rfl
      · rw [replaced] at narrow
        have bounded := narrow replacement (List.mem_append_left _ (List.mem_singleton_self _))
        exact absurd bounded (Nat.not_lt.mpr replacement_wide)
      · rw [begun] at narrow
        obtain ⟨character, member, beyond⟩ := exists_wide_inside (isWide_of_lead? leads)
        have bounded := narrow character (List.mem_append_right _ member)
        exact absurd bounded (Nat.not_lt.mpr beyond)

end Utf8

end TableGraph
