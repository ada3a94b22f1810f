import Mathlib.Data.List.Basic
import TableGraph.Sql.Cell

/-!
# Bytes and slices

A text is read by its bytes and sliced between positions that are counted in bytes.  A slice
exists only between boundaries of characters, and where characters end in the encoded text there
is one (`slice?_encode`).

A byte of ASCII in the encoded text is a character of ASCII and no part of another one
(`Utf8.eq_of_mem_utf8EncodeChar`).
-/

namespace TableGraph

namespace Utf8

/-! ## Bytes of characters -/

def encode (characters : List Char) : List UInt8 := characters.flatMap String.utf8EncodeChar

@[simp]
theorem encode_nil : encode [] = [] := rfl

theorem encode_cons (character : Char) (rest : List Char) :
    encode (character :: rest) = String.utf8EncodeChar character ++ encode rest :=
  List.flatMap_cons

@[simp]
theorem encode_append (first second : List Char) :
    encode (first ++ second) = encode first ++ encode second :=
  List.flatMap_append

theorem encode_eq_nil_iff {characters : List Char} : encode characters = [] ↔ characters = [] := by
  cases characters <;> simp [encode_cons]

theorem utf8EncodeChar_of_ascii {character : Char} (ascii : character.toNat < 128) :
    String.utf8EncodeChar character = [character.toUInt8] := by
  have code : character.toNat = character.val.toNat := rfl
  rw [String.utf8EncodeChar, if_pos (by omega)]
  rfl

/-- All bytes of a character beyond ASCII are beyond ASCII. -/
theorem le_of_mem_utf8EncodeChar {character : Char} (wide : 128 ≤ character.toNat) :
    ∀ byte ∈ String.utf8EncodeChar character, 128 ≤ byte.toNat := by
  have code : character.toNat = character.val.toNat := rfl
  have large {value : Nat} (above : 128 ≤ value) (below : value < 256) :
      128 ≤ (UInt8.ofNat value).toNat := by
    rwa [UInt8.toNat_ofNat_of_lt' below]
  unfold String.utf8EncodeChar
  simp only
  split
  · omega
  split
  · exact List.forall_mem_cons.mpr ⟨large (by omega) (by omega),
      List.forall_mem_singleton.mpr (large (by omega) (by omega))⟩
  split
  · exact List.forall_mem_cons.mpr ⟨large (by omega) (by omega),
      List.forall_mem_cons.mpr ⟨large (by omega) (by omega),
        List.forall_mem_singleton.mpr (large (by omega) (by omega))⟩⟩
  · exact List.forall_mem_cons.mpr ⟨large (by omega) (by omega),
      List.forall_mem_cons.mpr ⟨large (by omega) (by omega),
        List.forall_mem_cons.mpr ⟨large (by omega) (by omega),
          List.forall_mem_singleton.mpr (large (by omega) (by omega))⟩⟩⟩

/-- A byte of ASCII is a whole character. -/
theorem eq_of_mem_utf8EncodeChar {character ascii : Char} (narrow : ascii.toNat < 128)
    (member : ascii.toUInt8 ∈ String.utf8EncodeChar character) : character = ascii := by
  have code : ascii.toUInt8.toNat = ascii.toNat :=
    UInt8.toNat_ofNat_of_lt' (Nat.lt_trans narrow (by decide))
  by_cases small : character.toNat < 128
  · rw [utf8EncodeChar_of_ascii small, List.mem_singleton] at member
    have own : character.toUInt8.toNat = character.toNat :=
      UInt8.toNat_ofNat_of_lt' (Nat.lt_trans small (by decide))
    refine Char.toNat_inj.mp ?_
    rw [← own, ← member, code]
  · have beyond := le_of_mem_utf8EncodeChar (Nat.le_of_not_lt small) _ member
    omega

/-- Bytes that begin with one of ASCII are those of characters that begin with it. -/
theorem exists_of_encode_eq_cons {ascii : Char} (narrow : ascii.toNat < 128)
    {characters : List Char} {bytes : List UInt8}
    (encoded : encode characters = ascii.toUInt8 :: bytes) :
    ∃ rest, characters = ascii :: rest ∧ encode rest = bytes := by
  cases characters with
  | nil => cases encoded
  | cons head rest =>
      rw [encode_cons] at encoded
      have first : ascii.toUInt8 ∈ String.utf8EncodeChar head := by
        cases own : String.utf8EncodeChar head with
        | nil => exact absurd own String.utf8EncodeChar_ne_nil
        | cons byte others =>
            rw [own, List.cons_append] at encoded
            rw [(List.cons.inj encoded).1]
            exact List.mem_cons_self
      obtain rfl := eq_of_mem_utf8EncodeChar narrow first
      rw [utf8EncodeChar_of_ascii narrow, List.singleton_append] at encoded
      exact ⟨rest, rfl, (List.cons.inj encoded).2⟩

/-- A word of ASCII is found among the bytes where it is found among the characters. -/
theorem map_toUInt8_prefix_iff {word : List Char} (narrow : ∀ ascii ∈ word, ascii.toNat < 128)
    {characters : List Char} :
    word.map Char.toUInt8 <+: encode characters ↔ word <+: characters := by
  induction word generalizing characters with
  | nil => exact iff_of_true List.nil_prefix List.nil_prefix
  | cons head tail inductionHypothesis =>
      obtain ⟨headNarrow, tailNarrow⟩ := List.forall_mem_cons.mp narrow
      constructor
      · rintro ⟨bytes, begins⟩
        obtain ⟨rest, rfl, behind⟩ := exists_of_encode_eq_cons headNarrow begins.symm
        exact List.cons_prefix_cons.mpr
          ⟨rfl, (inductionHypothesis tailNarrow).mp ⟨bytes, behind.symm⟩⟩
      · rintro ⟨rest, rfl⟩
        have behind := (inductionHypothesis tailNarrow).mpr (List.prefix_append tail rest)
        rw [List.cons_append, encode_cons, utf8EncodeChar_of_ascii headNarrow]
        exact List.cons_prefix_cons.mpr ⟨rfl, behind⟩

end Utf8

open Utf8 (encode)

/-- The bytes of a text behind some of its characters are those of the others. -/
theorem getElem?_bytesOf {text : String} {front behind : List Char}
    (split : text.toList = front ++ behind) (offset : Nat) :
    (Cell.bytesOf text)[(encode front).length + offset]? = (encode behind)[offset]? := by
  have bytes : Cell.bytesOf text = encode front ++ encode behind := by
    rw [← Utf8.encode_append, ← split]
    rfl
  rw [bytes, List.getElem?_append_right (Nat.le_add_right _ _), Nat.add_sub_cancel_left]

/-! ## Slices -/

/-- The part of a text between two positions in bytes, which must be boundaries of characters
in this order. -/
def slice? (text : String) (start stop : Nat) : Option String :=
  if within : String.Pos.Raw.IsValid text ⟨start⟩ ∧ String.Pos.Raw.IsValid text ⟨stop⟩ ∧
      start ≤ stop then
    some (text.extract (text.pos ⟨start⟩ within.1) (text.pos ⟨stop⟩ within.2.1))
  else none

theorem utf8ByteSize_ofList (characters : List Char) :
    (String.ofList characters).utf8ByteSize = (encode characters).length := by
  rw [← String.size_toByteArray, String.toByteArray_ofList, List.utf8Encode, List.size_toByteArray]
  rfl

theorem isValid_encode {text : String} {front behind : List Char}
    (split : text.toList = front ++ behind) :
    String.Pos.Raw.IsValid text ⟨(encode front).length⟩ := by
  refine String.Pos.Raw.isValid_iff_exists_take_toList.mpr ⟨front.length, ?_⟩
  rw [split, List.take_left, utf8ByteSize_ofList]

/-- Characters that stand in a text are its slice from where they begin to where they end. -/
theorem slice?_encode {text : String} {front middle behind : List Char}
    (split : text.toList = front ++ middle ++ behind) :
    slice? text (encode front).length (encode (front ++ middle)).length =
      some (String.ofList middle) := by
  have starts := isValid_encode (split.trans (List.append_assoc front middle behind))
  have stops := isValid_encode split
  have ordered : (encode front).length ≤ (encode (front ++ middle)).length := by simp
  have size (characters : List Char) :
      (String.ofList characters).toByteArray.size = (encode characters).length := by
    rw [String.size_toByteArray, utf8ByteSize_ofList]
  have whole : text.toByteArray = (String.ofList (front ++ middle)).toByteArray ++
      (String.ofList behind).toByteArray := by
    rw [← String.toByteArray_append, ← String.ofList_append, ← split, String.ofList_toList]
  rw [slice?, dif_pos ⟨starts, stops, ordered⟩]
  refine congrArg some (String.toByteArray_inj.mp ?_)
  rw [String.toByteArray_extract, String.offset_pos, String.offset_pos, whole,
    ← size (front ++ middle), ← size front]
  have nothing (length : Nat) : front.utf8Encode.extract front.utf8Encode.size length =
      ByteArray.empty :=
    ByteArray.extract_eq_empty_iff.mpr (Nat.min_le_right _ _)
  simp [ByteArray.extract_append, nothing]

end TableGraph
