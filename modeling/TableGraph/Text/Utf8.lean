/-!
# Lossy decoding of UTF-8

Bytes are read as UTF-8 where they are, and each maximal part that is not is
replaced by one replacement character.  A part is maximal when it is the longest
beginning of a well-formed sequence, or else a single byte.
-/

namespace TableGraph

namespace Utf8

/-- The character put in place of malformed bytes. -/
def replacement : Char := '\uFFFD'

/-- What a leading byte announces: the bits it carries, how many bytes follow,
and the bounds of the first of them.  The bounds exclude overlong forms,
surrogates and values beyond the last code point. -/
structure Lead where
  bits : Nat
  following : Nat
  lower : Nat
  upper : Nat

/-- The announcement of a byte that begins a sequence of several. -/
def lead? (byte : Nat) : Option Lead :=
  if byte < 0xC2 then none
  else if byte < 0xE0 then some ⟨byte - 0xC0, 1, 0x80, 0xBF⟩
  else if byte = 0xE0 then some ⟨0, 2, 0xA0, 0xBF⟩
  else if byte = 0xED then some ⟨0xD, 2, 0x80, 0x9F⟩
  else if byte < 0xF0 then some ⟨byte - 0xE0, 2, 0x80, 0xBF⟩
  else if byte = 0xF0 then some ⟨0, 3, 0x90, 0xBF⟩
  else if byte < 0xF4 then some ⟨byte - 0xF0, 3, 0x80, 0xBF⟩
  else if byte = 0xF4 then some ⟨4, 3, 0x80, 0x8F⟩
  else none

/-- Where the decoder stands: between characters, or inside a sequence with
the bits read so far, the bytes still owed and the bounds of the next one. -/
inductive State where
  | between
  | inside (bits : Nat) (following : Nat) (lower : Nat) (upper : Nat)

/-- Read a byte between two characters. -/
def begin (byte : Nat) : List Char × State :=
  if byte < 0x80 then ([Char.ofNat byte], .between)
  else
    match lead? byte with
    | some lead => ([], .inside lead.bits lead.following lead.lower lead.upper)
    | none => ([replacement], .between)

/-- Read one byte: the characters it completes and the next state.  A byte that
does not continue a sequence ends it as malformed and is read afresh. -/
def step : State → Nat → List Char × State
  | .between, byte => begin byte
  | .inside bits following lower upper, byte =>
    if lower ≤ byte && byte ≤ upper then
      let bits := bits * 64 + (byte - 0x80)
      if following ≤ 1 then ([Char.ofNat bits], .between)
      else ([], .inside bits (following - 1) 0x80 0xBF)
    else
      let (characters, state) := begin byte
      (replacement :: characters, state)

/-- Decode from a state; an unfinished sequence at the end is malformed. -/
def decodeFrom : State → List UInt8 → List Char
  | .between, [] => []
  | .inside .., [] => [replacement]
  | state, byte :: rest =>
    let (characters, next) := step state byte.toNat
    characters ++ decodeFrom next rest

/-- The text of some bytes, malformed parts replaced. -/
def decodeLossy (bytes : List UInt8) : String :=
  String.ofList (decodeFrom .between bytes)

end Utf8

end TableGraph
