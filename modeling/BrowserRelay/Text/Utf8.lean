/-!
# Reading bytes as UTF-8, replacing what is not

Bytes from a pipe are decoded character by character.  Where the bytes are not
UTF-8, each longest run of bytes that begins some character but does not finish
it is replaced by one U+FFFD, and a byte that begins no character is replaced by
one U+FFFD of its own.
-/

namespace BrowserRelay.Text

/-- The character shown where bytes could not be decoded. -/
def replacementCharacter : Char := '\uFFFD'

/-- What the first byte of a character announces: how many bytes follow, the
range that the second byte must lie in, and the bits it contributes. -/
structure Utf8Lead where
  following : Nat
  lowest : UInt8
  highest : UInt8
  bits : Nat

/-- The announcement made by a first byte, or `none` when the byte begins no
character of more than one byte. -/
def utf8Lead (byte : UInt8) : Option Utf8Lead :=
  if 0xC2 ≤ byte ∧ byte ≤ 0xDF then some ⟨1, 0x80, 0xBF, byte.toNat - 0xC0⟩
  else if byte = 0xE0 then some ⟨2, 0xA0, 0xBF, 0⟩
  else if byte = 0xED then some ⟨2, 0x80, 0x9F, 0xD⟩
  else if 0xE1 ≤ byte ∧ byte ≤ 0xEF then some ⟨2, 0x80, 0xBF, byte.toNat - 0xE0⟩
  else if byte = 0xF0 then some ⟨3, 0x90, 0xBF, 0⟩
  else if byte = 0xF4 then some ⟨3, 0x80, 0x8F, 4⟩
  else if 0xF1 ≤ byte ∧ byte ≤ 0xF3 then some ⟨3, 0x80, 0xBF, byte.toNat - 0xF0⟩
  else none

/-- The state of the decoder between two bytes: the bytes still owed, the range
of the next one, and the bits gathered so far.  With nothing owed it stands
between characters. -/
structure Utf8State where
  owed : Nat := 0
  lowest : UInt8 := 0x80
  highest : UInt8 := 0xBF
  bits : Nat := 0
  deriving DecidableEq

/-- Decode one byte from between two characters: the characters it completes
and the state after it. -/
def utf8Begin (byte : UInt8) : List Char × Utf8State :=
  if byte < 0x80 then ([Char.ofNat byte.toNat], {})
  else
    match utf8Lead byte with
    | some lead => ([], ⟨lead.following, lead.lowest, lead.highest, lead.bits⟩)
    | none => ([replacementCharacter], {})

/-- Decode one byte: the characters it completes and the state after it.  A byte
that cannot continue the character under way ends it with a replacement and is
then read as a first byte. -/
def utf8Step (state : Utf8State) (byte : UInt8) : List Char × Utf8State :=
  match state.owed with
  | 0 => utf8Begin byte
  | owed + 1 =>
      if state.lowest ≤ byte ∧ byte ≤ state.highest then
        let bits := state.bits * 64 + (byte.toNat - 0x80)
        match owed with
        | 0 => ([Char.ofNat bits], {})
        | _ + 1 => ([], ⟨owed, 0x80, 0xBF, bits⟩)
      else
        let (completed, next) := utf8Begin byte
        (replacementCharacter :: completed, next)

/-- Decode bytes from a given state.  A character left unfinished at the end is
replaced. -/
def utf8Decode : Utf8State → List UInt8 → List Char
  | state, [] => if state.owed = 0 then [] else [replacementCharacter]
  | state, byte :: rest =>
      let (completed, next) := utf8Step state byte
      completed ++ utf8Decode next rest

/-- The text that bytes stand for, with a replacement character for each part
that is not UTF-8. -/
def decodeLossy (bytes : List UInt8) : String :=
  String.ofList (utf8Decode {} bytes)

end BrowserRelay.Text
