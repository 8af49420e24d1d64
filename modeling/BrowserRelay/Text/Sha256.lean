/-!
# The SHA-256 digest

The digest of FIPS 180-4: the message is padded to blocks of 64 bytes, each of
which is spread over 64 words and mixed into a state of eight words.
-/

namespace BrowserRelay.Sha256

/-- The words added in the rounds. -/
def roundConstants : Array UInt32 :=
  #[0x428a2f98, 0x71374491, 0xb5c0fbcf, 0xe9b5dba5, 0x3956c25b, 0x59f111f1, 0x923f82a4, 0xab1c5ed5,
    0xd807aa98, 0x12835b01, 0x243185be, 0x550c7dc3, 0x72be5d74, 0x80deb1fe, 0x9bdc06a7, 0xc19bf174,
    0xe49b69c1, 0xefbe4786, 0x0fc19dc6, 0x240ca1cc, 0x2de92c6f, 0x4a7484aa, 0x5cb0a9dc, 0x76f988da,
    0x983e5152, 0xa831c66d, 0xb00327c8, 0xbf597fc7, 0xc6e00bf3, 0xd5a79147, 0x06ca6351, 0x14292967,
    0x27b70a85, 0x2e1b2138, 0x4d2c6dfc, 0x53380d13, 0x650a7354, 0x766a0abb, 0x81c2c92e, 0x92722c85,
    0xa2bfe8a1, 0xa81a664b, 0xc24b8b70, 0xc76c51a3, 0xd192e819, 0xd6990624, 0xf40e3585, 0x106aa070,
    0x19a4c116, 0x1e376c08, 0x2748774c, 0x34b0bcb5, 0x391c0cb3, 0x4ed8aa4a, 0x5b9cca4f, 0x682e6ff3,
    0x748f82ee, 0x78a5636f, 0x84c87814, 0x8cc70208, 0x90befffa, 0xa4506ceb, 0xbef9a3f7, 0xc67178f2]

/-- The eight words of the state. -/
structure State where
  a : UInt32
  b : UInt32
  c : UInt32
  d : UInt32
  e : UInt32
  f : UInt32
  g : UInt32
  h : UInt32

def initial : State :=
  ⟨0x6a09e667, 0xbb67ae85, 0x3c6ef372, 0xa54ff53a, 0x510e527f, 0x9b05688c, 0x1f83d9ab, 0x5be0cd19⟩

def rotateRight (word amount : UInt32) : UInt32 :=
  (word >>> amount) ||| (word <<< (32 - amount))

/-- The zeros that fill up a message of a given length, its closing bit and its
length to whole blocks. -/
def paddingZeros (length : Nat) : Nat := (119 - length % 64) % 64

def lengthBytes (length : Nat) : Array UInt8 :=
  Array.ofFn fun (place : Fin 8) => (8 * length / Nat.pow 256 (7 - place.val)).toUInt8

def padded (message : ByteArray) : Array UInt8 :=
  message.data ++ #[0x80] ++ Array.replicate (paddingZeros message.size) 0 ++
    lengthBytes message.size

def wordAt (bytes : Array UInt8) (place : Nat) : UInt32 :=
  ((bytes.getD place 0).toUInt32 <<< 24) ||| ((bytes.getD (place + 1) 0).toUInt32 <<< 16) |||
    ((bytes.getD (place + 2) 0).toUInt32 <<< 8) ||| (bytes.getD (place + 3) 0).toUInt32

def nextWord (words : Array UInt32) : UInt32 :=
  let size := words.size
  let early := words.getD (size - 15) 0
  let late := words.getD (size - 2) 0
  let mixedEarly := rotateRight early 7 ^^^ rotateRight early 18 ^^^ (early >>> 3)
  let mixedLate := rotateRight late 17 ^^^ rotateRight late 19 ^^^ (late >>> 10)
  words.getD (size - 16) 0 + mixedEarly + words.getD (size - 7) 0 + mixedLate

def schedule (bytes : Array UInt8) (start : Nat) : Array UInt32 :=
  (List.range 48).foldl (fun words _ => words.push (nextWord words))
    (Array.ofFn fun (place : Fin 16) => wordAt bytes (start + 4 * place.val))

def round (words : Array UInt32) (state : State) (index : Nat) : State :=
  let mixedE := rotateRight state.e 6 ^^^ rotateRight state.e 11 ^^^ rotateRight state.e 25
  let choice := (state.e &&& state.f) ^^^ ((~~~ state.e) &&& state.g)
  let first := state.h + mixedE + choice + roundConstants.getD index 0 + words.getD index 0
  let mixedA := rotateRight state.a 2 ^^^ rotateRight state.a 13 ^^^ rotateRight state.a 22
  let majority := (state.a &&& state.b) ^^^ (state.a &&& state.c) ^^^ (state.b &&& state.c)
  ⟨first + mixedA + majority, state.a, state.b, state.c, state.d + first, state.e, state.f,
    state.g⟩

def compress (bytes : Array UInt8) (state : State) (block : Nat) : State :=
  let words := schedule bytes (64 * block)
  let mixed := (List.range 64).foldl (round words) state
  ⟨state.a + mixed.a, state.b + mixed.b, state.c + mixed.c, state.d + mixed.d, state.e + mixed.e,
    state.f + mixed.f, state.g + mixed.g, state.h + mixed.h⟩

def digest (message : ByteArray) : State :=
  let bytes := padded message
  (List.range (bytes.size / 64)).foldl (compress bytes) initial

def wordText (word : UInt32) : List Char :=
  let digits := Nat.toDigits 16 word.toNat
  List.replicate (8 - digits.length) '0' ++ digits

/-- The first eight bytes of a text's digest in hexadecimal digits. -/
def shortDigest (text : String) : String :=
  let state := digest text.toUTF8
  String.ofList (wordText state.a ++ wordText state.b)

end BrowserRelay.Sha256
