import DocBinder.Value.Literal

/-!
# The SHA-256 digest

The digest by which contents are compared. A message is padded to whole blocks of sixteen words,
and each block is mixed into a state of eight words.
-/

namespace DocBinder.Digest

/-- The round constants: the fractional parts of the cube roots of the first 64 primes. -/
def roundConstants : Array UInt32 := #[
  0x428a2f98, 0x71374491, 0xb5c0fbcf, 0xe9b5dba5, 0x3956c25b, 0x59f111f1, 0x923f82a4, 0xab1c5ed5,
  0xd807aa98, 0x12835b01, 0x243185be, 0x550c7dc3, 0x72be5d74, 0x80deb1fe, 0x9bdc06a7, 0xc19bf174,
  0xe49b69c1, 0xefbe4786, 0x0fc19dc6, 0x240ca1cc, 0x2de92c6f, 0x4a7484aa, 0x5cb0a9dc, 0x76f988da,
  0x983e5152, 0xa831c66d, 0xb00327c8, 0xbf597fc7, 0xc6e00bf3, 0xd5a79147, 0x06ca6351, 0x14292967,
  0x27b70a85, 0x2e1b2138, 0x4d2c6dfc, 0x53380d13, 0x650a7354, 0x766a0abb, 0x81c2c92e, 0x92722c85,
  0xa2bfe8a1, 0xa81a664b, 0xc24b8b70, 0xc76c51a3, 0xd192e819, 0xd6990624, 0xf40e3585, 0x106aa070,
  0x19a4c116, 0x1e376c08, 0x2748774c, 0x34b0bcb5, 0x391c0cb3, 0x4ed8aa4a, 0x5b9cca4f, 0x682e6ff3,
  0x748f82ee, 0x78a5636f, 0x84c87814, 0x8cc70208, 0x90befffa, 0xa4506ceb, 0xbef9a3f7, 0xc67178f2]

/-- The state of the digest. -/
structure State where
  a : UInt32
  b : UInt32
  c : UInt32
  d : UInt32
  e : UInt32
  f : UInt32
  g : UInt32
  h : UInt32
deriving DecidableEq, Repr, Inhabited

namespace State

/-- The state before the first block: the fractional parts of the square roots of the first eight
primes. -/
def initial : State :=
  ⟨0x6a09e667, 0xbb67ae85, 0x3c6ef372, 0xa54ff53a, 0x510e527f, 0x9b05688c, 0x1f83d9ab, 0x5be0cd19⟩

/-- The words of a state. -/
def words (state : State) : List UInt32 :=
  [state.a, state.b, state.c, state.d, state.e, state.f, state.g, state.h]

/-- Add two states word by word. -/
def add (first second : State) : State :=
  ⟨first.a + second.a, first.b + second.b, first.c + second.c, first.d + second.d,
    first.e + second.e, first.f + second.f, first.g + second.g, first.h + second.h⟩

end State

/-- Turn a word to the right. -/
def rotateRight (word : UInt32) (count : UInt32) : UInt32 :=
  (word >>> count) ||| (word <<< (32 - count))

/-- One round with a round constant and a word of the schedule. -/
def round (state : State) (constant word : UInt32) : State :=
  let sum1 := rotateRight state.e 6 ^^^ rotateRight state.e 11 ^^^ rotateRight state.e 25
  let choice := (state.e &&& state.f) ^^^ (~~~state.e &&& state.g)
  let first := state.h + sum1 + choice + constant + word
  let sum0 := rotateRight state.a 2 ^^^ rotateRight state.a 13 ^^^ rotateRight state.a 22
  let majority := (state.a &&& state.b) ^^^ (state.a &&& state.c) ^^^ (state.b &&& state.c)
  ⟨first + sum0 + majority, state.a, state.b, state.c, state.d + first, state.e, state.f, state.g⟩

/-- The next word of a schedule. -/
def scheduleWord (schedule : Array UInt32) : UInt32 :=
  let count := schedule.size
  let back (distance : Nat) : UInt32 := schedule.getD (count - distance) 0
  let w15 := back 15
  let w2 := back 2
  let low := rotateRight w15 7 ^^^ rotateRight w15 18 ^^^ (w15 >>> 3)
  let high := rotateRight w2 17 ^^^ rotateRight w2 19 ^^^ (w2 >>> 10)
  back 16 + low + back 7 + high

/-- The 64 words that a block of sixteen words is spread to. -/
def schedule (block : Array UInt32) : Array UInt32 :=
  (List.range 48).foldl (fun words _ => words.push (scheduleWord words)) block

/-- Mix a block into a state. -/
def compress (state : State) (block : Array UInt32) : State :=
  let words := schedule block
  let mixed := (List.range 64).foldl
    (fun state index => round state (roundConstants.getD index 0) (words.getD index 0)) state
  state.add mixed

/-- The byte at a position; past the end stands zero. -/
def byteAt (bytes : ByteArray) (position : Nat) : UInt8 :=
  if inside : position < bytes.size then bytes[position] else 0

/-- The word of four bytes at a position. -/
def wordAt (bytes : ByteArray) (position : Nat) : UInt32 :=
  let byte (offset : Nat) : UInt32 := (byteAt bytes (position + offset)).toUInt32
  (byte 0 <<< 24) ||| (byte 1 <<< 16) ||| (byte 2 <<< 8) ||| byte 3

/-- A message with a one bit, zeros and its length in bits behind it, in whole blocks. -/
def padded (bytes : ByteArray) : ByteArray :=
  let zeros := (119 - bytes.size % 64) % 64
  let bits := 8 * bytes.size
  let length := (List.range 8).map fun index => UInt8.ofNat (bits >>> (8 * (7 - index)))
  (bytes.push 0x80) ++ ⟨Array.replicate zeros 0⟩ ++ ⟨length.toArray⟩

/-- The digest of a message. -/
def sha256 (bytes : ByteArray) : List UInt8 :=
  let message := padded bytes
  let final := (List.range (message.size / 64)).foldl
    (fun state block => compress state
      ((List.range 16).map fun word => wordAt message (64 * block + 4 * word)).toArray)
    State.initial
  final.words.flatMap fun (word : UInt32) =>
    [(word >>> 24).toUInt8, (word >>> 16).toUInt8, (word >>> 8).toUInt8, word.toUInt8]

/-- The digest of a message in hexadecimal. -/
def sha256Hex (bytes : ByteArray) : String :=
  String.ofList ((sha256 bytes).flatMap fun byte => hexDigits 2 byte.toNat)

/-- The digest of a text in UTF-8. -/
def ofString (text : String) : String :=
  sha256Hex text.toUTF8

end DocBinder.Digest
