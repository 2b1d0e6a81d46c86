import TokenLedger.Bytes

/-!
# The SHA-256 digest

Addresses of modules and commitments to state are digests of byte strings. The function is the one
of the secure hash standard: the message is padded to blocks of sixteen words, each block is
expanded to a schedule of sixty-four words, and the rounds of a block are added to the state before
it.
-/

namespace TokenLedger

/-- A digest of thirty-two bytes. -/
structure Digest where
  /-- The bytes, first word first. -/
  bytes : Bytes
  /-- Every digest has the same length. -/
  length_eq : bytes.length = 32
  deriving DecidableEq

namespace Digest

/-- The digest of which every byte is zero, held before anything is committed. -/
def zero : Digest := ⟨List.replicate 32 0, by simp⟩

/-- The working state: eight words. -/
structure Words where
  /-- First word. -/
  a : UInt32
  /-- Second word. -/
  b : UInt32
  /-- Third word. -/
  c : UInt32
  /-- Fourth word. -/
  d : UInt32
  /-- Fifth word. -/
  e : UInt32
  /-- Sixth word. -/
  f : UInt32
  /-- Seventh word. -/
  g : UInt32
  /-- Eighth word. -/
  h : UInt32

/-- The state before the first block. -/
def Words.initial : Words :=
  ⟨0x6a09e667, 0xbb67ae85, 0x3c6ef372, 0xa54ff53a, 0x510e527f, 0x9b05688c, 0x1f83d9ab, 0x5be0cd19⟩

/-- Two states added word by word. -/
def Words.add (s t : Words) : Words :=
  ⟨s.a + t.a, s.b + t.b, s.c + t.c, s.d + t.d, s.e + t.e, s.f + t.f, s.g + t.g, s.h + t.h⟩

/-- The round constants. -/
def roundConstants : List UInt32 := [
  0x428a2f98, 0x71374491, 0xb5c0fbcf, 0xe9b5dba5, 0x3956c25b, 0x59f111f1, 0x923f82a4, 0xab1c5ed5,
  0xd807aa98, 0x12835b01, 0x243185be, 0x550c7dc3, 0x72be5d74, 0x80deb1fe, 0x9bdc06a7, 0xc19bf174,
  0xe49b69c1, 0xefbe4786, 0x0fc19dc6, 0x240ca1cc, 0x2de92c6f, 0x4a7484aa, 0x5cb0a9dc, 0x76f988da,
  0x983e5152, 0xa831c66d, 0xb00327c8, 0xbf597fc7, 0xc6e00bf3, 0xd5a79147, 0x06ca6351, 0x14292967,
  0x27b70a85, 0x2e1b2138, 0x4d2c6dfc, 0x53380d13, 0x650a7354, 0x766a0abb, 0x81c2c92e, 0x92722c85,
  0xa2bfe8a1, 0xa81a664b, 0xc24b8b70, 0xc76c51a3, 0xd192e819, 0xd6990624, 0xf40e3585, 0x106aa070,
  0x19a4c116, 0x1e376c08, 0x2748774c, 0x34b0bcb5, 0x391c0cb3, 0x4ed8aa4a, 0x5b9cca4f, 0x682e6ff3,
  0x748f82ee, 0x78a5636f, 0x84c87814, 0x8cc70208, 0x90befffa, 0xa4506ceb, 0xbef9a3f7, 0xc67178f2]

/-- A word with its bits rotated to the right. -/
def rotateRight (word count : UInt32) : UInt32 := (word >>> count) ||| (word <<< (32 - count))

/-- One round with its constant and its schedule word. -/
def round (s : Words) (constant word : UInt32) : Words :=
  let high := rotateRight s.e 6 ^^^ rotateRight s.e 11 ^^^ rotateRight s.e 25
  let choice := (s.e &&& s.f) ^^^ (~~~s.e &&& s.g)
  let first := s.h + high + choice + constant + word
  let low := rotateRight s.a 2 ^^^ rotateRight s.a 13 ^^^ rotateRight s.a 22
  let majority := (s.a &&& s.b) ^^^ (s.a &&& s.c) ^^^ (s.b &&& s.c)
  ⟨first + (low + majority), s.a, s.b, s.c, s.d + first, s.e, s.f, s.g⟩

/-- The schedule extended by one word. -/
def extendSchedule (words : Array UInt32) : Array UInt32 :=
  let back (distance : Nat) : UInt32 := words.getD (words.size - distance) 0
  let older := back 15
  let newer := back 2
  let mixOlder := rotateRight older 7 ^^^ rotateRight older 18 ^^^ (older >>> 3)
  let mixNewer := rotateRight newer 17 ^^^ rotateRight newer 19 ^^^ (newer >>> 10)
  words.push (back 16 + mixOlder + back 7 + mixNewer)

/-- The sixty-four schedule words of a block of sixteen. -/
def schedule (block : List UInt32) : List UInt32 :=
  ((List.range 48).foldl (fun words _ => extendSchedule words) block.toArray).toList

/-- The state after one block. -/
def compress (s : Words) (block : List UInt32) : Words :=
  s.add ((roundConstants.zip (schedule block)).foldl (fun t step => round t step.1 step.2) s)

/-- The words of a byte string, most significant byte first; a rest shorter than a word is dropped.
-/
def wordsOf : Bytes → List UInt32
  | a :: b :: c :: d :: rest =>
    ((a.toUInt32 <<< 24) ||| (b.toUInt32 <<< 16) ||| (c.toUInt32 <<< 8) ||| d.toUInt32) ::
      wordsOf rest
  | _ => []

/-- The bytes of a word, most significant first. -/
def bytesOf (word : UInt32) : Bytes :=
  [(word >>> 24).toUInt8, (word >>> 16).toUInt8, (word >>> 8).toUInt8, word.toUInt8]

/-- The message with its padding: a one bit, zero bits to the end of a block less eight bytes, and
the number of bits of the message. -/
def padded (message : Bytes) : Bytes :=
  let zeros := (119 - message.length % 64) % 64
  message ++ [0x80] ++ List.replicate zeros 0 ++ (Bytes.ofNat 8 (8 * message.length)).reverse

/-- The state after all blocks of a list of words; `count` bounds the number of blocks. -/
def absorb : Nat → Words → List UInt32 → Words
  | 0, s, _ => s
  | count + 1, s, words =>
    if words.isEmpty then s else absorb count (compress s (words.take 16)) (words.drop 16)

/-- The SHA-256 digest of a byte string. -/
def sha256 (message : Bytes) : Digest :=
  let words := wordsOf (padded message)
  let s := absorb words.length Words.initial words
  ⟨bytesOf s.a ++ bytesOf s.b ++ bytesOf s.c ++ bytesOf s.d ++
    bytesOf s.e ++ bytesOf s.f ++ bytesOf s.g ++ bytesOf s.h, by simp [bytesOf]⟩

end Digest

end TokenLedger
