/-!
The SHA-256 digest of a list of bytes, as lower-case hexadecimal text.
-/

namespace ResilientChat.Digest

/-- The round constants: the first bits of the cube roots of the first 64 primes. -/
def roundConstants : List UInt32 :=
  [0x428a2f98, 0x71374491, 0xb5c0fbcf, 0xe9b5dba5, 0x3956c25b, 0x59f111f1, 0x923f82a4, 0xab1c5ed5,
   0xd807aa98, 0x12835b01, 0x243185be, 0x550c7dc3, 0x72be5d74, 0x80deb1fe, 0x9bdc06a7, 0xc19bf174,
   0xe49b69c1, 0xefbe4786, 0x0fc19dc6, 0x240ca1cc, 0x2de92c6f, 0x4a7484aa, 0x5cb0a9dc, 0x76f988da,
   0x983e5152, 0xa831c66d, 0xb00327c8, 0xbf597fc7, 0xc6e00bf3, 0xd5a79147, 0x06ca6351, 0x14292967,
   0x27b70a85, 0x2e1b2138, 0x4d2c6dfc, 0x53380d13, 0x650a7354, 0x766a0abb, 0x81c2c92e, 0x92722c85,
   0xa2bfe8a1, 0xa81a664b, 0xc24b8b70, 0xc76c51a3, 0xd192e819, 0xd6990624, 0xf40e3585, 0x106aa070,
   0x19a4c116, 0x1e376c08, 0x2748774c, 0x34b0bcb5, 0x391c0cb3, 0x4ed8aa4a, 0x5b9cca4f, 0x682e6ff3,
   0x748f82ee, 0x78a5636f, 0x84c87814, 0x8cc70208, 0x90befffa, 0xa4506ceb, 0xbef9a3f7, 0xc67178f2]

structure Words where
  a : UInt32
  b : UInt32
  c : UInt32
  d : UInt32
  e : UInt32
  f : UInt32
  g : UInt32
  h : UInt32
deriving Repr, DecidableEq

/-- The first bits of the square roots of the first eight primes. -/
def Words.initial : Words :=
  ⟨0x6a09e667, 0xbb67ae85, 0x3c6ef372, 0xa54ff53a,
   0x510e527f, 0x9b05688c, 0x1f83d9ab, 0x5be0cd19⟩

def Words.add (x y : Words) : Words :=
  ⟨x.a + y.a, x.b + y.b, x.c + y.c, x.d + y.d, x.e + y.e, x.f + y.f, x.g + y.g, x.h + y.h⟩

def Words.toList (x : Words) : List UInt32 := [x.a, x.b, x.c, x.d, x.e, x.f, x.g, x.h]

def rotateRight (x n : UInt32) : UInt32 := (x >>> n) ||| (x <<< (32 - n))

def Words.round (s : Words) (k w : UInt32) : Words :=
  let mixE := rotateRight s.e 6 ^^^ rotateRight s.e 11 ^^^ rotateRight s.e 25
  let choice := (s.e &&& s.f) ^^^ (~~~s.e &&& s.g)
  let first := s.h + mixE + choice + k + w
  let mixA := rotateRight s.a 2 ^^^ rotateRight s.a 13 ^^^ rotateRight s.a 22
  let majority := (s.a &&& s.b) ^^^ (s.a &&& s.c) ^^^ (s.b &&& s.c)
  ⟨first + (mixA + majority), s.a, s.b, s.c, s.d + first, s.e, s.f, s.g⟩

def nextWord (window : List UInt32) : UInt32 :=
  let word (n : Nat) := window[n]?.getD 0
  let low := rotateRight (word 1) 7 ^^^ rotateRight (word 1) 18 ^^^ (word 1 >>> 3)
  let high := rotateRight (word 14) 17 ^^^ rotateRight (word 14) 19 ^^^ (word 14 >>> 10)
  word 0 + low + word 9 + high

def rounds : List UInt32 → List UInt32 → Words → Words
  | [], _, s => s
  | k :: ks, window, s =>
    rounds ks (window.tail ++ [nextWord window]) (s.round k (window.headD 0))

def wordsOf : List UInt8 → List UInt32
  | a :: b :: c :: d :: rest =>
    ((a.toUInt32 <<< 24) ||| (b.toUInt32 <<< 16) ||| (c.toUInt32 <<< 8) ||| d.toUInt32)
      :: wordsOf rest
  | _ => []

def blockSize : Nat := 64

def absorb : (count : Nat) → List UInt8 → Words → Words
  | 0, _, s => s
  | count + 1, bytes, s =>
    absorb count (bytes.drop blockSize)
      (s.add (rounds roundConstants (wordsOf (bytes.take blockSize)) s))

/-- The bytes of a number in `width` places, the highest first. -/
def bigEndian (width n : Nat) : List UInt8 :=
  (List.range width).reverse.map fun i => (n >>> (8 * i)).toUInt8

/-- The message with a marker, zeros and its length in bits, in whole blocks. -/
def padded (message : List UInt8) : List UInt8 :=
  let filled := message.length + 9
  let zeros := (blockSize - filled % blockSize) % blockSize
  message ++ 0x80 :: List.replicate zeros 0 ++ bigEndian 8 (8 * message.length)

def hexDigits : List Char := "0123456789abcdef".toList

def hex (bytes : List UInt8) : String :=
  String.ofList (bytes.flatMap fun b =>
    [hexDigits.getD (b.toNat / 16) '0', hexDigits.getD (b.toNat % 16) '0'])

def sha256 (message : List UInt8) : String :=
  let bytes := padded message
  let words := absorb (bytes.length / blockSize) bytes Words.initial
  hex (words.toList.flatMap fun w => bigEndian 4 w.toNat)

def bytesOf (s : String) : List UInt8 := s.toUTF8.toList

/-- Parts one after the other, each followed by a zero byte. -/
def terminated (parts : List String) : List UInt8 :=
  parts.flatMap fun part => bytesOf part ++ [0]

end ResilientChat.Digest
