/-!
# Content digests

The SHA-256 digest of a text, in hexadecimal. Equal texts have equal digests; that two
texts in use never share one is assumed wherever a digest stands for a text. The main statements
say that a padded message fills whole blocks (`length_pad_mod`).
-/

set_option autoImplicit false

namespace ShaderSyntax

namespace Digest

/-- The chaining value: eight words. -/
structure Chain where
  a : UInt32
  b : UInt32
  c : UInt32
  d : UInt32
  e : UInt32
  f : UInt32
  g : UInt32
  h : UInt32

/-- The chaining value before the first block: the fractional parts of the square roots of the
first eight primes. -/
def Chain.initial : Chain :=
  ⟨0x6a09e667, 0xbb67ae85, 0x3c6ef372, 0xa54ff53a,
    0x510e527f, 0x9b05688c, 0x1f83d9ab, 0x5be0cd19⟩

/-- The round constants: the fractional parts of the cube roots of the first sixty-four primes. -/
def roundConstants : List UInt32 := [
  0x428a2f98, 0x71374491, 0xb5c0fbcf, 0xe9b5dba5, 0x3956c25b, 0x59f111f1,
  0x923f82a4, 0xab1c5ed5, 0xd807aa98, 0x12835b01, 0x243185be, 0x550c7dc3,
  0x72be5d74, 0x80deb1fe, 0x9bdc06a7, 0xc19bf174, 0xe49b69c1, 0xefbe4786,
  0x0fc19dc6, 0x240ca1cc, 0x2de92c6f, 0x4a7484aa, 0x5cb0a9dc, 0x76f988da,
  0x983e5152, 0xa831c66d, 0xb00327c8, 0xbf597fc7, 0xc6e00bf3, 0xd5a79147,
  0x06ca6351, 0x14292967, 0x27b70a85, 0x2e1b2138, 0x4d2c6dfc, 0x53380d13,
  0x650a7354, 0x766a0abb, 0x81c2c92e, 0x92722c85, 0xa2bfe8a1, 0xa81a664b,
  0xc24b8b70, 0xc76c51a3, 0xd192e819, 0xd6990624, 0xf40e3585, 0x106aa070,
  0x19a4c116, 0x1e376c08, 0x2748774c, 0x34b0bcb5, 0x391c0cb3, 0x4ed8aa4a,
  0x5b9cca4f, 0x682e6ff3, 0x748f82ee, 0x78a5636f, 0x84c87814, 0x8cc70208,
  0x90befffa, 0xa4506ceb, 0xbef9a3f7, 0xc67178f2]

/-- A word rotated right by fewer than thirty-two bits. -/
def rotate (x : UInt32) (n : UInt32) : UInt32 :=
  (x >>> n) ||| (x <<< (32 - n))

/-- The first mixing function of the message schedule. -/
def lowerSigma0 (x : UInt32) : UInt32 := rotate x 7 ^^^ rotate x 18 ^^^ (x >>> 3)

/-- The second mixing function of the message schedule. -/
def lowerSigma1 (x : UInt32) : UInt32 := rotate x 17 ^^^ rotate x 19 ^^^ (x >>> 10)

/-- The first mixing function of a round. -/
def upperSigma0 (x : UInt32) : UInt32 := rotate x 2 ^^^ rotate x 13 ^^^ rotate x 22

/-- The second mixing function of a round. -/
def upperSigma1 (x : UInt32) : UInt32 := rotate x 6 ^^^ rotate x 11 ^^^ rotate x 25

/-- One round on the chaining value with its constant and its schedule word. -/
def Chain.round (s : Chain) (constant word : UInt32) : Chain :=
  let t1 := s.h + upperSigma1 s.e + ((s.e &&& s.f) ^^^ ((s.e ^^^ 0xffffffff) &&& s.g)) +
    constant + word
  let t2 := upperSigma0 s.a + ((s.a &&& s.b) ^^^ (s.a &&& s.c) ^^^ (s.b &&& s.c))
  ⟨t1 + t2, s.a, s.b, s.c, s.d + t1, s.e, s.f, s.g⟩

/-- The next `count` words of the message schedule, given the sixteen words that come first. -/
def schedule : Nat → List UInt32 → List UInt32
  | 0, _ => []
  | _ + 1, [] => []
  | count + 1, first :: later =>
    let fresh := lowerSigma1 (later.getD 13 0) + later.getD 8 0 + lowerSigma0 (later.getD 0 0) +
      first
    first :: schedule count (later ++ [fresh])

/-- Four bytes as a word, the first one highest. -/
def word (b0 b1 b2 b3 : UInt8) : UInt32 :=
  (b0.toUInt32 <<< 24) ||| (b1.toUInt32 <<< 16) ||| (b2.toUInt32 <<< 8) ||| b3.toUInt32

/-- The words of a byte list whose length is a multiple of four. -/
def wordsOf : List UInt8 → List UInt32
  | b0 :: b1 :: b2 :: b3 :: rest => word b0 b1 b2 b3 :: wordsOf rest
  | _ => []

/-- The chaining value after one block of sixteen words. -/
def Chain.compress (s : Chain) (block : List UInt32) : Chain :=
  let t := (List.zip roundConstants (schedule 64 block)).foldl (fun s kw => s.round kw.1 kw.2) s
  ⟨s.a + t.a, s.b + t.b, s.c + t.c, s.d + t.d, s.e + t.e, s.f + t.f, s.g + t.g, s.h + t.h⟩

/-- The chaining value after `count` blocks taken from the front of a word list. -/
def Chain.absorb (s : Chain) : Nat → List UInt32 → Chain
  | 0, _ => s
  | count + 1, words => (s.compress (words.take 16)).absorb count (words.drop 16)

/-- A number as `count` bytes, the highest first. -/
def bytesOf : Nat → Nat → List UInt8
  | 0, _ => []
  | count + 1, n => UInt8.ofNat (n / Nat.pow 256 count) :: bytesOf count n

/-- A message with a delimiter bit, zeros and its length in bits behind it. -/
def pad (message : List UInt8) : List UInt8 :=
  message ++ 0x80 :: List.replicate ((119 - message.length % 64) % 64) 0 ++
    bytesOf 8 (8 * message.length)

/-- A number is written in the number of bytes that is asked for. -/
theorem length_bytesOf (count n : Nat) : (bytesOf count n).length = count := by
  induction count with
  | zero => rfl
  | succ count ih => simp [bytesOf, ih]

/-- A padded message fills whole blocks. -/
theorem length_pad_mod (message : List UInt8) : (pad message).length % 64 = 0 := by
  simp only [pad, List.length_append, List.length_cons, List.length_replicate, length_bytesOf]
  omega

/-- A word in hexadecimal, eight digits. -/
def hexWord (w : UInt32) : List Char :=
  let digits := Nat.toDigits 16 w.toNat
  List.replicate (8 - digits.length) '0' ++ digits

/-- The digest of a message, as a chaining value. -/
def Chain.ofMessage (message : List UInt8) : Chain :=
  let padded := pad message
  Chain.initial.absorb (padded.length / 64) (wordsOf padded)

/-- A chaining value in hexadecimal. -/
def Chain.hex (s : Chain) : String :=
  String.ofList (([s.a, s.b, s.c, s.d, s.e, s.f, s.g, s.h].map hexWord).flatten)

end Digest

/-- The SHA-256 digest of a text's UTF-8 bytes, as sixty-four hexadecimal digits in lower case. -/
def contentHash (text : String) : String :=
  (Digest.Chain.ofMessage text.toUTF8.toList).hex

end ShaderSyntax
