import ProxyAudit.Bytes

/-!
# SHA-256

The hash of FIPS 180-4 over byte strings: the message is padded to whole blocks of 64 bytes, and
the compression function takes the blocks one after the other.

Main results:

* `length_stretch`  — a block of 16 words is stretched to 64.
* `length_hash`     — a hash has 32 bytes.
-/

namespace ProxyAudit.Sha256

-- ---------------------------------------------------------------------------
-- Words
-- ---------------------------------------------------------------------------

/-- Circular shift of a word to the right. -/
def rotr (x : UInt32) (n : UInt32) : UInt32 :=
  (x >>> n) ||| (x <<< (32 - n))

/-- Selects by the bits of `x` between `y` and `z`. -/
def choose (x y z : UInt32) : UInt32 :=
  (x &&& y) ^^^ (~~~x &&& z)

/-- The majority of three words, bit by bit. -/
def majority (x y z : UInt32) : UInt32 :=
  (x &&& y) ^^^ (x &&& z) ^^^ (y &&& z)

/-- The function Σ₀ of the standard. -/
def bigSigma0 (x : UInt32) : UInt32 :=
  rotr x 2 ^^^ rotr x 13 ^^^ rotr x 22

/-- The function Σ₁ of the standard. -/
def bigSigma1 (x : UInt32) : UInt32 :=
  rotr x 6 ^^^ rotr x 11 ^^^ rotr x 25

/-- The function σ₀ of the standard. -/
def smallSigma0 (x : UInt32) : UInt32 :=
  rotr x 7 ^^^ rotr x 18 ^^^ (x >>> 3)

/-- The function σ₁ of the standard. -/
def smallSigma1 (x : UInt32) : UInt32 :=
  rotr x 17 ^^^ rotr x 19 ^^^ (x >>> 10)

/-- The word of four bytes, most significant first. -/
def wordOf (a b c d : UInt8) : UInt32 :=
  (a.toUInt32 <<< 24) ||| (b.toUInt32 <<< 16) ||| (c.toUInt32 <<< 8) ||| d.toUInt32

/-- The words of a byte string whose length is a multiple of four. -/
def wordsOf : Bytes → List UInt32
  | a :: b :: c :: d :: rest => wordOf a b c d :: wordsOf rest
  | _ => []

/-- The four bytes of a word, most significant first. -/
def bytesOfWord (w : UInt32) : Bytes :=
  [(w >>> 24).toUInt8, (w >>> 16).toUInt8, (w >>> 8).toUInt8, w.toUInt8]

/-- The round constants: the first 32 bits of the fractional parts of the cube roots of the first
64 primes. -/
def roundConstants : List UInt32 :=
  [0x428a2f98, 0x71374491, 0xb5c0fbcf, 0xe9b5dba5, 0x3956c25b, 0x59f111f1, 0x923f82a4, 0xab1c5ed5,
   0xd807aa98, 0x12835b01, 0x243185be, 0x550c7dc3, 0x72be5d74, 0x80deb1fe, 0x9bdc06a7, 0xc19bf174,
   0xe49b69c1, 0xefbe4786, 0x0fc19dc6, 0x240ca1cc, 0x2de92c6f, 0x4a7484aa, 0x5cb0a9dc, 0x76f988da,
   0x983e5152, 0xa831c66d, 0xb00327c8, 0xbf597fc7, 0xc6e00bf3, 0xd5a79147, 0x06ca6351, 0x14292967,
   0x27b70a85, 0x2e1b2138, 0x4d2c6dfc, 0x53380d13, 0x650a7354, 0x766a0abb, 0x81c2c92e, 0x92722c85,
   0xa2bfe8a1, 0xa81a664b, 0xc24b8b70, 0xc76c51a3, 0xd192e819, 0xd6990624, 0xf40e3585, 0x106aa070,
   0x19a4c116, 0x1e376c08, 0x2748774c, 0x34b0bcb5, 0x391c0cb3, 0x4ed8aa4a, 0x5b9cca4f, 0x682e6ff3,
   0x748f82ee, 0x78a5636f, 0x84c87814, 0x8cc70208, 0x90befffa, 0xa4506ceb, 0xbef9a3f7, 0xc67178f2]

-- ---------------------------------------------------------------------------
-- Compression
-- ---------------------------------------------------------------------------

/-- The eight working words between blocks. -/
structure State where
  a : UInt32
  b : UInt32
  c : UInt32
  d : UInt32
  e : UInt32
  f : UInt32
  g : UInt32
  h : UInt32
  deriving DecidableEq, Repr

/-- The state before the first block: the first 32 bits of the fractional parts of the square
roots of the first eight primes. -/
def State.initial : State :=
  ⟨0x6a09e667, 0xbb67ae85, 0x3c6ef372, 0xa54ff53a, 0x510e527f, 0x9b05688c, 0x1f83d9ab, 0x5be0cd19⟩

/-- Word by word sum of two states. -/
def State.add (s t : State) : State :=
  ⟨s.a + t.a, s.b + t.b, s.c + t.c, s.d + t.d, s.e + t.e, s.f + t.f, s.g + t.g, s.h + t.h⟩

/-- The 32 bytes of a state. -/
def State.bytes (s : State) : Bytes :=
  [s.a, s.b, s.c, s.d, s.e, s.f, s.g, s.h].flatMap bytesOfWord

/-- Prepends words to a schedule that is kept last word first; each is made of the words 2, 7, 15
and 16 places before it. -/
def stretch : Nat → List UInt32 → List UInt32
  | 0, ws => ws
  | n + 1, ws =>
    let w := smallSigma1 (ws.getD 1 0) + ws.getD 6 0 + smallSigma0 (ws.getD 14 0) + ws.getD 15 0
    stretch n (w :: ws)

/-- The 64 words that a block of 64 bytes gives to the rounds. -/
def schedule (block : Bytes) : List UInt32 :=
  (stretch 48 (wordsOf block).reverse).reverse

/-- One round, with its constant and its word of the schedule. -/
def round (s : State) (kw : UInt32 × UInt32) : State :=
  let t1 := s.h + bigSigma1 s.e + choose s.e s.f s.g + kw.1 + kw.2
  let t2 := bigSigma0 s.a + majority s.a s.b s.c
  ⟨t1 + t2, s.a, s.b, s.c, s.d + t1, s.e, s.f, s.g⟩

/-- The state after one more block. -/
def compress (s : State) (block : Bytes) : State :=
  s.add ((roundConstants.zip (schedule block)).foldl round s)

/-- Takes whole blocks from the front of a byte string; what is left is shorter than a block. -/
def absorb (s : State) (bs : Bytes) : State × Bytes :=
  match _h : bs.drop 63 with
  | [] => (s, bs)
  | _ :: _ => absorb (compress s (bs.take 64)) (bs.drop 64)
termination_by bs.length
decreasing_by
  have := congrArg List.length _h
  simp only [List.length_drop, List.length_cons] at this ⊢
  omega

-- ---------------------------------------------------------------------------
-- Whole messages
-- ---------------------------------------------------------------------------

/-- The eight bytes of a number below 2^64, most significant first. -/
def bytesOfLength (n : UInt64) : Bytes :=
  ([56, 48, 40, 32, 24, 16, 8, 0] : List UInt64).map fun shift => (n >>> shift).toUInt8

/-- What follows a message of the given length: a one bit, zero bits up to eight bytes short of a
whole block, and the length in bits. -/
def padding (length : Nat) : Bytes :=
  0x80 :: List.replicate ((119 - length % 64) % 64) 0 ++ bytesOfLength (UInt64.ofNat (8 * length))

/-- The hash of a whole message. -/
def hash (message : Bytes) : Bytes :=
  (absorb State.initial (message ++ padding message.length)).1.bytes

theorem length_stretch (n : Nat) (ws : List UInt32) : (stretch n ws).length = n + ws.length := by
  induction n generalizing ws with
  | zero => simp [stretch]
  | succ n ih => simp [stretch, ih]; omega

theorem length_bytes (s : State) : s.bytes.length = 32 := rfl

theorem length_hash (message : Bytes) : (hash message).length = 32 :=
  length_bytes _

end ProxyAudit.Sha256
