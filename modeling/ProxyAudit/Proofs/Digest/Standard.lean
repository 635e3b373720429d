import Mathlib
import ProxyAudit.Proofs.Digest.Stream

/-!
# The hash of the standard

FIPS 180-4 numbers everything: the words of a message schedule, the rounds of a block, the hash
values of a message. Its constants come from roots of primes, and its padding is the shortest that
fills the last block. Here the hash is defined in these terms, and it is the one that a hash in
progress arrives at, which keeps its schedule backwards, its constants in a table, and takes blocks
as they come.

Main results:

* `roundConstants_eq`  — the table of constants holds the roots of primes.
* `schedule_eq`        — the schedule of a block holds the words of the standard.
* `compress_eq`        — one block does what the rounds of the standard do.
* `hash_eq`            — the hash of a message is that of the standard.
-/

namespace ProxyAudit.Sha256

-- ---------------------------------------------------------------------------
-- The standard
-- ---------------------------------------------------------------------------

namespace Standard

/-- The first primes, as many as there are rounds. -/
def primes : List Nat :=
  (List.range 312).filter Nat.Prime

/-- The first 32 bits of the fractional part of a root. -/
def rootFraction (degree a : Nat) : UInt32 :=
  UInt32.ofNat (Nat.nthRoot degree (a * 2 ^ (32 * degree)))

/-- The constant of a round, from the cube root of a prime. -/
def constant (t : Nat) : UInt32 :=
  rootFraction 3 (primes.getD t 0)

/-- The hash value before the first block, from the square roots of primes. -/
def initial : State :=
  let fraction (i : Nat) : UInt32 := rootFraction 2 (primes.getD i 0)
  ⟨fraction 0, fraction 1, fraction 2, fraction 3, fraction 4, fraction 5, fraction 6, fraction 7⟩

/-- The words of the schedule of a block: the sixteen of the block itself, and each further one from
four before it. -/
def word (block : Bytes) (t : Nat) : UInt32 :=
  if t < 16 then
    wordOf (block.getD (4 * t) 0) (block.getD (4 * t + 1) 0) (block.getD (4 * t + 2) 0)
      (block.getD (4 * t + 3) 0)
  else
    smallSigma1 (word block (t - 2)) + word block (t - 7) + smallSigma0 (word block (t - 15))
      + word block (t - 16)

/-- The working variables after so many rounds. -/
def rounds (h : State) (block : Bytes) : Nat → State
  | 0 => h
  | t + 1 => round (rounds h block t) (constant t, word block t)

/-- The hash value after so many blocks. -/
def hashValue (padded : Bytes) : Nat → State
  | 0 => initial
  | i + 1 =>
    (hashValue padded i).add (rounds (hashValue padded i) ((padded.drop (64 * i)).take 64) 64)

theorem exists_zeros (length : Nat) : ∃ k, (length + 1 + k) % 64 = 56 :=
  ⟨(119 - length % 64) % 64, by omega⟩

/-- A message, a one bit, the fewest zero bits that leave eight bytes of a block, and the length of
the message in bits. -/
def pad (message : Bytes) : Bytes :=
  message ++ 0x80 :: List.replicate (Nat.find (exists_zeros message.length)) 0
    ++ (List.range 8).map fun i => UInt8.ofNat (8 * message.length / 256 ^ (7 - i))

/-- The hash of a message. -/
def hash (message : Bytes) : Bytes :=
  (hashValue (pad message) ((pad message).length / 64)).bytes

end Standard

-- ---------------------------------------------------------------------------
-- Constants
-- ---------------------------------------------------------------------------

theorem roundConstants_eq : roundConstants = (List.range 64).map Standard.constant := by
  decide +kernel

theorem initial_eq : State.initial = Standard.initial := by
  decide +kernel

-- ---------------------------------------------------------------------------
-- One block
-- ---------------------------------------------------------------------------

/-- The words of a byte string are those at every fourth place. -/
theorem wordsOf_eq (bs : Bytes) :
    wordsOf bs = (List.range (bs.length / 4)).map fun t =>
      wordOf (bs.getD (4 * t) 0) (bs.getD (4 * t + 1) 0) (bs.getD (4 * t + 2) 0)
        (bs.getD (4 * t + 3) 0) := by
  induction bs using wordsOf.induct with
  | case1 a b c d rest ih =>
    have hCount : (a :: b :: c :: d :: rest).length / 4 = rest.length / 4 + 1 := by
      simp only [List.length_cons]
      omega
    rw [hCount, List.range_succ_eq_map, wordsOf, ih, List.map_cons, List.map_map]
    rfl
  | case2 bs hShort =>
    -- fewer than four bytes make no word
    have hNone : bs.length / 4 = 0 := by
      match bs, hShort with
      | [], _ | [_], _ | [_, _], _ | [_, _, _], _ => simp
      | a :: b :: c :: d :: rest, hShort => exact absurd rfl (hShort a b c d rest)
    rw [hNone, wordsOf]
    · rfl
    · exact hShort

/-- The words before a place in a schedule that is kept last word first. -/
theorem getD_reverse_words (block : Bytes) {k j : Nat} (h : j < k) :
    ((List.range k).map (Standard.word block)).reverse.getD j 0
      = Standard.word block (k - 1 - j) := by
  rw [List.getD_eq_getElem?_getD, List.getElem?_reverse (by simpa using h)]
  simp [List.getElem?_range (show k - 1 - j < k by omega)]

/-- Stretching goes on with the words of the standard. -/
theorem stretch_words (block : Bytes) (n : Nat) {k : Nat} (h : 16 ≤ k) :
    stretch n ((List.range k).map (Standard.word block)).reverse
      = ((List.range (k + n)).map (Standard.word block)).reverse := by
  induction n generalizing k with
  | zero => rfl
  | succ n ih =>
    -- the word is made of four of the words before it, which stand first in the reversed list
    have hWord : Standard.word block k = smallSigma1 (Standard.word block (k - 1 - 1))
        + Standard.word block (k - 1 - 6) + smallSigma0 (Standard.word block (k - 1 - 14))
        + Standard.word block (k - 1 - 15) := by
      rw [Standard.word, if_neg (by omega)]
      rfl
    have hMore := ih (k := k + 1) (by omega)
    have hCount : k + 1 + n = k + (n + 1) := by omega
    rw [List.range_succ, List.map_append, List.reverse_append, hCount] at hMore
    rw [stretch, getD_reverse_words block (by omega), getD_reverse_words block (by omega),
      getD_reverse_words block (by omega), getD_reverse_words block (by omega), ← hWord]
    exact hMore

/-- **The schedule of a block.** -/
theorem schedule_eq {block : Bytes} (h : block.length = 64) :
    schedule block = (List.range 64).map (Standard.word block) := by
  have hFirst : wordsOf block = (List.range 16).map (Standard.word block) := by
    rw [wordsOf_eq, h]
    refine List.map_congr_left fun t ht => ?_
    rw [Standard.word, if_pos (List.mem_range.mp ht)]
  rw [schedule, hFirst, stretch_words block 48 (Nat.le_refl 16), List.reverse_reverse]

theorem foldl_round (h : State) (block : Bytes) (n : Nat) :
    ((List.range n).map fun t => (Standard.constant t, Standard.word block t)).foldl round h
      = Standard.rounds h block n := by
  induction n with
  | zero => rfl
  | succ n ih =>
    rw [List.range_succ, List.map_append, List.foldl_append, ih]
    rfl

/-- **One block.** -/
theorem compress_eq (s : State) {block : Bytes} (h : block.length = 64) :
    compress s block = s.add (Standard.rounds s block 64) := by
  rw [compress, schedule_eq h, roundConstants_eq, List.zip_map', foldl_round]

-- ---------------------------------------------------------------------------
-- Whole messages
-- ---------------------------------------------------------------------------

/-- Whole blocks are taken without a rest, and lead to the hash values of the standard. -/
theorem absorb_take (padded : Bytes) {i : Nat} (h : 64 * i ≤ padded.length) :
    absorb .initial (padded.take (64 * i)) = (Standard.hashValue padded i, []) := by
  induction i with
  | zero => rw [Nat.mul_zero, List.take_zero, absorb_of_lt _ (by simp), initial_eq]; rfl
  | succ i ih =>
    -- the next block is whole, so nothing is left over for later
    have hBlock : ((padded.drop (64 * i)).take 64).length = 64 := by
      rw [List.length_take, List.length_drop]
      omega
    have hFront := ih (by omega)
    have hSplit : padded.take (64 * (i + 1))
        = padded.take (64 * i) ++ (padded.drop (64 * i)).take 64 := by
      rw [Nat.mul_succ, List.take_add]
    rw [hSplit, absorb_append, hFront, List.nil_append, absorb_of_le _ (Nat.le_of_eq hBlock.symm),
      List.take_of_length_le (Nat.le_of_eq hBlock), List.drop_of_length_le (Nat.le_of_eq hBlock),
      absorb_of_lt _ (by simp), compress_eq _ hBlock]
    rfl

/-- The fewest zeros are those that are written. -/
theorem find_zeros (length : Nat) :
    Nat.find (Standard.exists_zeros length) = (119 - length % 64) % 64 := by
  rw [Nat.find_eq_iff]
  refine ⟨by omega, fun k hk => ?_⟩
  omega

/-- A length is written as the last eight of its bytes. -/
theorem bytesOfLength_eq (n : Nat) :
    bytesOfLength (UInt64.ofNat n)
      = (List.range 8).map fun i => UInt8.ofNat (n / 256 ^ (7 - i)) := by
  -- one byte of the length: the word is shifted, and what is above the byte is cut off
  have hByte (shift : UInt64) (hShift : shift.toNat ≤ 56) :
      (UInt64.ofNat n >>> shift).toUInt8 = UInt8.ofNat (n / 2 ^ shift.toNat) := by
    have hWord : 2 ^ 64 = 2 ^ shift.toNat * 2 ^ (64 - shift.toNat) := by
      rw [← Nat.pow_add, Nat.add_sub_cancel' (by omega)]
    rw [← UInt8.toNat_inj, UInt64.toNat_toUInt8, UInt64.toNat_shiftRight, UInt64.toNat_ofNat',
      UInt8.toNat_ofNat', Nat.mod_eq_of_lt (by omega : shift.toNat < 64), Nat.shiftRight_eq_div_pow,
      hWord, Nat.mod_mul_right_div_self]
    exact Nat.mod_mod_of_dvd _ (Nat.pow_dvd_pow 2 (by omega))
  have hEach : ∀ i ∈ List.range 8,
      (UInt64.ofNat n >>> UInt64.ofNat (8 * (7 - i))).toUInt8
        = UInt8.ofNat (n / 256 ^ (7 - i)) := by
    intro i hi
    have hShift : (UInt64.ofNat (8 * (7 - i))).toNat = 8 * (7 - i) := by
      rw [UInt64.toNat_ofNat', Nat.mod_eq_of_lt (by omega)]
    rw [hByte _ (by omega), hShift, Nat.pow_mul]
  exact List.map_congr_left hEach

theorem pad_eq (message : Bytes) : message ++ padding message.length = Standard.pad message := by
  rw [padding, Standard.pad, find_zeros, bytesOfLength_eq, List.append_assoc]

theorem length_pad (message : Bytes) : 64 * ((Standard.pad message).length / 64)
    = (Standard.pad message).length := by
  have hZeros := find_zeros message.length
  simp only [Standard.pad, List.length_append, List.length_cons, List.length_replicate,
    List.length_map, List.length_range, hZeros]
  omega

/-- **The hash of a message is that of the standard.** -/
theorem hash_eq (message : Bytes) : hash message = Standard.hash message := by
  have hBlocks := absorb_take (Standard.pad message) (Nat.le_of_eq (length_pad message))
  rw [length_pad, List.take_length] at hBlocks
  rw [hash, pad_eq, hBlocks]
  rfl

end ProxyAudit.Sha256
