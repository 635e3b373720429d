import Mathlib
import ProxyAudit.Fetch.Body

/-!
# Hashing piece by piece

A sink keeps the state after the whole blocks and the bytes after the last of them, so that it
does not matter where a body is cut into pieces: the digest is that of the whole body. Of the
number of bytes a sink keeps a word; the padding of a message depends on no more than that.

Main results:

* `absorb_append`         — blocks may be taken from the front before the rest has come.
* `updateAll_eq_after`    — a sink knows the bytes that went in, not the pieces.
* `ofPieces_eq`           — a body that arrived in pieces has the digest of the whole.
-/

namespace ProxyAudit

namespace Sha256

theorem absorb_of_lt (s : State) {bs : Bytes} (h : bs.length < 64) : absorb s bs = (s, bs) := by
  have hNone : bs.drop 63 = [] := List.drop_eq_nil_iff.mpr (by omega)
  rw [absorb]
  split
  · rfl
  · next hSome =>
    rw [hNone] at hSome
    contradiction

/-- A whole block is taken from the front. -/
theorem absorb_of_le (s : State) {bs : Bytes} (h : 64 ≤ bs.length) :
    absorb s bs = absorb (compress s (bs.take 64)) (bs.drop 64) := by
  rw [absorb]
  split
  · next hNone =>
    have := List.drop_eq_nil_iff.mp hNone
    omega
  · rfl

/-- **Blocks may be taken early.** What has come is absorbed first, and what is left of it goes in
front of the rest. -/
theorem absorb_append (s : State) (xs ys : Bytes) :
    absorb s (xs ++ ys) = absorb (absorb s xs).1 ((absorb s xs).2 ++ ys) := by
  -- by induction on the length of what has come, one block at a time
  induction hn : xs.length using Nat.strong_induction_on generalizing s xs with
  | _ n ih =>
    rcases Nat.lt_or_ge xs.length 64 with hShort | hLong
    · rw [absorb_of_lt s hShort]
    · have hLonger : 64 ≤ (xs ++ ys).length := by
        rw [List.length_append]
        omega
      have hRest : (xs.drop 64).length < n := by
        rw [List.length_drop]
        omega
      rw [absorb_of_le s hLong, absorb_of_le s hLonger, List.take_append_of_le_length hLong,
        List.drop_append_of_le_length hLong]
      exact ih _ hRest (compress s (xs.take 64)) (xs.drop 64) rfl

/-- The padding of a message depends on no more than a word of its length. -/
theorem padding_toNat_ofNat (n : Nat) : padding (UInt64.ofNat n).toNat = padding n := by
  have hRest : (UInt64.ofNat n).toNat % 64 = n % 64 := by
    rw [UInt64.toNat_ofNat']
    omega
  have hBits : UInt64.ofNat (8 * (UInt64.ofNat n).toNat) = UInt64.ofNat (8 * n) := by
    rw [← UInt64.toNat_inj, UInt64.toNat_ofNat', UInt64.toNat_ofNat', UInt64.toNat_ofNat']
    omega
  rw [padding, padding, hRest, hBits]

end Sha256

namespace DigestSink

def after (message : Bytes) : DigestSink where
  state := (Sha256.absorb .initial message).1
  pending := (Sha256.absorb .initial message).2
  bytes := UInt64.ofNat message.length

theorem update_after (message piece : Bytes) :
    (after message).update piece = after (message ++ piece) := by
  simp only [update, after, ← Sha256.absorb_append, List.length_append, UInt64.ofNat_add]

/-- **Pieces do not matter.** A sink knows the bytes that went in, not where they were cut. -/
theorem updateAll_eq_after (pieces : List Bytes) : empty.updateAll pieces = after pieces.flatten := by
  have hEmpty : empty = after [] := by
    simp [empty, after, Sha256.absorb_of_lt]
  have hFrom (message : Bytes) :
      (after message).updateAll pieces = after (message ++ pieces.flatten) := by
    induction pieces generalizing message with
    | nil => simp [updateAll]
    | cons piece pieces ih =>
      have := ih (message ++ piece)
      rw [← update_after] at this
      simpa [updateAll, List.append_assoc] using this
  rw [hEmpty, hFrom, List.nil_append]

theorem finish_after (message : Bytes) : (after message).finish = Digest.ofBytes message := by
  have hPadded : (after message).padding = Sha256.padding message.length :=
    Sha256.padding_toNat_ofNat message.length
  simp only [finish, Digest.ofBytes, Sha256.hash, hPadded, Sha256.absorb_append .initial message]
  rfl

end DigestSink

/-- **A body in pieces is the whole body.** -/
theorem FetchedBody.ofPieces_eq (pieces : List Bytes) :
    ofPieces pieces = ⟨Digest.ofBytes pieces.flatten, UInt64.ofNat pieces.flatten.length⟩ := by
  rw [ofPieces, ofSink, DigestSink.updateAll_eq_after, DigestSink.finish_after]
  rfl

end ProxyAudit
