import Mathlib
import ProxyAudit.Text.Decimal
import ProxyAudit.Text.Hex

/-!
# Digits of numbers

What is known of the digits of a number wherever it is written: that they read back, in either case
and in a fixed width, and that they are plain characters.

Main results:

* `toNat?_ofNatPadded`  — a number of a fixed width reads back, in either case.
* `toDigits_eq`         — the digits of the library are the same.
* `plain_of_mem_ofNat`  — digits are plain characters.
-/

namespace ProxyAudit

-- ---------------------------------------------------------------------------
-- Hexadecimal digits
-- ---------------------------------------------------------------------------

namespace Hex

theorem value?_toUpper_digit {n : Nat} (h : n < 16) : value? (digit n).toUpper = some n := by
  have hall : ∀ m ∈ List.range 16, value? (digit m).toUpper = some m := by decide
  exact hall n (List.mem_range.mpr h)

/-- The digits may be written in any way in which each of them reads back. -/
theorem toNat?_map_ofNatPadded {form : Char → Char}
    (hForm : ∀ d < 16, value? (form (digit d)) = some d) {width n : Nat} (h : n < 16 ^ width) :
    toNat? ((ofNatPadded width n).map form) = some n := by
  induction width generalizing n with
  | zero =>
    obtain rfl : n = 0 := by omega
    rfl
  | succ w ih =>
    have hFront := ih (n := n / 16) (by rw [Nat.pow_succ] at h; omega)
    have hLast := hForm (n % 16) (by omega)
    have hSum : 16 * (n / 16) + n % 16 = n := by omega
    rw [toNat?] at hFront ⊢
    simp [ofNatPadded, List.foldlM_append, hFront, hLast, hSum]

theorem toNat?_ofNatPadded {width n : Nat} (h : n < 16 ^ width) :
    toNat? (ofNatPadded width n) = some n := by
  rw [← List.map_id (ofNatPadded width n)]
  exact toNat?_map_ofNatPadded (fun _ hd => value?_digit hd) h

theorem toNat?_toUpper_ofNatPadded {width n : Nat} (h : n < 16 ^ width) :
    toNat? ((ofNatPadded width n).map Char.toUpper) = some n :=
  toNat?_map_ofNatPadded (fun _ hd => value?_toUpper_digit hd) h

/-- The digits of the library. -/
theorem toDigits_eq (n : Nat) : Nat.toDigits 16 n = ofNat n := by
  have hDigit : ∀ m < 16, Nat.digitChar m = digit m := by decide
  induction n using Nat.strongRecOn with
  | ind n ih =>
    rw [Nat.toDigits_eq_if (by decide), ofNat]
    split
    · next hSmall => rw [hDigit n hSmall]
    · next hLarge => rw [ih (n / 16) (by omega), hDigit _ (by omega)]

/-- What is known of a digit on the wire. -/
theorem plain_of_mem_ofNat {n : Nat} {c : Char} (h : c ∈ ofNat n) :
    c.toNat < 128 ∧ c.toLower = c ∧ isDigit c = true ∧ c.toUInt8 ≠ 10 := by
  have hAll : ∀ d < 16, (digit d).toNat < 128 ∧ (digit d).toLower = digit d ∧
      isDigit (digit d) = true ∧ (digit d).toUInt8 ≠ 10 := by decide
  obtain ⟨d, hd, rfl⟩ := exists_digit_of_mem_ofNat h
  exact hAll d hd

theorem toLower_ofNat (n : Nat) : (ofNat n).map Char.toLower = ofNat n := by
  conv_rhs => rw [← List.map_id (ofNat n)]
  exact List.map_congr_left fun c hc => (plain_of_mem_ofNat hc).2.1

end Hex

-- ---------------------------------------------------------------------------
-- Decimal digits
-- ---------------------------------------------------------------------------

namespace Decimal

/-- A status has three digits. -/
theorem ofNat_of_three {n : Nat} (hLow : 100 ≤ n) (hHigh : n < 1000) :
    ofNat n = [digit (n / 10 / 10), digit (n / 10 % 10), digit (n % 10)] := by
  rw [ofNat, if_neg (by omega), ofNat, if_neg (by omega), ofNat, if_pos (by omega)]
  rfl

theorem exists_digit_of_isDigit {c : Char} (h : isDigit c = true) : ∃ d < 10, c = digit d := by
  unfold isDigit value? at h
  split at h
  · next hRange =>
    have hLow : 48 ≤ c.toNat := UInt32.le_iff_toNat_le.mp hRange.1
    have hHigh : c.toNat ≤ 57 := UInt32.le_iff_toNat_le.mp hRange.2
    refine ⟨c.toNat - 48, by omega, ?_⟩
    rw [digit, Nat.add_sub_cancel' hLow, Char.ofNat_toNat]
  · contradiction

/-- What is known of a digit on the wire. -/
theorem plain_of_mem_ofNat {n : Nat} {c : Char} (h : c ∈ ofNat n) :
    c.toNat < 128 ∧ c.toLower = c ∧ c ≠ ' ' ∧ c.toUInt8 ≠ 10 ∧ c.toUInt8 ≠ 32 ∧ c.toUInt8 ≠ 9 := by
  have hAll : ∀ d < 10, (digit d).toNat < 128 ∧ (digit d).toLower = digit d ∧ digit d ≠ ' ' ∧
      (digit d).toUInt8 ≠ 10 ∧ (digit d).toUInt8 ≠ 32 ∧ (digit d).toUInt8 ≠ 9 := by decide
  obtain ⟨d, hd, rfl⟩ := exists_digit_of_isDigit (isDigit_of_mem_ofNat h)
  exact hAll d hd

theorem toLower_ofNat (n : Nat) : (ofNat n).map Char.toLower = ofNat n := by
  conv_rhs => rw [← List.map_id (ofNat n)]
  exact List.map_congr_left fun c hc => (plain_of_mem_ofNat hc).2.1

end Decimal

end ProxyAudit
