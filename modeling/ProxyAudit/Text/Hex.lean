import ProxyAudit.Bytes

/-!
# Hexadecimal text

Two digits a byte, high half first. Writing uses lower case; reading takes either case.

Main results:

* `value?_digit`          — a written digit reads back.
* `read?_write`           — written bytes read back.
* `length_write`          — every byte takes two digits.
* `toNat?_ofNat`          — a written number reads back.
* `length_ofNatPadded`    — a number of a fixed width has so many digits.
-/

namespace ProxyAudit.Hex

-- ---------------------------------------------------------------------------
-- One digit
-- ---------------------------------------------------------------------------

/-- The lower-case digit of a number below sixteen. -/
def digit (n : Nat) : Char :=
  if n < 10 then Char.ofNat (48 + n) else Char.ofNat (87 + n)

/-- The value of a hexadecimal digit of either case. -/
def value? (c : Char) : Option Nat :=
  if '0' ≤ c ∧ c ≤ '9' then some (c.toNat - 48)
  else if 'a' ≤ c ∧ c ≤ 'f' then some (c.toNat - 87)
  else if 'A' ≤ c ∧ c ≤ 'F' then some (c.toNat - 55)
  else none

/-- Tells the hexadecimal digits from all other characters. -/
def isDigit (c : Char) : Bool :=
  (value? c).isSome

theorem value?_digit {n : Nat} (h : n < 16) : value? (digit n) = some n := by
  have hall : ∀ m ∈ List.range 16, value? (digit m) = some m := by decide
  exact hall n (List.mem_range.mpr h)

-- ---------------------------------------------------------------------------
-- Byte strings
-- ---------------------------------------------------------------------------

def write : Bytes → List Char
  | [] => []
  | b :: rest => digit (b.toNat / 16) :: digit (b.toNat % 16) :: write rest

/-- The bytes that an even number of hexadecimal digits spell. -/
def read? : List Char → Option Bytes
  | [] => some []
  | [_] => none
  | hi :: lo :: rest => do
    let h ← value? hi
    let l ← value? lo
    let bytes ← read? rest
    return UInt8.ofNat (16 * h + l) :: bytes

theorem length_write (b : Bytes) : (write b).length = 2 * b.length := by
  induction b with
  | nil => rfl
  | cons x rest ih => simp [write, ih]; omega

/-- Written bytes are digits throughout. -/
theorem exists_digit_of_mem_write {b : Bytes} {c : Char} (h : c ∈ write b) :
    ∃ n < 16, c = digit n := by
  induction b with
  | nil => cases h
  | cons x rest ih =>
    have hByte : x.toNat < 256 := x.toNat_lt
    rcases List.mem_cons.mp h with rfl | hMore
    · exact ⟨x.toNat / 16, by omega, rfl⟩
    rcases List.mem_cons.mp hMore with rfl | hRest
    · exact ⟨x.toNat % 16, by omega, rfl⟩
    · exact ih hRest

theorem read?_write (b : Bytes) : read? (write b) = some b := by
  induction b with
  | nil => rfl
  | cons x rest ih =>
    have hx : x.toNat < 256 := x.toNat_lt
    have hhi : value? (digit (x.toNat / 16)) = some (x.toNat / 16) := value?_digit (by omega)
    have hlo : value? (digit (x.toNat % 16)) = some (x.toNat % 16) := value?_digit (by omega)
    have hsum : 16 * (x.toNat / 16) + x.toNat % 16 = x.toNat := by omega
    simp only [write, read?, hhi, hlo, ih, bind, Option.bind_some, pure, hsum, UInt8.ofNat_toNat]

-- ---------------------------------------------------------------------------
-- Numbers
-- ---------------------------------------------------------------------------

/-- The digits of a number without leading zeros, zero being one digit. -/
def ofNat (n : Nat) : List Char :=
  if n < 16 then [digit n] else ofNat (n / 16) ++ [digit (n % 16)]

/-- The number that a run of hexadecimal digits spells; the empty run spells zero. -/
def toNat? (cs : List Char) : Option Nat :=
  cs.foldlM (fun n c => (value? c).map (16 * n + ·)) 0

/-- The last digits of a number, exactly so many. -/
def ofNatPadded (width n : Nat) : List Char :=
  match width with
  | 0 => []
  | w + 1 => ofNatPadded w (n / 16) ++ [digit (n % 16)]

theorem ofNat_ne_nil (n : Nat) : ofNat n ≠ [] := by
  unfold ofNat
  split <;> simp

/-- A written number reads back. -/
theorem toNat?_ofNat (n : Nat) : toNat? (ofNat n) = some n := by
  induction n using Nat.strongRecOn with
  | ind n ih =>
    unfold ofNat
    split
    · next hSmall => simp [toNat?, value?_digit hSmall]
    · next hLarge =>
      have hFront := ih (n / 16) (by omega)
      have hLast : value? (digit (n % 16)) = some (n % 16) := value?_digit (by omega)
      have hSum : 16 * (n / 16) + n % 16 = n := by omega
      rw [toNat?] at hFront ⊢
      simp [List.foldlM_append, hFront, hLast, hSum]

theorem exists_digit_of_mem_ofNat {n : Nat} {c : Char} (h : c ∈ ofNat n) :
    ∃ d < 16, c = digit d := by
  induction n using Nat.strongRecOn with
  | ind n ih =>
    unfold ofNat at h
    split at h
    · next hSmall => exact ⟨n, hSmall, List.mem_singleton.mp h⟩
    · next hLarge =>
      rcases List.mem_append.mp h with hFront | hLast
      · exact ih (n / 16) (by omega) hFront
      · exact ⟨n % 16, by omega, List.mem_singleton.mp hLast⟩

theorem length_ofNatPadded (width n : Nat) : (ofNatPadded width n).length = width := by
  induction width generalizing n with
  | zero => rfl
  | succ w ih => rw [ofNatPadded, List.length_append, ih, List.length_singleton]

end ProxyAudit.Hex
