/-!
# Decimal numbers

Whole numbers are written in decimal without leading zeros. Reading takes any run of digits.

Main results:

* `value?_digit`     — a written digit reads back.
* `toNat?_ofNat`     — a written number reads back.
* `ofNat_append_inj` — it ends where the digits end.
* `head?_ofNat_ne`   — a number but zero is written without a leading zero.
-/

namespace ProxyAudit.Decimal

/-- The digit of a number below ten. -/
def digit (n : Nat) : Char :=
  Char.ofNat (48 + n)

def value? (c : Char) : Option Nat :=
  if '0' ≤ c ∧ c ≤ '9' then some (c.toNat - 48) else none

/-- Tells the ASCII digits from all other characters. -/
def isDigit (c : Char) : Bool :=
  (value? c).isSome

/-- The digits of a number, most significant first. -/
def ofNat (n : Nat) : List Char :=
  if n < 10 then [digit n] else ofNat (n / 10) ++ [digit (n % 10)]

def text (n : Nat) : String :=
  String.ofList (ofNat n)

/-- The number that a non-empty run of digits spells. -/
def toNat? : List Char → Option Nat
  | [] => none
  | cs => cs.foldlM (fun n c => (value? c).map (10 * n + ·)) 0

/-- A number with leading zeros up to a given width. -/
def ofNatPadded (width n : Nat) : List Char :=
  let ds := ofNat n
  List.replicate (width - ds.length) '0' ++ ds

theorem value?_digit {n : Nat} (h : n < 10) : value? (digit n) = some n := by
  have hall : ∀ m ∈ List.range 10, value? (digit m) = some m := by decide
  exact hall n (List.mem_range.mpr h)

theorem ofNat_ne_nil (n : Nat) : ofNat n ≠ [] := by
  unfold ofNat
  split <;> simp

theorem ofNat_zero : ofNat 0 = ['0'] := by
  rw [ofNat]
  rfl

theorem foldlM_ofNat (n : Nat) :
    (ofNat n).foldlM (fun m c => (value? c).map (10 * m + ·)) 0 = some n := by
  induction n using Nat.strongRecOn with
  | ind n ih =>
    unfold ofNat
    split
    · next h => simp [value?_digit h]
    · next h =>
      have hdiv := ih (n / 10) (by omega)
      have hlast : value? (digit (n % 10)) = some (n % 10) := value?_digit (by omega)
      have hsum : 10 * (n / 10) + n % 10 = n := by omega
      simp [List.foldlM_append, hdiv, hlast, hsum]

theorem toNat?_ofNat (n : Nat) : toNat? (ofNat n) = some n := by
  have hne := ofNat_ne_nil n
  cases h : ofNat n with
  | nil => exact absurd h hne
  | cons c cs => rw [toNat?, ← h, foldlM_ofNat]; simp

theorem isDigit_digit {n : Nat} (h : n < 10) : isDigit (digit n) = true := by
  rw [isDigit, value?_digit h, Option.isSome_some]

theorem isDigit_of_mem_ofNat {n : Nat} {c : Char} (h : c ∈ ofNat n) : isDigit c = true := by
  induction n using Nat.strongRecOn with
  | ind n ih =>
    unfold ofNat at h
    split at h
    · next hSmall =>
      rw [List.mem_singleton.mp h]
      exact isDigit_digit hSmall
    · next hLarge =>
      rcases List.mem_append.mp h with hFront | hLast
      · exact ih (n / 10) (by omega) hFront
      · rw [List.mem_singleton.mp hLast]
        exact isDigit_digit (by omega)

/-- A number starts with a digit. -/
theorem exists_digit (n : Nat) : ∃ c cs, ofNat n = c :: cs ∧ isDigit c = true := by
  cases hDigits : ofNat n with
  | nil => exact absurd hDigits (ofNat_ne_nil n)
  | cons c cs => exact ⟨c, cs, rfl, isDigit_of_mem_ofNat (n := n) (by simp [hDigits])⟩

theorem ne_of_isDigit {c d : Char} (hc : isDigit c = true) (hd : isDigit d = false) : c ≠ d := by
  rintro rfl
  rw [hc] at hd
  contradiction

/-- The digits of a number end where another character stands. -/
theorem takeWhile_ofNat_append (n : Nat) {rest : List Char}
    (h : ∀ c ∈ rest.head?, isDigit c = false) : (ofNat n ++ rest).takeWhile isDigit = ofNat n := by
  rw [List.takeWhile_append_of_pos fun c hc => isDigit_of_mem_ofNat hc]
  cases rest with
  | nil => simp
  | cons c rest => simp [h c rfl]

theorem dropWhile_ofNat_append (n : Nat) {rest : List Char}
    (h : ∀ c ∈ rest.head?, isDigit c = false) : (ofNat n ++ rest).dropWhile isDigit = rest := by
  rw [List.dropWhile_append_of_pos fun c hc => isDigit_of_mem_ofNat hc]
  cases rest with
  | nil => rfl
  | cons c rest => simp [h c rfl]

/-- A number is found again at the start of a text in which no digit follows it. -/
theorem ofNat_append_inj {m n : Nat} {rest rest' : List Char}
    (h : ∀ c ∈ rest.head?, isDigit c = false) (h' : ∀ c ∈ rest'.head?, isDigit c = false)
    (hSame : ofNat m ++ rest = ofNat n ++ rest') : m = n := by
  have hDigits := takeWhile_ofNat_append m h
  rw [hSame, takeWhile_ofNat_append n h'] at hDigits
  have hNumber := toNat?_ofNat m
  rw [← hDigits, toNat?_ofNat] at hNumber
  exact (Option.some.inj hNumber).symm

theorem head?_ofNat_ne {n : Nat} (h : n ≠ 0) : (ofNat n).head? ≠ some '0' := by
  induction n using Nat.strongRecOn with
  | ind n ih =>
    unfold ofNat
    split
    · next hSmall =>
      have hDigits : ∀ m ∈ List.range 10, m ≠ 0 → [digit m].head? ≠ some '0' := by decide
      exact hDigits n (List.mem_range.mpr hSmall) h
    · next hLarge =>
      have hFront := ih (n / 10) (by omega) (by omega)
      cases hDigits : ofNat (n / 10) with
      | nil => exact absurd hDigits (ofNat_ne_nil _)
      | cons c cs => simpa [hDigits] using hFront

end ProxyAudit.Decimal
