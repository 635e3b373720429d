import Mathlib
import ProxyAudit.Text.Decimal
import ProxyAudit.Toml.Number

/-!
# Written numbers read back

A number may start as a date, a time or a floating point number does, and the reader tries these
first. A whole number in decimal that stands at the end of its line is none of them.

Main results:

* `readDateTime?_digits`  — digits alone are no date.
* `readNumber?_ofNat`     — a number that a document can hold reads as the integer.
-/

namespace ProxyAudit.Toml

variable {cs rest : List Char}

-- ---------------------------------------------------------------------------
-- Dates
-- ---------------------------------------------------------------------------

/-- Only digits. -/
def Digits (cs : List Char) : Prop :=
  ∀ c ∈ cs, Decimal.isDigit c = true

theorem digits_ofNat (n : Nat) : Digits (Decimal.ofNat n) :=
  fun _ hc => Decimal.isDigit_of_mem_ofNat hc

/-- After some of the digits of a line comes a digit or the end of the line, and no mark of a date
or a time. -/
theorem expect?_of_fixedDigits? (hDigits : Digits cs) (mark : Char)
    (hMark : Decimal.isDigit mark = false) (hEnd : mark ≠ '\n') {width n m : Nat} {after : List Char}
    (h : fixedDigits? width n (cs ++ '\n' :: rest) = some (m, after)) :
    expect? mark after = none := by
  induction width generalizing cs n with
  | zero =>
    obtain ⟨-, rfl⟩ : n = m ∧ cs ++ '\n' :: rest = after := by simpa [fixedDigits?] using h
    cases cs with
    | nil => exact if_neg (Ne.symm hEnd)
    | cons c cs => exact if_neg (Decimal.ne_of_isDigit (hDigits c (by simp)) hMark)
  | succ width ih =>
    cases cs with
    | nil => simp [fixedDigits?, Decimal.value?] at h
    | cons c cs =>
      obtain ⟨d, -, hMore⟩ := Option.bind_eq_some_iff.mp h
      exact ih (List.forall_mem_cons.mp hDigits).2 hMore

theorem readDateTime?_digits (hDigits : Digits cs) (rest : List Char) :
    readDateTime? (cs ++ '\n' :: rest) = none := by
  -- a year would be followed by a dash, and an hour by a colon
  have hDate : skipDate? (cs ++ '\n' :: rest) = none := by
    rw [skipDate?]
    cases hYear : fixedDigits? 4 0 (cs ++ '\n' :: rest) with
    | none => rfl
    | some year =>
      have hMark := expect?_of_fixedDigits? hDigits '-' (by decide) (by decide) hYear
      simp [hMark]
  have hTime : skipTime? (cs ++ '\n' :: rest) = none := by
    rw [skipTime?]
    cases hHour : fixedDigits? 2 0 (cs ++ '\n' :: rest) with
    | none => rfl
    | some hour =>
      have hMark := expect?_of_fixedDigits? hDigits ':' (by decide) (by decide) hHour
      simp [hMark]
  rw [readDateTime?, skipDateTime?, hDate, hTime]
  rfl

-- ---------------------------------------------------------------------------
-- Whole numbers
-- ---------------------------------------------------------------------------

/-- The digits of a line are read up to its end, and stand for the same number. -/
theorem exists_moreDigits (hDigits : Digits cs) (rest : List Char) :
    ∃ ds, moreDigits Decimal.value? (cs ++ '\n' :: rest) = (ds, '\n' :: rest) ∧
      ∀ n, cs.foldlM (fun n c => (Decimal.value? c).map (10 * n + ·)) n
        = some (ds.foldl (10 * · + ·) n) := by
  induction cs with
  | nil => exact ⟨[], by simp [moreDigits, Decimal.value?], fun _ => rfl⟩
  | cons c cs ih =>
    obtain ⟨hFirst, hMore⟩ := List.forall_mem_cons.mp hDigits
    obtain ⟨ds, hRead, hNumber⟩ := ih hMore
    obtain ⟨d, hd⟩ := Option.isSome_iff_exists.mp hFirst
    have hPlain : c ≠ '_' := Decimal.ne_of_isDigit hFirst (by decide)
    refine ⟨d :: ds, ?_, fun n => ?_⟩
    · simp [moreDigits, hPlain, hd, hRead]
    · simp [hd, hNumber]

theorem plainDigits?_ofNat (n : Nat) (rest : List Char) :
    ∃ ds, plainDigits? (Decimal.ofNat n ++ '\n' :: rest) = some (ds, '\n' :: rest) ∧
      ofDigits 10 ds = n := by
  by_cases hZero : n = 0
  · subst hZero
    exact ⟨[0], by rw [Decimal.ofNat_zero]; rfl, rfl⟩
  · -- a number that is not zero has no zero in front
    have hNumber := Decimal.foldlM_ofNat n
    have hHead := Decimal.head?_ofNat_ne hZero
    cases hCs : Decimal.ofNat n with
    | nil => exact absurd hCs (Decimal.ofNat_ne_nil n)
    | cons c cs =>
      rw [hCs] at hNumber hHead
      obtain ⟨hFirst, hMore⟩ := List.forall_mem_cons.mp (hCs ▸ digits_ofNat n)
      obtain ⟨d, hd⟩ := Option.isSome_iff_exists.mp hFirst
      obtain ⟨ds, hRead, hSum⟩ := exists_moreDigits hMore rest
      have hNotZero : c ≠ '0' := by simpa using hHead
      refine ⟨d :: ds, ?_, ?_⟩
      · simp [plainDigits?, hNotZero, digits?, hd, hRead]
      · simpa [hd, hSum, ofDigits] using hNumber

/-- A digit is no sign. -/
theorem sign_of_isDigit {c : Char} (h : Decimal.isDigit c = true) (cs : List Char) :
    sign (c :: cs) = (false, c :: cs) := by
  unfold sign
  split
  · next heq =>
    cases heq
    exact absurd h (by decide)
  · next heq =>
    cases heq
    exact absurd h (by decide)
  · rfl

/-- A digit starts none of the values that are no finite numbers. -/
theorem readSpecialFloat?_of_isDigit {c : Char} (h : Decimal.isDigit c = true) (cs : List Char) :
    readSpecialFloat? (c :: cs) = none := by
  rw [readSpecialFloat?, sign_of_isDigit h]
  split
  · next heq =>
    obtain ⟨-, rfl, -⟩ : _ ∧ c = 'i' ∧ _ := by simpa using heq
    exact absurd h (by decide)
  · next heq =>
    obtain ⟨-, rfl, -⟩ : _ ∧ c = 'n' ∧ _ := by simpa using heq
    exact absurd h (by decide)
  · rfl

/-- A number of a line does not look like one in another base. -/
theorem ofNat_ne_base (n : Nat) (rest : List Char) (mark : Char) (hMark : mark ≠ '\n')
    (after : List Char) : Decimal.ofNat n ++ '\n' :: rest ≠ '0' :: mark :: after := by
  by_cases hZero : n = 0
  · subst hZero
    rw [Decimal.ofNat_zero]
    simpa using fun h => absurd h.symm hMark
  · have hHead := Decimal.head?_ofNat_ne hZero
    obtain ⟨c, cs, hCs⟩ := List.exists_cons_of_ne_nil (Decimal.ofNat_ne_nil n)
    rw [hCs] at hHead ⊢
    intro hSame
    exact hHead (by simp [(List.cons.inj hSame).1])

/-- **A number of a line** reads as an integer, and as nothing else. -/
theorem readNumber?_ofNat {n : Nat} (h : n ≤ maxInteger) (rest : List Char) :
    readNumber? (Decimal.ofNat n ++ '\n' :: rest) = some (.integer n, '\n' :: rest) := by
  have hDate := readDateTime?_digits (digits_ofNat n) rest
  have hBase := ofNat_ne_base n rest
  obtain ⟨ds, hRead, hNumber⟩ := plainDigits?_ofNat n rest
  obtain ⟨c, cs, hCs, hDigit⟩ := Decimal.exists_digit n
  obtain ⟨line, hLine⟩ : ∃ line, cs ++ '\n' :: rest = line := ⟨_, rfl⟩
  have hSign := sign_of_isDigit hDigit line
  rw [hCs, List.cons_append, hLine] at hDate hRead ⊢
  simp only [hCs, List.cons_append, hLine] at hBase
  -- neither a fraction nor an exponent follows
  have hFloat : readDecimalFloat? (c :: line) = none := by
    simp [readDecimalFloat?, hSign, hRead, readFraction?, readExponent?]
  -- and no base, so the digits are read as they are
  have hInteger : readInteger? (c :: line) = some (.integer n, '\n' :: rest) := by
    have hFits : isInteger n = true := by
      simp [isInteger]
      omega
    rw [readInteger?]
    · simp [hSign, hRead, hNumber, integerValue?, hFits]
    · exact hBase 'x' (by decide)
    · exact hBase 'o' (by decide)
    · exact hBase 'b' (by decide)
  rw [readNumber?, hDate, hFloat, readSpecialFloat?_of_isDigit hDigit, hInteger]
  rfl

end ProxyAudit.Toml
