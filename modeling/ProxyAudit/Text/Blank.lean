/-!
# White space

The white space of Unicode (the property `White_Space`), and the cutting of a text at it.

Main results:

* `isBlank_of_isWhitespace`  — the ASCII white space of the core library is white space here.
* `firstToken_append`        — leading white space does not change the first token.
-/

namespace ProxyAudit.Text

/-- Tells the Unicode white space characters from all others. -/
def isBlank (c : Char) : Bool :=
  let n := c.toNat
  (0x09 ≤ n && n ≤ 0x0d) || n == 0x20 || n == 0x85 || n == 0xa0 || n == 0x1680
    || (0x2000 ≤ n && n ≤ 0x200a) || n == 0x2028 || n == 0x2029 || n == 0x202f || n == 0x205f
    || n == 0x3000

/-- The first run of characters between white space; empty if there is none. -/
def firstToken (cs : List Char) : List Char :=
  (cs.dropWhile isBlank).takeWhile (!isBlank ·)

/-- A text that holds nothing but white space. -/
def isAllBlank (s : String) : Bool :=
  s.toList.all isBlank

theorem isBlank_of_isWhitespace {c : Char} (h : c.isWhitespace) : isBlank c := by
  simp only [Char.isWhitespace, Bool.or_eq_true, decide_eq_true_eq] at h
  rcases h with ((h | h) | h) | h <;> subst h <;> decide

theorem dropWhile_append_of_all {α : Type} (p : α → Bool) {w cs : List α} (h : ∀ c ∈ w, p c) :
    (w ++ cs).dropWhile p = cs.dropWhile p := by
  induction w with
  | nil => rfl
  | cons c w ih =>
    have hc : p c = true := h c (by simp)
    simp [hc, ih fun d hd => h d (by simp [hd])]

theorem firstToken_append {w : List Char} (cs : List Char) (h : ∀ c ∈ w, isBlank c) :
    firstToken (w ++ cs) = firstToken cs := by
  rw [firstToken, firstToken, dropWhile_append_of_all isBlank h]

end ProxyAudit.Text
