/-!
# Punycode

The encoding of RFC 3492 writes a text with characters beyond ASCII in letters, digits and
hyphens: first the ASCII characters, then, as numbers of variable length, where the others go.

Main results:

* `digitValue?_digitChar`  — a written digit reads back.
-/

namespace ProxyAudit.Punycode

/-- Numbers in the encoding stay below 2^32. -/
def limit : Nat := 0x100000000

-- ---------------------------------------------------------------------------
-- Digits
-- ---------------------------------------------------------------------------

/-- The character of a digit: the letters stand for 0 to 25, the digits for 26 to 35. -/
def digitChar (d : Nat) : Char :=
  if d < 26 then Char.ofNat (97 + d) else Char.ofNat (22 + d)

/-- The digit a character stands for; letters of either case are alike. -/
def digitValue? (c : Char) : Option Nat :=
  if 'a' ≤ c ∧ c ≤ 'z' then some (c.toNat - 97)
  else if 'A' ≤ c ∧ c ≤ 'Z' then some (c.toNat - 65)
  else if '0' ≤ c ∧ c ≤ '9' then some (c.toNat - 22)
  else none

theorem digitValue?_digitChar {d : Nat} (h : d < 36) : digitValue? (digitChar d) = some d := by
  have hall : ∀ e ∈ List.range 36, digitValue? (digitChar e) = some e := by decide
  exact hall d (List.mem_range.mpr h)

/-- The digit below which a number ends, at a place counted in steps of 36. -/
def threshold (place bias : Nat) : Nat :=
  if place ≤ bias then 1 else if bias + 26 ≤ place then 26 else place - bias

theorem threshold_pos (place bias : Nat) : 1 ≤ threshold place bias := by
  unfold threshold
  repeat' split
  all_goals omega

theorem threshold_le (place bias : Nat) : threshold place bias ≤ 26 := by
  unfold threshold
  repeat' split
  all_goals omega

/-- Divides by 35 until at most 455 is left, counting 36 for each division. -/
def shrink (delta count : Nat) : Nat × Nat :=
  if 455 < delta then shrink (delta / 35) (count + 36) else (delta, count)
termination_by delta

/-- The bias for the next number, from the size of the last one. -/
def adapt (delta points : Nat) (first : Bool) : Nat :=
  let halved := if first then delta / 700 else delta / 2
  let (rest, count) := shrink (halved + halved / points) 0
  count + 36 * rest / (rest + 38)

-- ---------------------------------------------------------------------------
-- Decoding
-- ---------------------------------------------------------------------------

def readNumber? (bias place weight sum : Nat) : List Char → Option (Nat × List Char)
  | [] => none
  | c :: rest =>
    match digitValue? c with
    | none => none
    | some d =>
      let t := threshold place bias
      if limit ≤ sum + d * weight then none
      else if d < t then some (sum + d * weight, rest)
      else if limit ≤ weight * (36 - t) then none
      else readNumber? bias (place + 36) (weight * (36 - t)) (sum + d * weight) rest

theorem readNumber?_shorter {bias place weight sum n : Nat} {cs rest : List Char}
    (h : readNumber? bias place weight sum cs = some (n, rest)) : rest.length < cs.length := by
  induction cs generalizing place weight sum with
  | nil => simp [readNumber?] at h
  | cons c cs ih =>
    unfold readNumber? at h
    split at h
    · contradiction
    · dsimp only at h
      split at h
      · contradiction
      · split at h
        · simp only [Option.some.injEq, Prod.mk.injEq] at h
          simp [h.2]
        · split at h
          · contradiction
          · exact Nat.lt_succ_of_lt (ih h)

/-- Inserts the characters that the numbers stand for, in the order of their code points. -/
def insertAll? (point index bias : Nat) (out : List Char) (first : Bool) (cs : List Char) :
    Option (List Char) :=
  match cs with
  | [] => some out
  | c :: more =>
    match _h : readNumber? bias 36 1 0 (c :: more) with
    | none => none
    | some (delta, rest) =>
      let count := out.length + 1
      let sum := index + delta
      let point := point + sum / count
      if limit ≤ sum ∨ ¬ point.isValidChar then none
      else
        insertAll? point (sum % count + 1) (adapt delta count first)
          (out.insertIdx (sum % count) (Char.ofNat point)) false rest
termination_by cs.length
decreasing_by exact readNumber?_shorter _h

/-- Splits at the last hyphen, which must not come first. -/
def splitLastHyphen (cs : List Char) : List Char × List Char :=
  let tail := (cs.reverse.takeWhile (· ≠ '-')).reverse
  let base := cs.take (cs.length - tail.length - 1)
  if tail.length = cs.length ∨ base.isEmpty then ([], cs) else (base, tail)

/-- The text that an encoded text stands for. -/
def decode? (cs : List Char) : Option (List Char) :=
  let (base, tail) := splitLastHyphen cs
  if base.any (128 ≤ ·.toNat) then none else insertAll? 128 0 72 base true tail

-- ---------------------------------------------------------------------------
-- Encoding
-- ---------------------------------------------------------------------------

def writeNumber (bias place n : Nat) : List Char :=
  let t := threshold place bias
  if n < t then [digitChar n]
  else digitChar (t + (n - t) % (36 - t)) :: writeNumber bias (place + 36) ((n - t) / (36 - t))
termination_by n
decreasing_by
  have h1 := threshold_pos place bias
  have h2 : (n - threshold place bias) / (36 - threshold place bias)
      ≤ n - threshold place bias := Nat.div_le_self _ _
  omega

/-- Where an encoding stands: what is written, the distance to the next insertion, the bias, and
how many characters have been handled. -/
structure Progress where
  out : List Char
  delta : Nat
  bias : Nat
  handled : Nat

/-- Passes one character of the text while the given code point is inserted. -/
def Progress.pass (base point : Nat) (p : Progress) (c : Char) : Progress :=
  if c.toNat < point then { p with delta := p.delta + 1 }
  else if c.toNat = point then
    { out := p.out ++ writeNumber p.bias 36 p.delta
      delta := 0
      bias := adapt p.delta (p.handled + 1) (p.handled == base)
      handled := p.handled + 1 }
  else p

/-- Encodes the occurrences of the given code points, in ascending order. -/
def encodePoints (cs : List Char) (base : Nat) : List Nat → Nat → Progress → Progress
  | [], _, p => p
  | point :: more, last, p =>
    let p := { p with delta := p.delta + (point - last) * (p.handled + 1) }
    let p := cs.foldl (Progress.pass base point) p
    encodePoints cs base more (point + 1) { p with delta := p.delta + 1 }

/-- The encoded form of a text. -/
def encode (cs : List Char) : List Char :=
  let ascii := cs.filter (·.toNat < 128)
  let points := ((cs.map Char.toNat).filter (128 ≤ ·)).eraseDups.mergeSort (· ≤ ·)
  let start : Progress := ⟨[], 0, 72, ascii.length⟩
  (if ascii.isEmpty then [] else ascii ++ ['-'])
    ++ (encodePoints cs ascii.length points 128 start).out

end ProxyAudit.Punycode
