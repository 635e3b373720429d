import ProxyAudit.Text.Decomposition

/-!
# Normal form C

Canonically equal texts have one composed form: every character is decomposed, the marks after a
letter are put into the order of their combining classes, and letters and marks are put together
again where a composed character exists.

Main results:

* `sortMarks_perm`  — ordering marks moves characters and changes none.
-/

namespace ProxyAudit.Text

-- ---------------------------------------------------------------------------
-- Hangul
-- ---------------------------------------------------------------------------

/-- The syllables of Hangul are numbered by their leading consonant, vowel and final consonant,
so they are taken apart by division. -/
def splitHangul? (c : Char) : Option (List Char) :=
  let n := c.toNat
  if n < 0xac00 ∨ 0xd7a3 < n then none
  else
    let i := n - 0xac00
    let pair := [Char.ofNat (0x1100 + i / 588), Char.ofNat (0x1161 + i % 588 / 28)]
    some (if i % 28 = 0 then pair else pair ++ [Char.ofNat (0x11a7 + i % 28)])

/-- Puts a leading consonant and a vowel together, or a syllable without a final consonant and a
final consonant. -/
def joinHangul? (a b : Char) : Option Char :=
  let m := a.toNat
  let n := b.toNat
  if 0x1100 ≤ m ∧ m ≤ 0x1112 ∧ 0x1161 ≤ n ∧ n ≤ 0x1175 then
    some (Char.ofNat (0xac00 + (m - 0x1100) * 588 + (n - 0x1161) * 28))
  else if 0xac00 ≤ m ∧ m ≤ 0xd7a3 ∧ (m - 0xac00) % 28 = 0 ∧ 0x11a8 ≤ n ∧ n ≤ 0x11c2 then
    some (Char.ofNat (m + (n - 0x11a7)))
  else none

-- ---------------------------------------------------------------------------
-- Decomposition
-- ---------------------------------------------------------------------------

/-- Decomposes a character, and what it decomposes into, so many steps deep. -/
def decomposeChar : Nat → Char → List Char
  | 0, c => [c]
  | depth + 1, c =>
    match decompositions.lookup? c with
    | some parts => parts.flatMap (decomposeChar depth)
    | none => (splitHangul? c).getD [c]

/-- The combining class of a character. -/
def combiningClass (c : Char) : Nat :=
  combiningClasses.classOf c 0

/-- Puts a mark before the marks of higher classes at the end of a reversed text. -/
def insertMark (c : Char) : List Char → List Char
  | [] => [c]
  | d :: rest =>
    if combiningClass c ≠ 0 ∧ combiningClass c < combiningClass d then d :: insertMark c rest
    else c :: d :: rest

/-- Puts the marks after each letter into the order of their classes; marks of one class keep
their order. -/
def sortMarks (cs : List Char) : List Char :=
  (cs.foldl (fun done c => insertMark c done) []).reverse

/-- The decomposed form of a text; no character decomposes more than four steps deep. -/
def decompose (cs : List Char) : List Char :=
  sortMarks (cs.flatMap (decomposeChar 4))

-- ---------------------------------------------------------------------------
-- Composition
-- ---------------------------------------------------------------------------

/-- The pairs that one character stands for, each with that character. -/
def compositions : Array (Char × Char × Char) :=
  decompositions.entries.filterMap fun e =>
    let c := Char.ofNat e.start
    match e.target with
    | [a, b] =>
      if compositionExclusions.contains c then none else some (Char.ofNat a, Char.ofNat b, c)
    | _ => none

/-- The character that two neighbours compose to. -/
def composePair? (a b : Char) : Option Char :=
  match compositions.find? (fun (x, y, _) => x == a && y == b) with
  | some (_, _, c) => some c
  | none => joinHangul? a b

/-- Composes a decomposed text. The letter under composition stands apart from the marks that
could not join it, which are kept last first. -/
def composeFrom (letter : Char) (kept : List Char) : List Char → List Char
  | [] => letter :: kept.reverse
  | c :: rest =>
    let blocked := match kept with
      | [] => false
      | d :: _ => combiningClass c ≤ combiningClass d
    match if blocked then none else composePair? letter c with
    | some joined => composeFrom joined kept rest
    | none =>
      if combiningClass c = 0 then letter :: (kept.reverse ++ composeFrom c [] rest)
      else composeFrom letter (c :: kept) rest

/-- The composed form of a decomposed text; marks before the first letter stay. -/
def compose : List Char → List Char
  | [] => []
  | c :: rest => if combiningClass c = 0 then composeFrom c [] rest else c :: compose rest

/-- Normal form C of a text. -/
def normalize (cs : List Char) : List Char :=
  compose (decompose cs)

theorem insertMark_perm (c : Char) (cs : List Char) : (insertMark c cs).Perm (c :: cs) := by
  induction cs with
  | nil => exact .refl _
  | cons d rest ih =>
    unfold insertMark
    split
    · exact (List.Perm.cons d ih).trans (List.Perm.swap c d rest)
    · exact .refl _

theorem sortMarks_perm (cs : List Char) : (sortMarks cs).Perm cs := by
  suffices h : ∀ done, (cs.foldl (fun done c => insertMark c done) done).Perm (cs.reverse ++ done) by
    have := h []
    rw [List.append_nil] at this
    exact (List.reverse_perm _).trans (this.trans (List.reverse_perm _))
  induction cs with
  | nil => intro done; exact .refl _
  | cons c rest ih =>
    intro done
    refine (ih (insertMark c done)).trans ?_
    rw [List.reverse_cons, List.append_assoc]
    exact List.Perm.append_left _ (insertMark_perm c done)

end ProxyAudit.Text
