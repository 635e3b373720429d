import ProxyAudit.Text.Hex

/-!
# Tables of code points

A property of characters is constant on long runs of code points, so it is kept as the sorted
code points at which it changes. A table is written down as hexadecimal words: each word is the
distance from the change before it, followed in tables of several classes by a mark of the class
that begins there; no mark starts with a hexadecimal digit.

Looking a character up is a binary search for the number of changes at or below it: a set holds
the characters with an odd number, and a classification gives the class of the last one.
-/

namespace ProxyAudit.Text

-- ---------------------------------------------------------------------------
-- Searching
-- ---------------------------------------------------------------------------

/-- The place in a sorted array, between two bounds, of the first entry above a number. -/
def rankBetween (a : Array Nat) (n lo hi : Nat) : Nat :=
  if lo < hi then
    let mid := (lo + hi) / 2
    if a.getD mid 0 ≤ n then rankBetween a n (mid + 1) hi else rankBetween a n lo mid
  else lo
termination_by hi - lo

/-- How many entries of a sorted array are at most a given number. -/
def rank (a : Array Nat) (n : Nat) : Nat :=
  rankBetween a n 0 a.size

-- ---------------------------------------------------------------------------
-- Reading tables
-- ---------------------------------------------------------------------------

/-- The words of a table's text, which stand between spaces and line ends. -/
def words (text : String) : List (List Char) :=
  let grow (c : Char) (ws : List (List Char)) : List (List Char) :=
    match ws with
    | w :: rest => if c.isWhitespace then [] :: w :: rest else (c :: w) :: rest
    | [] => [[c]]
  (text.toList.foldr grow [[]]).filter (· ≠ [])

/-- Running sums: each distance becomes the place it leads to. -/
def places (gaps : List Nat) : List Nat :=
  (gaps.foldl (fun (here, out) g => (here + g, (here + g) :: out)) (0, [])).2.reverse

/-- The number a word starts with; a class mark after the digits does not count. -/
def wordNumber (w : List Char) : Nat :=
  (Hex.toNat? (w.takeWhile Hex.isDigit)).getD 0

-- ---------------------------------------------------------------------------
-- Sets and classifications
-- ---------------------------------------------------------------------------

/-- A set of characters, given by the code points at which membership changes. -/
structure CharSet where
  changes : Array Nat

/-- Reads a set from the distances between its changes. -/
def CharSet.ofText (text : String) : CharSet :=
  ⟨(places ((words text).map wordNumber)).toArray⟩

/-- A character is in the set if an odd number of changes lies at or below it. -/
def CharSet.contains (s : CharSet) (c : Char) : Bool :=
  rank s.changes c.toNat % 2 == 1

/-- A classification of characters: the code points where a class begins, and the classes. -/
structure CharClasses (α : Type) where
  starts : Array Nat
  classes : Array α

/-- Reads a classification whose words end in a class mark, as the given function takes it. -/
def CharClasses.ofText {α : Type} (classOf : List Char → α) (text : String) : CharClasses α :=
  let ws := words text
  { starts := (places (ws.map wordNumber)).toArray
    classes := (ws.map fun w => classOf (w.dropWhile Hex.isDigit)).toArray }

/-- The class of a character, with a default below the first entry. -/
def CharClasses.classOf {α : Type} (t : CharClasses α) (c : Char) (default : α) : α :=
  match rank t.starts c.toNat with
  | 0 => default
  | n + 1 => t.classes.getD n default

end ProxyAudit.Text
