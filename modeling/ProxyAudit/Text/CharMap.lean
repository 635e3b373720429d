import ProxyAudit.Text.CodePoints

/-!
# Maps from characters to texts

A replacement table lists the characters that are replaced, in order, with what replaces them.
Neighbours are often replaced by neighbours, so an entry may stand for a run of characters, next
to each other or every second one, whose replacements keep the distance.

An entry is written as a word: the distance from the entry before, `+` or `*` and the length for
a run of neighbours or of every second character, a colon, and the code points of the first
replacement with points between them.
-/

namespace ProxyAudit.Text

/-- A run of characters that are replaced alike. -/
structure Replacement where
  start : Nat
  count : Nat
  stride : Nat
  target : List Nat
  deriving Repr

/-- What an entry puts in place of a code point, if it stands for it. -/
def Replacement.replace? (r : Replacement) (n : Nat) : Option (List Char) :=
  let k := n - r.start
  if n < r.start ∨ k % r.stride ≠ 0 ∨ r.count ≤ k / r.stride then none
  else some (r.target.map fun t => Char.ofNat (t + k))

/-- A table of replacements in the order of what they replace. -/
structure CharMap where
  starts : Array Nat
  entries : Array Replacement

namespace CharMap

/-- The numbers between points. -/
def pointed (cs : List Char) : List Nat :=
  let grow (c : Char) (ws : List (List Char)) : List (List Char) :=
    match ws with
    | w :: rest => if c = '.' then [] :: w :: rest else (c :: w) :: rest
    | [] => [[c]]
  (cs.foldr grow [[]]).map wordNumber

/-- Reads the part of a word after the distance. -/
def readEntry (start : Nat) (rest : List Char) : Replacement :=
  match rest with
  | '+' :: more =>
    { start, count := wordNumber more, stride := 1
      target := pointed (more.dropWhile Hex.isDigit).tail }
  | '*' :: more =>
    { start, count := wordNumber more, stride := 2
      target := pointed (more.dropWhile Hex.isDigit).tail }
  | _ => { start, count := 1, stride := 1, target := pointed rest.tail }

def ofText (text : String) : CharMap :=
  let ws := words text
  let starts := places (ws.map wordNumber)
  { starts := starts.toArray
    entries := (starts.zip ws).toArray.map fun (start, w) =>
      readEntry start (w.dropWhile Hex.isDigit) }

/-- What a table puts in place of a character, if anything. -/
def lookup? (m : CharMap) (c : Char) : Option (List Char) :=
  match rank m.starts c.toNat with
  | 0 => none
  | i + 1 => (m.entries[i]?).bind (·.replace? c.toNat)

end CharMap

end ProxyAudit.Text
