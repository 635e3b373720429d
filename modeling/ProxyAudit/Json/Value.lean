import ProxyAudit.Text.Decimal
import ProxyAudit.Text.Hex

/-!
# JSON

The values a report is made of and their two texts: compact, and laid out over lines with an
indent of two spaces. Numbers are natural numbers; the fields of an object keep their order.
-/

namespace ProxyAudit

/-- A JSON value. -/
inductive Json where
  | null
  | bool (b : Bool)
  | num (n : Nat)
  | str (s : String)
  | arr (items : List Json)
  | obj (fields : List (String × Json))

namespace Json

-- ---------------------------------------------------------------------------
-- Strings
-- ---------------------------------------------------------------------------

/-- A character inside a string: quotes, backslashes and control characters are escaped, the
common ones by a letter and the others by four lower-case digits. -/
def stringPiece (c : Char) : List Char :=
  if c = '"' then ['\\', '"']
  else if c = '\\' then ['\\', '\\']
  else if c = '\x08' then ['\\', 'b']
  else if c = '\t' then ['\\', 't']
  else if c = '\n' then ['\\', 'n']
  else if c = '\x0c' then ['\\', 'f']
  else if c = '\r' then ['\\', 'r']
  else if c.toNat < 32 then ['\\', 'u'] ++ Hex.ofNatPadded 4 c.toNat
  else [c]

/-- A string between its quotes. -/
def stringText (s : String) : List Char :=
  ['"'] ++ s.toList.flatMap stringPiece ++ ['"']

-- ---------------------------------------------------------------------------
-- Compact text
-- ---------------------------------------------------------------------------

mutual

/-- The text without any white space. -/
def compactChars : Json → List Char
  | null => "null".toList
  | bool b => (if b then "true" else "false").toList
  | num n => Decimal.ofNat n
  | str s => stringText s
  | arr [] => ['[', ']']
  | arr (x :: xs) => ['['] ++ compactChars x ++ compactItems xs ++ [']']
  | obj [] => ['\x7b', '\x7d']
  | obj ((k, v) :: fs) =>
    ['\x7b'] ++ stringText k ++ [':'] ++ compactChars v ++ compactFields fs ++ ['\x7d']

/-- The items after the first. -/
def compactItems : List Json → List Char
  | [] => []
  | x :: xs => [','] ++ compactChars x ++ compactItems xs

/-- The fields after the first. -/
def compactFields : List (String × Json) → List Char
  | [] => []
  | (k, v) :: fs => [','] ++ stringText k ++ [':'] ++ compactChars v ++ compactFields fs

end

/-- The compact text of a value. -/
def compact (j : Json) : String :=
  String.ofList j.compactChars

-- ---------------------------------------------------------------------------
-- Text over lines
-- ---------------------------------------------------------------------------

/-- A line end and the indent of the line after it. -/
def lineBreak (depth : Nat) : List Char :=
  '\n' :: List.replicate (2 * depth) ' '

mutual

/-- The text over lines of a value that stands at a depth; an empty array or object stays on its
line. -/
def prettyChars (depth : Nat) : Json → List Char
  | null => "null".toList
  | bool b => (if b then "true" else "false").toList
  | num n => Decimal.ofNat n
  | str s => stringText s
  | arr [] => ['[', ']']
  | arr (x :: xs) =>
    ['['] ++ lineBreak (depth + 1) ++ prettyChars (depth + 1) x ++ prettyItems (depth + 1) xs
      ++ lineBreak depth ++ [']']
  | obj [] => ['\x7b', '\x7d']
  | obj ((k, v) :: fs) =>
    ['\x7b'] ++ lineBreak (depth + 1) ++ stringText k ++ [':', ' '] ++ prettyChars (depth + 1) v
      ++ prettyFields (depth + 1) fs ++ lineBreak depth ++ ['\x7d']

/-- The items after the first, each on a line of its own. -/
def prettyItems (depth : Nat) : List Json → List Char
  | [] => []
  | x :: xs => [','] ++ lineBreak depth ++ prettyChars depth x ++ prettyItems depth xs

/-- The fields after the first, each on a line of its own. -/
def prettyFields (depth : Nat) : List (String × Json) → List Char
  | [] => []
  | (k, v) :: fs =>
    [','] ++ lineBreak depth ++ stringText k ++ [':', ' '] ++ prettyChars depth v
      ++ prettyFields depth fs

end

def pretty (j : Json) : String :=
  String.ofList (j.prettyChars 0)

end Json

end ProxyAudit
