import ProxyAudit.Text.Hex

/-!
# Characters and strings of TOML

The classes of characters, the white space between tokens, and the four kinds of strings. Every
reader takes the characters that are left and gives what it read with the characters after it.
-/

namespace ProxyAudit.Toml

-- ---------------------------------------------------------------------------
-- Character classes
-- ---------------------------------------------------------------------------

/-- White space inside a line. -/
def isSpace (c : Char) : Bool :=
  c == ' ' || c == '\t'

/-- The characters that may stand in comments and strings: no control characters but the tab. -/
def isPlain (c : Char) : Bool :=
  c == '\t' || (0x20 ≤ c.toNat && c.toNat != 0x7f)

/-- The characters of a key without quotes. -/
def isBare (c : Char) : Bool :=
  c.isAlphanum || c == '-' || c == '_'

-- ---------------------------------------------------------------------------
-- White space and comments
-- ---------------------------------------------------------------------------

/-- The characters after a line end. -/
def lineEnd? : List Char → Option (List Char)
  | '\n' :: rest => some rest
  | '\r' :: '\n' :: rest => some rest
  | _ => none

/-- The characters after white space inside a line. -/
def skipSpaces (cs : List Char) : List Char :=
  cs.dropWhile isSpace

/-- The characters after a comment, if one starts here. -/
def skipComment (cs : List Char) : List Char :=
  match cs with
  | '#' :: rest => rest.dropWhile isPlain
  | _ => cs

/-- The characters after white space, comments and line ends. A comment runs on to the end of its
line; `inComment` tells whether one is open. -/
def skipLines (inComment : Bool) : List Char → List Char
  | [] => []
  | '\r' :: '\n' :: rest => skipLines false rest
  | c :: rest =>
    if c = '\n' then skipLines false rest
    else if inComment then if isPlain c then skipLines true rest else c :: rest
    else if isSpace c then skipLines false rest
    else if c = '#' then skipLines true rest
    else c :: rest

/-- The characters after the end of a line, which only white space and a comment may precede. The
end of the document ends its last line. -/
def finishLine? (cs : List Char) : Option (List Char) :=
  match skipComment (skipSpaces cs) with
  | [] => some []
  | rest => lineEnd? rest

-- ---------------------------------------------------------------------------
-- Strings
-- ---------------------------------------------------------------------------

/-- The character with a given code point. -/
def scalar? (digits : List Char) : Option Char := do
  let n ← Hex.toNat? digits
  if n.isValidChar then some (Char.ofNat n) else none

/-- The character that a letter after a backslash stands for. -/
def escaped? : Char → Option Char
  | 'b' => some '\x08'
  | 't' => some '\t'
  | 'n' => some '\n'
  | 'f' => some '\x0c'
  | 'r' => some '\r'
  | '"' => some '"'
  | '\\' => some '\\'
  | _ => none

/-- Puts a character in front of what has been read after it. -/
def consTo (c : Char) (r : List Char × List Char) : List Char × List Char :=
  (c :: r.1, r.2)

/-- The rest of a literal string on one line: everything up to the next quote. -/
def readLiteral? : List Char → Option (List Char × List Char)
  | [] => none
  | c :: rest =>
    if c = '\'' then some ([], rest)
    else if isPlain c then (readLiteral? rest).map (consTo c)
    else none

/-- The rest of a basic string on one line. -/
def readBasic? : List Char → Option (List Char × List Char)
  | [] => none
  | '"' :: rest => some ([], rest)
  | '\\' :: 'u' :: a :: b :: c :: d :: rest => do
    let x ← scalar? [a, b, c, d]
    return consTo x (← readBasic? rest)
  | '\\' :: 'U' :: a :: b :: c :: d :: e :: f :: g :: h :: rest => do
    let x ← scalar? [a, b, c, d, e, f, g, h]
    return consTo x (← readBasic? rest)
  | '\\' :: c :: rest => do
    let x ← escaped? c
    return consTo x (← readBasic? rest)
  | c :: rest => if isPlain c then (readBasic? rest).map (consTo c) else none

/-- A run of quotes in a string over lines closes it if there are at least three of them; up to
two more belong to the text. Gives the quotes of the text and how many quotes are used. -/
def closing? (run : Nat) : Option (Nat × Nat) :=
  if run < 3 then none else some (min run 5 - 3, min run 5)

/-- The rest of a literal string over lines. -/
def readLiteralLines? : List Char → Option (List Char × List Char)
  | [] => none
  | '\r' :: '\n' :: rest => (readLiteralLines? rest).map (consTo '\n')
  | c :: rest =>
    if c = '\'' then
      match closing? ((rest.takeWhile (· == '\'')).length + 1) with
      | some (kept, used) => some (List.replicate kept '\'', rest.drop (used - 1))
      | none => (readLiteralLines? rest).map (consTo c)
    else if isPlain c ∨ c = '\n' then (readLiteralLines? rest).map (consTo c)
    else none

/-- A backslash before a line end, white space aside, joins the next text to the line. -/
def joinsLines (afterBackslash : List Char) : Bool :=
  (lineEnd? (skipSpaces afterBackslash)).isSome

/-- The rest of a basic string over lines. While lines are joined, white space and line ends are
skipped. -/
def readBasicLines? (joining : Bool) : List Char → Option (List Char × List Char)
  | [] => none
  | '\r' :: '\n' :: rest =>
    if joining then readBasicLines? true rest else (readBasicLines? false rest).map (consTo '\n')
  | '\\' :: 'u' :: a :: b :: c :: d :: rest => do
    let x ← scalar? [a, b, c, d]
    return consTo x (← readBasicLines? false rest)
  | '\\' :: 'U' :: a :: b :: c :: d :: e :: f :: g :: h :: rest => do
    let x ← scalar? [a, b, c, d, e, f, g, h]
    return consTo x (← readBasicLines? false rest)
  | '\\' :: c :: rest =>
    if joinsLines (c :: rest) then
      if c = '\r' then readBasicLines? true (c :: rest) else readBasicLines? true rest
    else do
      let x ← escaped? c
      return consTo x (← readBasicLines? false rest)
  | c :: rest =>
    if joining ∧ (isSpace c ∨ c = '\n') then readBasicLines? true rest
    else if c = '"' then
      match closing? ((rest.takeWhile (· == '"')).length + 1) with
      | some (kept, used) => some (List.replicate kept '"', rest.drop (used - 1))
      | none => (readBasicLines? false rest).map (consTo c)
    else if isPlain c ∨ c = '\n' then (readBasicLines? false rest).map (consTo c)
    else none

/-- The characters after a line end directly behind the opening quotes, which is not part of the
text. -/
def dropFirstLineEnd (cs : List Char) : List Char :=
  (lineEnd? cs).getD cs

def readString? : List Char → Option (List Char × List Char)
  | '"' :: '"' :: '"' :: rest => readBasicLines? false (dropFirstLineEnd rest)
  | '\'' :: '\'' :: '\'' :: rest => readLiteralLines? (dropFirstLineEnd rest)
  | '"' :: rest => readBasic? rest
  | '\'' :: rest => readLiteral? rest
  | _ => none

end ProxyAudit.Toml
