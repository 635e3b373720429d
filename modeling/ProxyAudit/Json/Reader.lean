import ProxyAudit.Json.Value

/-!
# Reading JSON

The values that a text of RFC 8259 stands for, as far as its numbers are natural numbers without
an exponent. White space may stand around every token. A key that an object repeats is read each
time that it is written.

Main results:

* `skipBlanks_of_not_blank`  — nothing is skipped before a token.
-/

namespace ProxyAudit.Json

-- ---------------------------------------------------------------------------
-- Tokens
-- ---------------------------------------------------------------------------

/-- The white space between tokens. -/
def isBlank (c : Char) : Bool :=
  c == ' ' || c == '\n' || c == '\r' || c == '\t'

/-- A text without the white space at its start. -/
def skipBlanks (cs : List Char) : List Char :=
  cs.dropWhile isBlank

/-- What follows a given word, if the text starts with it. -/
def afterWord? (word : List Char) (cs : List Char) : Option (List Char) :=
  if word.isPrefixOf cs then some (cs.drop word.length) else none

/-- What follows a character that may have white space before it. -/
def afterMark? (mark : Char) (cs : List Char) : Option (List Char) :=
  match skipBlanks cs with
  | c :: rest => if c = mark then some rest else none
  | [] => none

/-- Reads a number: zero, or digits that do not start with one. -/
def readNumber? (cs : List Char) : Option (Nat × List Char) :=
  let ds := cs.takeWhile Decimal.isDigit
  let rest := cs.dropWhile Decimal.isDigit
  if 1 < ds.length && ds.head? == some '0' then none
  else if rest.head?.any fun c => c == '.' || c == 'e' || c == 'E' then none
  else (Decimal.toNat? ds).map (·, rest)

-- ---------------------------------------------------------------------------
-- Strings
-- ---------------------------------------------------------------------------

/-- The character that a letter stands for behind a backslash. -/
def escaped? : Char → Option Char
  | '"' => some '"'
  | '\\' => some '\\'
  | '/' => some '/'
  | 'b' => some '\x08'
  | 'f' => some '\x0c'
  | 'n' => some '\n'
  | 'r' => some '\r'
  | 't' => some '\t'
  | _ => none

/-- The number that four hexadecimal digits spell. -/
def unit? (a b c d : Char) : Option Nat :=
  Hex.toNat? [a, b, c, d]

/-- The first unit of a pair that stands for a character beyond the first plane. -/
def isLeading (n : Nat) : Bool :=
  0xd800 ≤ n && n < 0xdc00

/-- The second unit of such a pair. -/
def isTrailing (n : Nat) : Bool :=
  0xdc00 ≤ n && n < 0xe000

def readChars? : List Char → Option (List Char × List Char)
  | [] => none
  | '"' :: rest => some ([], rest)
  | '\\' :: 'u' :: a :: b :: c :: d :: rest =>
    match unit? a b c d with
    | none => none
    | some n =>
      if isLeading n then
        match rest with
        | '\\' :: 'u' :: a :: b :: c :: d :: rest =>
          match unit? a b c d with
          | none => none
          | some low =>
            if isTrailing low then
              (readChars? rest).map fun (cs, rest) =>
                (Char.ofNat (0x10000 + 0x400 * (n - 0xd800) + (low - 0xdc00)) :: cs, rest)
            else none
        | _ => none
      else if isTrailing n then none
      else (readChars? rest).map fun (cs, rest) => (Char.ofNat n :: cs, rest)
  | '\\' :: e :: rest =>
    match escaped? e with
    | none => none
    | some c => (readChars? rest).map fun (cs, rest) => (c :: cs, rest)
  | c :: rest =>
    if c = '\\' ∨ c.toNat < 0x20 then none
    else (readChars? rest).map fun (cs, rest) => (c :: cs, rest)

/-- Reads a string that may have white space before it. -/
def readString? (cs : List Char) : Option (String × List Char) :=
  (afterMark? '"' cs).bind fun cs => (readChars? cs).map fun (s, rest) => (String.ofList s, rest)

-- ---------------------------------------------------------------------------
-- Values
-- ---------------------------------------------------------------------------

mutual

/-- Reads a value that may have white space before it; values nest no deeper than the fuel. -/
def readValue? : Nat → List Char → Option (Json × List Char)
  | 0, _ => none
  | fuel + 1, cs =>
    match skipBlanks cs with
    | '"' :: rest => (readChars? rest).map fun (s, rest) => (.str (String.ofList s), rest)
    | '[' :: rest =>
      match afterMark? ']' rest with
      | some rest => some (.arr [], rest)
      | none => (readItems? fuel rest).map fun (xs, rest) => (.arr xs, rest)
    | '\x7b' :: rest =>
      match afterMark? '\x7d' rest with
      | some rest => some (.obj [], rest)
      | none => (readFields? fuel rest).map fun (fs, rest) => (.obj fs, rest)
    | 'n' :: rest => (afterWord? "ull".toList rest).map (.null, ·)
    | 't' :: rest => (afterWord? "rue".toList rest).map (.bool true, ·)
    | 'f' :: rest => (afterWord? "alse".toList rest).map (.bool false, ·)
    | cs => (readNumber? cs).map fun (n, rest) => (.num n, rest)

def readItems? : Nat → List Char → Option (List Json × List Char)
  | 0, _ => none
  | fuel + 1, cs =>
    match readValue? fuel cs with
    | none => none
    | some (x, rest) =>
      match afterMark? ',' rest with
      | some rest => (readItems? fuel rest).map fun (xs, rest) => (x :: xs, rest)
      | none => (afterMark? ']' rest).map ([x], ·)

def readFields? : Nat → List Char → Option (List (String × Json) × List Char)
  | 0, _ => none
  | fuel + 1, cs =>
    match readString? cs with
    | none => none
    | some (k, rest) =>
      match (afterMark? ':' rest).bind (readValue? fuel) with
      | none => none
      | some (v, rest) =>
        match afterMark? ',' rest with
        | some rest => (readFields? fuel rest).map fun (fs, rest) => ((k, v) :: fs, rest)
        | none => (afterMark? '\x7d' rest).map ([(k, v)], ·)

end

def read? (s : String) : Option Json :=
  match readValue? (s.toList.length + 1) s.toList with
  | some (j, rest) => if (skipBlanks rest).isEmpty then some j else none
  | none => none

theorem skipBlanks_of_not_blank {c : Char} (cs : List Char) (h : isBlank c = false) :
    skipBlanks (c :: cs) = c :: cs := by
  simp [skipBlanks, h]

end ProxyAudit.Json
