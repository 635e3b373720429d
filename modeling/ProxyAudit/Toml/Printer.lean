import ProxyAudit.Text.Decimal
import ProxyAudit.Text.Hex

/-!
# Writing TOML strings

A text is written in the plainest of the four kinds of strings that can hold it: basic if nothing
has to be escaped, literal if it holds quotes or backslashes but no line end, the forms over lines
for the rest, and basic with escapes if there is a character that has no other form.
-/

namespace ProxyAudit.Toml

/-- What the choice of a string's kind depends on. -/
structure TextTraits where
  /-- The longest run of double quotes. -/
  doubleQuotes : Nat
  /-- The longest run of single quotes. -/
  singleQuotes : Nat
  backslash : Bool
  lineEnd : Bool
  /-- There is a control character that only an escape can write. -/
  control : Bool

/-- The longest run of a character; `run` counts the run that is open. -/
def longestRun (q : Char) (run : Nat) : List Char → Nat
  | [] => run
  | c :: rest => if c = q then longestRun q (run + 1) rest else max run (longestRun q 0 rest)

/-- A control character that no string holds as it is; line ends are not among them. -/
def needsCode (c : Char) : Bool :=
  (c.toNat < 0x20 && c != '\t' && c != '\n') || c.toNat == 0x7f

/-- The traits of a text. -/
def TextTraits.of (cs : List Char) : TextTraits where
  doubleQuotes := longestRun '"' 0 cs
  singleQuotes := longestRun '\'' 0 cs
  backslash := cs.contains '\\'
  lineEnd := cs.contains '\n'
  control := cs.any needsCode

inductive StringKind where
  | basic
  | literal
  | basicLines
  | literalLines
  deriving DecidableEq, Repr

/-- The kind of string for a text of the given traits. -/
def TextTraits.kind (t : TextTraits) : StringKind :=
  let fallback : StringKind := if t.lineEnd then .basicLines else .basic
  if t.control then fallback
  else if !t.backslash && t.doubleQuotes == 0 && !t.lineEnd then .basic
  else if t.singleQuotes == 0 && !t.lineEnd then .literal
  else if !t.backslash && t.doubleQuotes ≤ 2 then .basicLines
  else if t.singleQuotes ≤ 2 then .literalLines
  else fallback

/-- The text of a basic string between its quotes. Double quotes are escaped where more than
`allowed` of them would follow each other, and line ends if `lines` is false. -/
def escapeBasic (lines : Bool) (allowed : Nat) (run : Nat) : List Char → List Char
  | [] => []
  | c :: rest =>
    if c = '"' then
      if allowed ≤ run then '\\' :: '"' :: escapeBasic lines allowed 0 rest
      else '"' :: escapeBasic lines allowed (run + 1) rest
    else
      let written : List Char :=
        if c = '\x08' then ['\\', 'b']
        else if c = '\t' then ['\\', 't']
        else if c = '\n' then if lines then ['\n'] else ['\\', 'n']
        else if c = '\x0c' then ['\\', 'f']
        else if c = '\r' then ['\\', 'r']
        else if c = '\\' then ['\\', '\\']
        else if needsCode c then ['\\', 'u'] ++ (Hex.ofNatPadded 4 c.toNat).map Char.toUpper
        else [c]
      written ++ escapeBasic lines allowed 0 rest

def stringText (s : String) : List Char :=
  let cs := s.toList
  let t := TextTraits.of cs
  let first : List Char := if t.lineEnd then ['\n'] else []
  match t.kind with
  | .basic => ['"'] ++ escapeBasic false 0 0 cs ++ ['"']
  | .literal => ['\''] ++ cs ++ ['\'']
  | .basicLines => ['"', '"', '"'] ++ first ++ escapeBasic true 2 0 cs ++ ['"', '"', '"']
  | .literalLines => ['\'', '\'', '\''] ++ first ++ cs ++ ['\'', '\'', '\'']

end ProxyAudit.Toml
