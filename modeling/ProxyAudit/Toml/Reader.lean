import ProxyAudit.Toml.Lexeme
import ProxyAudit.Toml.Number
import ProxyAudit.Toml.Tables

/-!
# Reading TOML documents

A document is read line by line: headers, and keys with their values. Arrays and inline tables may
nest and keys may have parts up to a fixed limit, so that no document can exhaust a reader.
-/

namespace ProxyAudit.Toml

/-- Nesting and paths stay below this number. -/
def nestingLimit : Nat := 80

-- ---------------------------------------------------------------------------
-- Keys
-- ---------------------------------------------------------------------------

/-- Reads one part of a key: a string on one line, or bare characters. -/
def readPart? (cs : List Char) : Option (String × List Char) :=
  match cs with
  | '"' :: rest => (readBasic? rest).map fun (s, after) => (String.ofList s, after)
  | '\'' :: rest => (readLiteral? rest).map fun (s, after) => (String.ofList s, after)
  | _ =>
    match cs.takeWhile isBare with
    | [] => none
    | bare => some (String.ofList bare, cs.dropWhile isBare)

/-- Reads the parts of a key between points, at most so many, with the white space around them. -/
def readParts? : Nat → List Char → Option (Path × List Char)
  | 0, _ => none
  | count + 1, cs => do
    let (part, rest) ← readPart? (skipSpaces cs)
    match skipSpaces rest with
    | '.' :: rest =>
      let (path, rest) ← readParts? count rest
      return ({ path with parents := part :: path.parents }, rest)
    | rest => return (⟨[], part⟩, rest)

/-- Reads a key, which may be dotted. -/
def readKey? (cs : List Char) : Option (Path × List Char) :=
  readParts? (nestingLimit - 1) cs

-- ---------------------------------------------------------------------------
-- Values
-- ---------------------------------------------------------------------------

/-- Reads the two truth values and the two floating point values without a sign. -/
def readWord? : List Char → Option (Value × List Char)
  | 't' :: 'r' :: 'u' :: 'e' :: rest => some (.boolean true, rest)
  | 'f' :: 'a' :: 'l' :: 's' :: 'e' :: rest => some (.boolean false, rest)
  | cs => readSpecialFloat? cs

/-- Reads a value that holds no other values. -/
def readScalar? (cs : List Char) : Option (Value × List Char) :=
  match cs with
  | [] => none
  | c :: _ =>
    if c = '"' ∨ c = '\'' then (readString? cs).map fun (s, rest) => (.string (String.ofList s), rest)
    else if Decimal.isDigit c ∨ c = '+' ∨ c = '-' then readNumber? cs
    else readWord? cs

mutual

/-- Reads a value, with room for so many steps and so many levels of nesting. -/
def readValue? : Nat → Nat → List Char → Option (Value × List Char)
  | 0, _, _ => none
  | steps + 1, levels, cs =>
    match levels, cs with
    | 0, '[' :: _ => none
    | 0, '\x7b' :: _ => none
    | levels + 1, '[' :: rest => do
      let (items, rest) ← readItems? steps levels (skipLines false rest)
      return (.array items, rest)
    | levels + 1, '\x7b' :: rest => do
      let (pairs, rest) ← match skipSpaces rest with
        | '\x7d' :: rest => some ([], rest)
        | rest => readPairs? steps levels rest
      return (.table (← entriesOf? pairs []), rest)
    | _, cs => readScalar? cs

/-- Reads the items of an array up to its end; a comma may follow the last one. -/
def readItems? : Nat → Nat → List Char → Option (List Value × List Char)
  | 0, _, _ => none
  | steps + 1, levels, cs =>
    match cs with
    | ']' :: rest => some ([], rest)
    | cs => do
      let (v, rest) ← readValue? steps levels cs
      match skipLines false rest with
      | ',' :: rest =>
        let (vs, rest) ← readItems? steps levels (skipLines false rest)
        return (v :: vs, rest)
      | ']' :: rest => return ([v], rest)
      | _ => none

/-- Reads the pairs of an inline table up to its end; no comma follows the last one. -/
def readPairs? : Nat → Nat → List Char → Option (Pairs × List Char)
  | 0, _, _ => none
  | steps + 1, levels, cs => do
    let (path, rest) ← readKey? cs
    let (v, rest) ← readValue? steps levels (skipSpaces (← expect? '=' rest))
    match skipSpaces rest with
    | ',' :: rest =>
      let (pairs, rest) ← readPairs? steps levels rest
      return ((path, v) :: pairs, rest)
    | '\x7d' :: rest => return ([(path, v)], rest)
    | _ => none

end

-- ---------------------------------------------------------------------------
-- Documents
-- ---------------------------------------------------------------------------

/-- A line of a document that says something. -/
inductive Line where
  | pair (path : Path) (v : Value)
  | header (h : Header)

/-- Reads a header whose first bracket has been read. -/
def readHeader? (cs : List Char) : Option (Header × List Char) :=
  match cs with
  | '[' :: rest => do
    let (path, rest) ← readKey? rest
    return (.element path, ← expect? ']' (← expect? ']' rest))
  | _ => do
    let (path, rest) ← readKey? cs
    return (.table path, ← expect? ']' rest)

/-- Reads one line, from its first character that is no white space to its end. A line without a
key or a header says nothing. -/
def readLine? (cs : List Char) : Option (Option Line × List Char) :=
  match cs with
  | [] => some (none, [])
  | c :: rest =>
    if c = '#' ∨ c = '\n' ∨ c = '\r' then (finishLine? cs).map (none, ·)
    else if c = '[' then do
      let (h, rest) ← readHeader? rest
      return (some (.header h), ← finishLine? rest)
    else do
      let (path, rest) ← readKey? cs
      let afterSign := skipSpaces (← expect? '=' rest)
      let (v, rest) ← readValue? (2 * afterSign.length + 1) (nestingLimit - 1) afterSign
      return (some (.pair path v), ← finishLine? rest)

/-- Reads the lines of a document, with room for so many of them. -/
def readLines? : Nat → List Char → Option (List Line)
  | 0, cs => if skipSpaces cs = [] then some [] else none
  | room + 1, cs =>
    match skipSpaces cs with
    | [] => some []
    | cs => do
      let (line, rest) ← readLine? cs
      let lines ← readLines? room rest
      return line.toList ++ lines

/-- Divides the lines of a document into the keys before the first header and the sections. -/
def divide : List Line → Pairs × List Section
  | [] => ([], [])
  | .pair path v :: rest =>
    let (pairs, sections) := divide rest
    ((path, v) :: pairs, sections)
  | .header h :: rest =>
    let (pairs, sections) := divide rest
    ([], ⟨h, pairs⟩ :: sections)

/-- The characters after a byte order mark. -/
def skipByteOrderMark : List Char → List Char
  | '\ufeff' :: rest => rest
  | cs => cs

/-- Reads a document; none if it is not well-formed. -/
def read? (text : String) : Option Entries := do
  let cs := skipByteOrderMark text.toList
  let (pairs, sections) := divide (← readLines? cs.length cs)
  entriesOf? pairs sections

end ProxyAudit.Toml
