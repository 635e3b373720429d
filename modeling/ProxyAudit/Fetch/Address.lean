import ProxyAudit.Fetch.Fault
import ProxyAudit.Text.Blank
import ProxyAudit.Url.Basic

/-!
# Addresses of a transfer

A transfer reads its target, its proxy and the targets of redirects more loosely than a URL is
checked: without a scheme it guesses one, and a scheme that is not served is an address all the
same. It is stricter where a URL is forgiving: white space and control characters are not skipped,
and no backslash is a slash.

Main results:

* `parse?_of_junk`         — a text with white space or control characters is no address.
* `parseAuthority?_login`  — what stands before the `@` of an authority changes nothing.
-/

namespace ProxyAudit

/-- Where a transfer is sent. -/
structure Address where
  /-- The scheme in lower case. -/
  scheme : List Char
  /-- The host with its percent escapes undone; none of a local file. -/
  host : Bytes
  port : Option Nat
  path : List Char
  /-- The query with its question mark. -/
  query : List Char
  deriving DecidableEq, Repr

namespace Address

-- ---------------------------------------------------------------------------
-- Characters
-- ---------------------------------------------------------------------------

/-- A character that no address holds. -/
def isJunk (c : Char) : Bool :=
  c.toNat ≤ 0x20 || c.toNat == 0x7f

/-- A character that ends the authority of an address. -/
def endsAuthority (c : Char) : Bool :=
  c == '/' || c == '?' || c == '#'

/-- The characters that no name of a host holds. -/
def isForbiddenInHost (c : Char) : Bool :=
  " \r\n\t/:#?!@\x7b\x7d[]\\$'\"^\x60*<>=;,+&()%".toList.contains c

-- ---------------------------------------------------------------------------
-- Hosts and ports
-- ---------------------------------------------------------------------------

/-- Drops the login of an authority, which its first `@` ends. -/
def dropLogin (authority : List Char) : List Char :=
  if authority.contains '@' then (authority.dropWhile (· ≠ '@')).drop 1 else authority

/-- Cuts the authority behind its host: at the colon of a port, if there is one. -/
def splitPort : List Char → List Char × List Char
  | '[' :: rest =>
    let inner := rest.takeWhile (· ≠ ']')
    ('[' :: inner ++ (rest.drop inner.length).take 1, rest.drop (inner.length + 1))
  | cs => (cs.takeWhile (· ≠ ':'), cs.dropWhile (· ≠ ':'))

/-- Reads what follows the host of an authority. A colon without a number is overlooked behind a
scheme. -/
def parsePort? (hasScheme : Bool) : List Char → Option (Option Nat)
  | [] => some none
  | [':'] => if hasScheme then some none else none
  | ':' :: ds =>
    match Decimal.toNat? ds with
    | some n => if n ≤ 65535 then some (some n) else none
    | none => none
  | _ => none

/-- The address between brackets, which may be followed by the name of an interface. -/
def isBracketed (cs : List Char) : Bool :=
  match cs.getLast? with
  | some ']' =>
    let inner := (cs.drop 1).dropLast
    let number := inner.takeWhile (· ≠ '%')
    (Host.ipv6? number).isSome && inner.length != number.length + 1
  | _ => false

/-- Reads a host: an address in brackets, or a name. -/
def parseHost? (cs : List Char) : Option Bytes :=
  if cs.head? = some '[' then
    if isBracketed cs then some (Bytes.ofText (String.ofList cs)) else none
  else
    let name := Host.percentDecode (Bytes.ofText (String.ofList cs))
    let isBad (b : UInt8) : Bool := b < 0x20 || isForbiddenInHost (Char.ofNat b.toNat)
    if name.isEmpty || name.any isBad then none else some name

def parseAuthority? (hasScheme : Bool) (authority : List Char) : Option (Bytes × Option Nat) := do
  let (host, after) := splitPort (dropLogin authority)
  let port ← parsePort? hasScheme after
  return (← parseHost? host, port)

-- ---------------------------------------------------------------------------
-- Paths
-- ---------------------------------------------------------------------------

/-- The path and the query of what follows an authority; the fragment is dropped. -/
def splitPath (cs : List Char) : List Char × List Char :=
  let cs := cs.takeWhile (· ≠ '#')
  (cs.takeWhile (· ≠ '?'), cs.dropWhile (· ≠ '?'))

/-- A text that starts with the letter of a drive. -/
def startsWithDrive : List Char → Bool
  | c :: d :: rest =>
    c.isAlpha && (d == ':' || d == '|') && (rest.isEmpty || rest.head? == some '/'
      || rest.head? == some '\\')
  | _ => false

/-- A text that starts with another one, whatever the case of its ASCII letters. -/
def startsWithWord (word : String) (cs : List Char) : Bool :=
  (cs.take word.length).map Char.toLower == word.toList

/-- The path of a local file, given what follows the scheme and its colon. -/
def filePath? (rest : List Char) : Option (List Char) := do
  let path ← match rest with
    | '/' :: '/' :: more =>
      if more.head? = some '/' || startsWithDrive more then some more
      else if startsWithWord "localhost/" more || startsWithWord "127.0.0.1/" more then
        some (more.drop 9)
      else none
    | ['/'] => none
    | _ => some rest
  if startsWithDrive path || (path.head? = some '/' && startsWithDrive (path.drop 1)) then none
  some path

-- ---------------------------------------------------------------------------
-- Addresses
-- ---------------------------------------------------------------------------

/-- The scheme that the first word of a host suggests. -/
def guessScheme (host : Bytes) : List Char :=
  let name := host.map fun b => Char.ofNat b.toNat
  match ["ftp", "dict", "ldap", "imap", "smtp", "pop3"].find?
      fun s => startsWithWord (s ++ ".") name with
  | some s => s.toList
  | none => "http".toList

def parseRest? (scheme : Option (List Char)) (cs : List Char) : Option Address := do
  let (host, port) ← parseAuthority? scheme.isSome (cs.takeWhile (!endsAuthority ·))
  let (path, query) := splitPath (cs.dropWhile (!endsAuthority ·))
  some ⟨scheme.getD (guessScheme host), host, port, path, query⟩

/-- Reads an address with a scheme, given what follows the scheme's colon. -/
def parseAfterScheme? (scheme rest : List Char) : Option Address :=
  if scheme = "file".toList then
    (filePath? rest).map fun path =>
      let (path, query) := splitPath path
      ⟨scheme, [], none, path, query⟩
  else
    let slashes := (rest.takeWhile (· == '/')).length
    if slashes = 0 then none
    else if 3 < slashes then none
    else parseRest? (some scheme) (rest.drop slashes)

/-- The scheme of an address and what follows its colon. -/
def splitScheme? (cs : List Char) : Option (List Char × List Char) :=
  (Url.splitScheme? cs).filter fun (scheme, _) => scheme.length ≤ 40

/-- Reads an address. A scheme without a slash behind it is taken for a host. -/
def parse? (s : String) : Option Address :=
  if s.toList.any isJunk then none
  else
    match splitScheme? s.toList with
    | some (scheme, '/' :: rest) => parseAfterScheme? scheme ('/' :: rest)
    | _ => parseRest? none s.toList

-- ---------------------------------------------------------------------------
-- Redirects
-- ---------------------------------------------------------------------------

/-- The schemes that are served, those of redirects first. -/
def servedSchemes : List (List Char) :=
  ["http".toList, "https".toList, "file".toList]

/-- An address whose scheme is served. -/
def isServed (a : Address) : Bool :=
  servedSchemes.contains a.scheme

/-- An address of a local file, which is read without the network. -/
def isFile (a : Address) : Bool :=
  a.scheme == "file".toList

/-- The part of a path up to its last slash. -/
def directoryOf (path : List Char) : List Char :=
  if path.contains '/' then (path.reverse.dropWhile (· ≠ '/')).reverse else ['/']

/-- The segments of a path after its dots are followed, given the segments before them, last one
first. Nothing lies above the root. -/
def followDots (before : List (List Char)) : List (List Char) → List (List Char)
  | [] => before.reverse
  | segment :: rest =>
    let above := if before.length ≤ 1 then before else before.drop 1
    if segment = ['.'] then
      if rest.isEmpty then ([] :: before).reverse else followDots before rest
    else if segment = ['.', '.'] then
      if rest.isEmpty then ([] :: above).reverse else followDots above rest
    else followDots (segment :: before) rest

/-- What a request asks for: the path without dots, and the query. -/
def resource (a : Address) : List Char :=
  (if a.path.isEmpty then ['/']
    else ['/'].intercalate (followDots [] (Domain.splitAtChar '/' a.path))) ++ a.query

/-- The address that a redirect leads to from a given one. Only addresses of the network are
followed. -/
def resolve (base : Address) (location : String) : Except Fault Address :=
  let cs := location.toList
  let orMalformed (a : Option Address) : Except Fault Address :=
    match a with
    | some a => if a.isServed && !a.isFile then .ok a else .error .unsupported
    | none => .error .malformedUrl
  if cs.any fun c => isJunk c && c != ' ' then .error .malformedUrl
  else
    match splitScheme? cs with
    | some (scheme, rest) =>
      if servedSchemes.contains scheme then orMalformed (parseAfterScheme? scheme rest)
      else .error .unsupported
    | none =>
      let (path, query) := splitPath cs
      match cs with
      | '/' :: '/' :: _ => orMalformed (parseAfterScheme? base.scheme cs)
      | '/' :: _ => .ok { base with path, query }
      | '#' :: _ => .ok base
      | '?' :: _ => .ok { base with query }
      | _ => .ok { base with path := directoryOf base.path ++ path, query }

theorem parse?_of_junk {s : String} (h : s.toList.any isJunk) : parse? s = none := by
  simp [parse?, h]

theorem parseAuthority?_login (hasScheme : Bool) {login : List Char} (rest : List Char)
    (h : '@' ∉ login) (hr : '@' ∉ rest) :
    parseAuthority? hasScheme (login ++ '@' :: rest) = parseAuthority? hasScheme rest := by
  have hl : ∀ c ∈ login, decide (c ≠ '@') = true := by
    intro c hc
    simp only [ne_eq, decide_not, Bool.not_eq_eq_eq_not, Bool.not_true, decide_eq_false_iff_not]
    rintro rfl
    exact h hc
  have hd : dropLogin (login ++ '@' :: rest) = rest := by
    rw [dropLogin, if_pos (by simp), Text.dropWhile_append_of_all _ hl]
    simp
  rw [parseAuthority?, parseAuthority?, hd, dropLogin, if_neg (by simpa using hr)]

end Address

end ProxyAudit
