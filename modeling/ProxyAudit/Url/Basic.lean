import ProxyAudit.Url.Host

/-!
# URLs

An absolute URL starts with its scheme. What follows is read by the URL Standard: schemes known
to name hosts must have one, `file` may have one, and of other schemes a host is read only after
two slashes. What stands after the host and its port is never wrong.
-/

namespace ProxyAudit

/-- The parts of an absolute URL that can be wrong. -/
structure Url where
  scheme : List Char
  host : Option Host
  port : Option Nat
  deriving DecidableEq, Repr

namespace Url

/-- How the text after a scheme is read. -/
inductive SchemeKind where
  /-- A scheme that must name a host. -/
  | special
  /-- The scheme of local files. -/
  | file
  /-- Any other scheme. -/
  | other
  deriving DecidableEq, Repr

def SchemeKind.of (scheme : List Char) : SchemeKind :=
  if scheme = "file".toList then .file
  else if ["http", "https", "ws", "wss", "ftp"].contains (String.ofList scheme) then .special
  else .other

/-- A backslash counts as a slash unless the scheme is unknown. -/
def isSlash (kind : SchemeKind) (c : Char) : Bool :=
  c == '/' || (c == '\\' && kind != .other)

/-- A character that ends the authority of a URL. -/
def endsAuthority (kind : SchemeKind) (c : Char) : Bool :=
  isSlash kind c || c == '?' || c == '#'

-- ---------------------------------------------------------------------------
-- Parts
-- ---------------------------------------------------------------------------

/-- The characters that count: none up to the space at either end, and no tab or line end
anywhere. -/
def significant (s : String) : List Char :=
  let isEdge (c : Char) : Bool := c.toNat ≤ 0x20
  let cs := ((s.toList.dropWhile isEdge).reverse.dropWhile isEdge).reverse
  cs.filter fun c => c != '\t' && c != '\n' && c != '\r'

/-- The lower-case scheme of a URL and what follows its colon. -/
def splitScheme? (cs : List Char) : Option (List Char × List Char) :=
  let isInner (c : Char) : Bool := c.isAlphanum || c == '+' || c == '-' || c == '.'
  match cs.takeWhile isInner, cs.dropWhile isInner with
  | c :: scheme, ':' :: rest =>
    if c.isAlpha then some ((c :: scheme).map Char.toLower, rest) else none
  | _, _ => none

/-- The user information of an authority, which its last `@` ends, and the rest. -/
def splitUserInfo (authority : List Char) : Option (List Char) × List Char :=
  if authority.contains '@' then
    let rest := (authority.reverse.takeWhile (· ≠ '@')).reverse
    (some (authority.take (authority.length - rest.length - 1)), rest)
  else (none, authority)

/-- The host of an authority, up to a colon outside brackets, and the rest. -/
def splitHost (inBrackets : Bool) : List Char → List Char × List Char
  | [] => ([], [])
  | c :: rest =>
    if c = ':' ∧ ¬ inBrackets then ([], c :: rest)
    else
      let inBrackets := if c = '[' then true else if c = ']' then false else inBrackets
      let (host, after) := splitHost inBrackets rest
      (c :: host, after)

/-- Reads what may follow a host: nothing, or a colon and a port, which may be empty. Behind the
port a backslash starts the path even where it is no slash. -/
def parsePort : List Char → Except UrlError (Option Nat)
  | ':' :: rest =>
    let ds := rest.takeWhile (· ≠ '\\')
    if ds.isEmpty then .ok none
    else
      match Decimal.toNat? ds with
      | some n => if n ≤ 65535 then .ok (some n) else .error .badPort
      | none => .error .badPort
  | _ => .ok none

/-- Reads the authority of a URL, given what follows it. Without a host there is neither a port
nor user information that says anything. -/
def parseAuthority (kind : SchemeKind) (authority : List Char) (more : Bool) :
    Except UrlError (Option Host × Option Nat) := do
  let (user, rest) := splitUserInfo authority
  if user = some [] ∧ rest = [] ∧ more then throw .emptyHost
  let (hostText, after) := splitHost false rest
  let host ← match kind with
    | .other => Host.parseOpaque hostText
    | _ => if hostText.isEmpty then throw .emptyHost else Host.parse hostText
  if host.isEmpty ∧ after ≠ [] then throw .emptyHost
  let port ← parsePort after
  if host.isEmpty ∧ user.any (fun u => u ≠ [] ∧ u ≠ [':']) then throw .emptyHost
  return (some host, port)

/-- A drive letter where the host of a local file would stand. -/
def isDriveLetter : List Char → Bool
  | [c, d] => c.isAlpha && (d == ':' || d == '|')
  | _ => false

/-- Reads the host of a local file, which stands after two slashes. -/
def parseFileHost (rest : List Char) : Except UrlError (Option Host) :=
  match rest with
  | a :: b :: more =>
    let host := more.takeWhile (!endsAuthority .file ·)
    if !isSlash .file a || !isSlash .file b || host.isEmpty || isDriveLetter host then .ok none
    else (Host.parse host).map some
  | _ => .ok none

/-- Reads an absolute URL. -/
def parse (s : String) : Except UrlError Url := do
  match splitScheme? (significant s) with
  | none => throw .noScheme
  | some (scheme, rest) =>
    let kind := SchemeKind.of scheme
    let authorityOf (cs : List Char) : Except UrlError Url := do
      let authority := cs.takeWhile (!endsAuthority kind ·)
      let (host, port) ← parseAuthority kind authority (authority.length < cs.length)
      return ⟨scheme, host, port⟩
    match kind with
    | .special => authorityOf (rest.dropWhile (isSlash kind))
    | .file => return ⟨scheme, ← parseFileHost rest, none⟩
    | .other =>
      match rest with
      | '/' :: '/' :: cs => authorityOf cs
      | _ => return ⟨scheme, none, none⟩

end Url

end ProxyAudit
