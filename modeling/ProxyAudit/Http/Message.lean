import ProxyAudit.Http.Reader

/-!
# Written messages

The bytes of a request, and the bytes of a reply in each of the three ways to mark the end of a
body. A request to a proxy names the whole target; a request to the target's own host names the
path alone.
-/

namespace ProxyAudit

namespace Address

/-- The host of a target and, unless it is the usual one, its port. -/
def hostField (a : Address) : Bytes :=
  match a.port with
  | none => a.host
  | some n =>
    if n = (if a.scheme = "https".toList then 443 else 80) then a.host
    else a.host ++ Bytes.ofText (":" ++ Decimal.text n)

end Address

/-- The lines of a message, each with its line end, and the empty line after them. -/
def Http.headBytes (lines : List Bytes) : Bytes :=
  (lines ++ [[]]).flatMap (· ++ [13, 10])

/-- What a request asks its receiver for. -/
def Request.resource (q : Request) : Bytes :=
  let path := Bytes.ofText (String.ofList q.target.resource)
  match q.via with
  | none => path
  | some _ => Bytes.ofText (String.ofList q.target.scheme ++ "://") ++ q.target.hostField ++ path

def Request.bytes (q : Request) : Bytes :=
  Http.headBytes <|
    [Bytes.ofText "GET " ++ q.resource ++ Bytes.ofText " HTTP/1.1",
      Bytes.ofText "Host: " ++ q.target.hostField, Bytes.ofText "Accept: */*"]
    ++ (if q.via.isSome then [Bytes.ofText "Proxy-Connection: close"] else [])
    ++ [Bytes.ofText "Connection: close"]

namespace Http

/-- The ways to mark the end of a body. -/
inductive Framing where
  /-- The head announces the length. -/
  | length
  /-- The body comes in chunks. -/
  | chunked
  /-- The connection is closed. -/
  | close
  deriving DecidableEq, Repr

namespace Framing

/-- The field of a head that announces the framing of a body. -/
def field (f : Framing) (body : Bytes) : List Bytes :=
  match f with
  | length => [Bytes.ofText ("Content-Length: " ++ Decimal.text body.length)]
  | chunked => [Bytes.ofText "Transfer-Encoding: chunked"]
  | close => []

/-- A chunk: its size, its bytes, and the line ends after both. -/
def chunkBytes (chunk : Bytes) : Bytes :=
  Bytes.ofText (String.ofList (Nat.toDigits 16 chunk.length)) ++ [13, 10] ++ chunk ++ [13, 10]

/-- The bytes of a body that is written in pieces. An empty piece would end a body in chunks. -/
def bodyBytes (f : Framing) (pieces : List Bytes) : Bytes :=
  match f with
  | chunked =>
    ((pieces.filter (!·.isEmpty)).flatMap chunkBytes) ++ Bytes.ofText "0" ++ [13, 10, 13, 10]
  | _ => pieces.flatten

end Framing

/-- The bytes of a reply whose body is written in pieces. -/
def replyBytes (status : UInt32) (f : Framing) (location : Option String) (pieces : List Bytes) :
    Bytes :=
  headBytes
      ([Bytes.ofText ("HTTP/1.1 " ++ String.ofList (Decimal.ofNatPadded 3 status.toNat) ++ " -")]
        ++ (location.map fun l => Bytes.ofText ("Location: " ++ l)).toList
        ++ f.field pieces.flatten)
    ++ f.bodyBytes pieces

end Http

end ProxyAudit
