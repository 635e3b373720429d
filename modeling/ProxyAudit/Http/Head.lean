import ProxyAudit.Fetch.Address

/-!
# Heads of replies

The head of an HTTP reply is a status line and a number of fields. A fetch needs to know few of
them: how long the body is, whether it comes in chunks, and where a redirect leads. Names are compared
without regard to the case of ASCII letters.
-/

namespace ProxyAudit.Http

/-- The part of a head that matters to a fetch. -/
structure Head where
  status : UInt32
  /-- The announced length of the body. -/
  length : Option Nat
  isChunked : Bool
  location : Option String
  deriving DecidableEq, Repr

namespace Head

/-- A head of which only the status is known. -/
def ofStatus (status : UInt32) : Head :=
  ⟨status, none, false, none⟩

/-- A byte as a lower-case character. -/
def lower (b : UInt8) : Char :=
  (Char.ofNat b.toNat).toLower

/-- The digits at the start of some bytes, as a number. -/
def leadingNumber? (bs : Bytes) : Option Nat :=
  Decimal.toNat? ((bs.map fun b => Char.ofNat b.toNat).takeWhile Decimal.isDigit)

/-- The bytes that every status line starts with. -/
def protocolName : List Char :=
  "http/".toList

/-- Bytes that may be the start of a status line. -/
def maybeStatusLine (bs : Bytes) : Bool :=
  let cs := (bs.map lower).take protocolName.length
  cs.isPrefixOf protocolName

/-- Reads a status line of HTTP/1.0 or HTTP/1.1. -/
def ofStatusLine? (line : Bytes) : Option Head :=
  match line.map lower with
  | 'h' :: 't' :: 't' :: 'p' :: '/' :: '1' :: '.' :: minor :: ' ' :: rest =>
    let code := (rest.dropWhile (· == ' ')).takeWhile (· != ' ')
    if (minor == '0' || minor == '1') && code.length == 3 then
      (Decimal.toNat? code).map fun n => ofStatus (UInt32.ofNat n)
    else none
  | _ => none

/-- Bytes without the blanks around them. -/
def trim (bs : Bytes) : Bytes :=
  let isBlank (b : UInt8) : Bool := b == 32 || b == 9
  ((bs.dropWhile isBlank).reverse.dropWhile isBlank).reverse

/-- The lower-case name and the value of a field. -/
def splitField (line : Bytes) : List Char × Bytes :=
  (((line.takeWhile (· ≠ 58)).map lower), trim ((line.dropWhile (· ≠ 58)).drop 1))

/-- The coding of a body that comes in chunks. -/
def isChunkedCoding (value : Bytes) : Bool :=
  (Domain.splitAtChar ',' (value.map lower)).any fun cs =>
    cs.filter (· != ' ') == "chunked".toList

/-- Adds a field to a head, unless it makes no sense. The first place that is named counts. -/
def addField (h : Head) (line : Bytes) : Except Fault Head :=
  match splitField line with
  | (name, value) =>
    if name = "content-length".toList then
      match leadingNumber? value with
      | some n => .ok { h with length := some n }
      | none => .error .senselessReply
    else if name = "transfer-encoding".toList then
      .ok { h with isChunked := h.isChunked || isChunkedCoding value }
    else if name = "location".toList ∧ value ≠ [] ∧ h.location = none then
      .ok { h with location := some ((Bytes.toText? value).getD "") }
    else .ok h

/-- A reply that only announces another one. -/
def isInterim (h : Head) : Bool :=
  100 ≤ h.status && h.status < 200

/-- A reply that has no body, whatever its fields say. -/
def isBodiless (h : Head) : Bool :=
  h.status == 204 || h.status == 304

end Head

end ProxyAudit.Http
