import ProxyAudit.Digest.Sha256
import ProxyAudit.Text.Blank
import ProxyAudit.Text.Decimal
import ProxyAudit.Text.Quoted

/-!
# Digests

A digest is the 32 bytes of a SHA-256 hash. It is written as 64 lower-case hexadecimal digits and
read from the first token of a text, so that a line of a checksum list reads as its digest.

Main results:

* `ofHex?_hex`   — the written digits read back.
* `length_hex`   — a digest has 64 digits.
-/

namespace ProxyAudit

/-- A SHA-256 value. -/
structure Digest where
  bytes : Bytes
  length_eq : bytes.length = 32
  deriving DecidableEq

namespace Digest

def ofBytes (message : Bytes) : Digest :=
  ⟨Sha256.hash message, Sha256.length_hash message⟩

-- ---------------------------------------------------------------------------
-- Writing
-- ---------------------------------------------------------------------------

/-- The 64 digits of a digest. -/
def hex (d : Digest) : List Char :=
  Hex.write d.bytes

def text (d : Digest) : String :=
  String.ofList d.hex

/-- The first twelve digits, enough to tell digests apart in a message. -/
def short (d : Digest) : String :=
  String.ofList (d.hex.take 12)

theorem length_hex (d : Digest) : d.hex.length = 64 := by
  rw [hex, Hex.length_write, d.length_eq]

-- ---------------------------------------------------------------------------
-- Reading
-- ---------------------------------------------------------------------------

/-- Why a text is no digest. -/
inductive ParseError where
  /-- The first token has so many bytes in UTF-8 instead of 64. -/
  | length (bytes : Nat)
  /-- The first character of the token that is no hexadecimal digit. -/
  | nonHex (char : Char)
  deriving DecidableEq, Repr

def ParseError.message : ParseError → String
  | .length n => "digest must be 64 hex characters, got " ++ Decimal.text n
  | .nonHex c => "digest contains non-hex character " ++ Text.quotedChar c

/-- The digest that exactly 64 hexadecimal digits spell. -/
def ofHex? (cs : List Char) : Option Digest := do
  let bytes ← Hex.read? cs
  if h : bytes.length = 32 then some ⟨bytes, h⟩ else none

/-- What is wrong with a token that is no digest: its length if that is not 64, else its first
character that is no digit. -/
def fault (token : List Char) : ParseError :=
  let n := Bytes.utf8Length token
  match n == 64, token.find? (!Hex.isDigit ·) with
  | true, some c => .nonHex c
  | _, _ => .length n

/-- Reads the digest in the first token of a text. -/
def parse (s : String) : Except ParseError Digest :=
  let token := Text.firstToken s.toList
  match ofHex? token with
  | some d => .ok d
  | none => .error (fault token)

theorem ofHex?_hex (d : Digest) : ofHex? d.hex = some d := by
  simp [ofHex?, hex, Hex.read?_write, d.length_eq]

end Digest

end ProxyAudit
