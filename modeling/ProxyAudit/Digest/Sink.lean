import ProxyAudit.Digest.Basic

/-!
# Digest of a stream

A sink takes a body piece by piece and hashes whole blocks as they fill, so a body of any size
needs no more room than one block. A sink is a value: a copy of it goes its own way.
-/

namespace ProxyAudit

/-- A hash in progress. -/
structure DigestSink where
  /-- The hash state after the whole blocks. -/
  state : Sha256.State
  /-- The bytes after the last whole block. -/
  pending : Bytes
  /-- How many bytes went in, as a 64-bit count. -/
  bytes : UInt64
  deriving DecidableEq, Repr

namespace DigestSink

/-- A sink that has taken nothing. -/
def empty : DigestSink :=
  ⟨.initial, [], 0⟩

/-- The sink after one more piece. -/
def update (s : DigestSink) (piece : Bytes) : DigestSink :=
  let (state, pending) := Sha256.absorb s.state (s.pending ++ piece)
  ⟨state, pending, s.bytes + UInt64.ofNat piece.length⟩

/-- What follows the bytes taken so far in the padded message. -/
def padding (s : DigestSink) : Bytes :=
  Sha256.padding s.bytes.toNat

/-- The digest of everything that went in. -/
def finish (s : DigestSink) : Digest :=
  ⟨(Sha256.absorb s.state (s.pending ++ s.padding)).1.bytes, Sha256.length_bytes _⟩

/-- The sink after a list of pieces. -/
def updateAll (s : DigestSink) (pieces : List Bytes) : DigestSink :=
  pieces.foldl update s

end DigestSink

end ProxyAudit
