import ProxyAudit.Digest.Sink
import ProxyAudit.Fetch.Error

/-!
# Fetched bodies

A body is not kept: its pieces go into a digest as they arrive, and what remains of it is the
digest and the number of its bytes.
-/

namespace ProxyAudit

/-- A body that arrived whole, known by its digest and its length. -/
structure FetchedBody where
  digest : Digest
  bytes : UInt64
  deriving DecidableEq

/-- What comes of a fetch. -/
abbrev FetchResult := Except FetchError FetchedBody

namespace FetchedBody

/-- What a sink has taken. -/
def ofSink (s : DigestSink) : FetchedBody :=
  ⟨s.finish, s.bytes⟩

/-- The body that arrived in pieces. -/
def ofPieces (pieces : List Bytes) : FetchedBody :=
  ofSink (DigestSink.empty.updateAll pieces)

end FetchedBody

/-- What comes of a reply that arrived whole: its body if the status is a success. -/
def FetchResult.ofReply (status : UInt32) (pieces : List Bytes) : FetchResult :=
  match FetchError.ofStatus? status with
  | some e => .error e
  | none => .ok (.ofPieces pieces)

end ProxyAudit
