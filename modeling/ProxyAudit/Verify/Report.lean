import ProxyAudit.Verify.Outcome

/-!
# Reports

A report counts the outcomes of a run. A worker that never reported counts as a failure, so a run
passes only if every expected worker reported a match. Counts are 64-bit words; a list of results
that fits the memory of a machine never makes them wrap.
-/

namespace ProxyAudit

/-- What one worker reported: its number, its outcome, and the milliseconds it waited and
fetched. -/
structure WorkerResult where
  index : UInt64
  outcome : Outcome
  jitterMs : UInt64
  fetchMs : UInt64
  deriving DecidableEq

namespace WorkerResult

/-- The result as one flat object. -/
def toJson (r : WorkerResult) : Json :=
  .obj ([("index", .num r.index.toNat)] ++ r.outcome.fields
    ++ [("jitter_ms", .num r.jitterMs.toNat), ("fetch_ms", .num r.fetchMs.toNat)])

/-- The console line of a result: the bare label, or the number and the reason. -/
def line (r : WorkerResult) (verbose : Bool) : String :=
  if verbose then "worker " ++ Decimal.text r.index.toNat ++ ": " ++ r.outcome.describe
  else r.outcome.label

end WorkerResult

/-- The account of a run. -/
structure Report where
  targetUrl : String
  proxy : String
  reference : Digest
  successes : UInt64
  failures : UInt64
  timeouts : UInt64
  missing : UInt64
  results : List WorkerResult
  deriving DecidableEq

namespace Report

/-- How many of the results satisfy a test. -/
def count (results : List WorkerResult) (p : Outcome → Bool) : UInt64 :=
  UInt64.ofNat (results.countP fun r => p r.outcome)

/-- The account of the results of a run that expected so many workers. -/
def ofResults (targetUrl proxy : String) (reference : Digest) (expected : UInt64)
    (results : List WorkerResult) : Report :=
  let reported := UInt64.ofNat results.length
  let missing := if reported ≤ expected then expected - reported else 0
  let successes := count results Outcome.isSuccess
  { targetUrl, proxy, reference, successes, missing, results
    failures := reported - successes + missing
    timeouts := count results Outcome.isTimeout }

/-- A run passes if nothing failed; with no workers nothing fails. -/
def passed (r : Report) : Bool :=
  r.failures == 0

def toJson (r : Report) : Json :=
  .obj [("target_url", .str r.targetUrl), ("proxy", .str r.proxy),
    ("reference", .str r.reference.text), ("successes", .num r.successes.toNat),
    ("failures", .num r.failures.toNat), ("timeouts", .num r.timeouts.toNat),
    ("missing", .num r.missing.toNat), ("results", .arr (r.results.map WorkerResult.toJson))]

/-- The line that closes a verbose run. -/
def summary (r : Report) : String :=
  Decimal.text r.successes.toNat ++ " succeeded, " ++ Decimal.text r.failures.toNat ++ " failed ("
    ++ Decimal.text r.timeouts.toNat ++ " timed out, " ++ Decimal.text r.missing.toNat
    ++ " never reported)"

end Report

end ProxyAudit
