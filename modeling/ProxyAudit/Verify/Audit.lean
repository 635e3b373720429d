import ProxyAudit.Verify.Worker

/-!
# Audits

An audit fetches the target directly, which gives the reference, and only then lets the workers
fetch it through the proxy. Without a sound configuration nothing is fetched, and without a
reference no worker starts.

The tables of an audit, one entry for each thread and one for each result, must fit the memory
that a machine can address.

Main results:

* `audit_refused`  — an unsound configuration is refused before anything is fetched.
-/

namespace ProxyAudit

/-- Why an audit has no report. -/
inductive AuditError where
  | refused (fault : Config.Fault)
  | noReference (url : String) (error : FetchError)
  /-- A thread could not be started. -/
  | noThread (t : Nat)
  /-- A table does not fit the memory. -/
  | tooLarge
  deriving DecidableEq

/-- The message of an audit without a report. -/
def AuditError.message : AuditError → String
  | refused fault => fault.message
  | noReference url error => "reference fetch of " ++ url ++ " failed: " ++ error.message
  | noThread t =>
    "spawn worker thread " ++ Decimal.text t ++ ": Resource temporarily unavailable (os error 11)"
  | tooLarge => "capacity overflow"

namespace Capacity

/-- The bytes that an entry of the table of threads takes. -/
def threadEntry : Nat := 24

/-- The bytes that an entry of the table of results takes. -/
def resultEntry : Nat := 80

/-- A table of so many entries can be addressed. -/
def fits (entries : UInt64) (entry : Nat) : Bool :=
  entries.toNat * entry < 0x8000000000000000

end Capacity

namespace Config

/-- What the workers of a configuration share. -/
def assignment (c : Config) (reference : Digest) : Assignment where
  targetUrl := c.targetUrl
  proxy := c.proxy
  timeouts := c.timeouts
  jitter := c.jitter.toJitter
  reference

/-- The pool of a configuration. If the table of results does not fit, the pool is dropped as soon
as it runs. -/
def pool (c : Config) : Pool :=
  .fresh c.workers c.maxConcurrent
    (if Capacity.fits c.workers Capacity.resultEntry then .all else .nothing)

/-- What the end of a configuration's pool means for the audit. A pool that was left with threads
still to be started has failed to start one; the table of results is only made after that. -/
def conclude (c : Config) (reference : Digest) (p : Pool) : Except AuditError Report :=
  match p.demand, p.caller with
  | .nothing, .gone =>
    if p.threads.length < p.threadLimit then .error (.noThread p.threads.length)
    else .error .tooLarge
  | .nothing, _ => .error .tooLarge
  | _, .gone => .error (.noThread p.threads.length)
  | _, _ => .ok (.ofResults c.targetUrl c.proxy reference c.workers p.delivered)

variable {m : Type → Type} [Monad m]

/-- Runs the workers of a configuration against a reference. -/
def runWorkers (c : Config) (machine : Machine m) (reference : Digest)
    (onResult : WorkerResult → m Unit) : m (Except AuditError Report) := do
  if Capacity.fits (Pool.threadCount c.workers c.maxConcurrent) Capacity.threadEntry then
    let p ← machine.runPool c.pool ((c.assignment reference).runWorker machine) onResult
    return c.conclude reference p
  else return .error .tooLarge

/-- Runs an audit. The reference is told as soon as it is known, before any worker starts, and
each result as soon as it is taken from the pool. -/
def audit (c : Config) (machine : Machine m) (onReference : Digest → m Unit)
    (onResult : WorkerResult → m Unit) : m (Except AuditError Report) :=
  match c.check with
  | .error fault => return .error (.refused fault)
  | .ok () => do
    match ← machine.fetch c.targetUrl .direct c.timeouts with
    | .error e => return .error (.noReference c.targetUrl e)
    | .ok body =>
      onReference body.digest
      c.runWorkers machine body.digest onResult

theorem audit_refused {c : Config} {fault : Fault} (machine : Machine m)
    (onReference : Digest → m Unit) (onResult : WorkerResult → m Unit)
    (h : c.check = .error fault) :
    c.audit machine onReference onResult = pure (.error (.refused fault)) := by
  simp [audit, h]

end Config

end ProxyAudit
