import ProxyAudit.Fetch.Transfer
import ProxyAudit.Verify.Pool

/-!
# Workers

A worker waits a random span, fetches the target through the proxy, and compares what it got with
the reference. It fetches once, whatever comes of it.

What a worker needs of the machine that it runs on is gathered in a record, so that the same
worker runs on a real machine and on a described one.

Main results:

* `runWorker_of_no_draw`  — a worker that cannot draw a waiting time dies before it fetches.
-/

namespace ProxyAudit

/-- What workers and their pool need of a machine. -/
structure Machine (m : Type → Type) where
  fetch : String → Route → TimeoutSection → m FetchResult
  /-- A source of random spans. -/
  draw : m Draw
  sleep : Span → m Unit
  /-- The nanoseconds on a clock that never goes back. -/
  now : m Nat
  /-- Lets a pool run to its end, given what its workers do and what is done with the results
  that the caller takes. -/
  runPool : Pool → (UInt64 → m (Option WorkerResult)) → (WorkerResult → m Unit) → m Pool

/-- What all workers of a run share. -/
structure Assignment where
  targetUrl : String
  proxy : String
  timeouts : TimeoutSection
  jitter : Jitter
  reference : Digest
  deriving DecidableEq

/-- The whole milliseconds between two times, or the largest word if there are more. -/
def millisBetween (before after : Nat) : UInt64 :=
  UInt64.ofNat (min ((after - before) / 1000000) 0xffffffffffffffff)

/-- Runs the worker of an index. It has no result if it dies. -/
def Assignment.runWorker {m : Type → Type} [Monad m] (a : Assignment) (machine : Machine m)
    (index : UInt64) : m (Option WorkerResult) := do
  let draw ← machine.draw
  match a.jitter.sample draw with
  | none => return none
  | some delay =>
    machine.sleep delay
    let before ← machine.now
    let fetched ← machine.fetch a.targetUrl (.proxy a.proxy) a.timeouts
    let after ← machine.now
    return some
      { index
        outcome := .ofFetch a.reference fetched
        jitterMs := delay.millis
        fetchMs := millisBetween before after }

theorem Assignment.runWorker_of_no_draw {m : Type → Type} [Monad m] [LawfulMonad m]
    (a : Assignment) {machine : Machine m} (index : UInt64) {draw : Draw}
    (hm : machine.draw = pure draw) (h : a.jitter.sample draw = none) :
    a.runWorker machine index = pure none := by
  simp [runWorker, hm, h]

end ProxyAudit
