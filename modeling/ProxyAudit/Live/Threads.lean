import Std.Sync.Mutex
import ProxyAudit.Verify.Pool

/-!
# Real threads

A pool whose steps are taken by threads of the operating system. Each step is taken on the shared
pool as a whole, so what happens is a history of the pool.
-/

namespace ProxyAudit.Live

/-- A pool that threads share, and the news that it has changed. -/
structure SharedPool where
  pool : Std.Mutex Pool
  changed : Std.Condvar

namespace SharedPool

/-- Shares a pool. -/
def share (p : Pool) : IO SharedPool := do
  return ⟨← Std.Mutex.new p, ← Std.Condvar.new⟩

/-- Takes a step if it is possible. Gives the pool before and after. -/
def take (shared : SharedPool) (s : Pool.Step) : IO (Pool × Pool) := do
  let both ← shared.pool.atomically do
    let p ← get
    let q := (p.step? s).getD p
    set q
    return (p, q)
  shared.changed.notifyAll
  return both

/-- Takes a step as soon as it is possible. -/
def await (shared : SharedPool) (s : Pool.Step) : IO (Pool × Pool) := do
  let both ← shared.pool.atomicallyOnce shared.changed (do return ((← get).step? s).isSome) do
    let p ← get
    let q := (p.step? s).getD p
    set q
    return (p, q)
  shared.changed.notifyAll
  return both

/-- The life of a thread. -/
partial def runThread (shared : SharedPool) (work : UInt64 → IO (Option WorkerResult)) (t : Nat) :
    IO Unit := do
  match (← shared.take (.claim t)).2.threads[t]? with
  | some (.working i) =>
    let result ← try work i catch _ => pure none
    match result with
    | none => discard (shared.take (.crash t))
    | some r =>
      discard (shared.take (.finish t r))
      discard (shared.take (.send t))
      runThread shared work t
  | _ => return ()

/-- What the caller does after its threads are started. -/
partial def runCaller (shared : SharedPool) (onTake : WorkerResult → IO Unit) (p : Pool) :
    IO Pool := do
  match p.caller with
  | .starting => runCaller shared onTake (← shared.take .ready).2
  | .taking (some 0) => runCaller shared onTake (← shared.take .join).2
  | .taking _ | .joining =>
    let (p, q) ← shared.await .take
    match Pool.handedOver p q with
    | some r => onTake r
    | none => pure ()
    runCaller shared onTake q
  | .closing => runCaller shared onTake (← shared.await .close).2
  | .finished | .gone => return p

end SharedPool

/-- Runs a pool on threads. -/
def runPool (p : Pool) (work : UInt64 → IO (Option WorkerResult))
    (onTake : WorkerResult → IO Unit) : IO Pool := do
  let shared ← SharedPool.share p
  for t in [0:p.threadLimit] do
    discard (shared.take .start)
    discard (IO.asTask (shared.runThread work t) .dedicated)
  shared.runCaller onTake (← shared.take .ready).2

end ProxyAudit.Live
