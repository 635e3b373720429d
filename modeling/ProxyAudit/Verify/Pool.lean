import ProxyAudit.Verify.Report

/-!
# Worker pools

A pool runs a number of workers on a bounded number of threads. Each thread claims the next index
from a shared counter, runs the worker of that index, hands its result in, and starts over; it
leaves when the indices are used up or when nobody takes results any more. Whoever opened the pool
starts the threads, takes some results or all of them, and then collects the rest and waits for
the threads to end.

A pool is a machine with one step for each thing that happens at once. Any order of enabled steps
is a history of the pool; nothing here says which one comes about.

Main results:

* `threadCount_le`       — there are no more threads than workers.
* `after?_append`        — a history may be cut into two.
* `length_threads_step`  — a step starts at most one thread and removes none.
-/

namespace ProxyAudit

/-- What a thread of a pool is doing. -/
inductive Thread where
  /-- It is about to claim an index. -/
  | idle
  /-- It runs the worker of an index. -/
  | working (index : UInt64)
  /-- It has a result to hand in. -/
  | sending (result : WorkerResult)
  /-- It has left its loop. -/
  | left
  /-- It died while it ran the worker of an index. -/
  | dead (index : UInt64)
  deriving DecidableEq

/-- A thread that will do nothing more. -/
def Thread.isOver : Thread → Bool
  | left | dead _ => true
  | _ => false

/-- What the caller of a pool wants of it once its threads are started. -/
inductive Demand where
  /-- It takes so many results and then collects the rest. -/
  | first (n : Nat)
  /-- It takes all results that come. -/
  | all
  /-- It drops the pool. -/
  | nothing
  deriving DecidableEq, Repr

/-- What the caller of a pool is doing. -/
inductive Caller where
  /-- It starts threads. -/
  | starting
  /-- It takes results: so many more, or all there are. -/
  | taking (more : Option Nat)
  /-- It collects what is left. -/
  | joining
  /-- It waits for the threads to end. -/
  | closing
  /-- It has all that it will get. -/
  | finished
  /-- It has dropped the pool. -/
  | gone
  deriving DecidableEq

/-- Somebody will still take results, or could. -/
def Caller.isListening : Caller → Bool
  | gone => false
  | _ => true

/-- What the caller does when its threads are started. -/
def Caller.ofDemand : Demand → Caller
  | .first n => taking (some n)
  | .all => taking none
  | .nothing => gone

structure Pool where
  /-- How many workers there are. -/
  count : UInt64
  /-- How many threads are to run them. -/
  threadLimit : Nat
  demand : Demand
  /-- The next index to be claimed. -/
  counter : UInt64
  threads : List Thread
  /-- The results that were handed in and not taken yet, oldest first. -/
  queue : List WorkerResult
  /-- How many results are still expected. -/
  remaining : UInt64
  /-- The results that the caller took, oldest first. -/
  taken : List WorkerResult
  /-- The results that were collected after that, oldest first. -/
  joined : List WorkerResult
  /-- The caller wanted to take a result when there was none to come. -/
  ended : Bool
  caller : Caller
  deriving DecidableEq

namespace Pool

/-- The number of threads of a pool: no more than asked for, at least one, and no more than there
are workers. -/
def threadCount (count : UInt64) (maxConcurrent : Option UInt64) : UInt64 :=
  min (max (maxConcurrent.getD count) 1) count

/-- A pool that nobody has done anything with. -/
def fresh (count : UInt64) (maxConcurrent : Option UInt64) (demand : Demand) : Pool where
  count
  threadLimit := (threadCount count maxConcurrent).toNat
  demand
  counter := 0
  threads := []
  queue := []
  remaining := count
  taken := []
  joined := []
  ended := false
  caller := .starting

/-- All results that left the pool, oldest first. -/
def delivered (p : Pool) : List WorkerResult :=
  p.taken ++ p.joined

/-- The pool with a thread that does something else. -/
def setThread (p : Pool) (t : Nat) (thread : Thread) : Pool :=
  { p with threads := p.threads.set t thread }

-- ---------------------------------------------------------------------------
-- Steps
-- ---------------------------------------------------------------------------

/-- What happens at once. -/
inductive Step where
  /-- The caller starts a thread. -/
  | start
  /-- No thread can be started, so the caller drops the pool. -/
  | refuse
  /-- All threads are started. -/
  | ready
  | claim (t : Nat)
  /-- A worker is done. -/
  | finish (t : Nat) (result : WorkerResult)
  /-- A worker dies, and its thread with it. -/
  | crash (t : Nat)
  | send (t : Nat)
  /-- The caller takes a result, or learns that there is none to come. -/
  | take
  /-- The caller has taken what it wanted. -/
  | join
  /-- The last thread has ended. -/
  | close
  /-- The caller drops the pool. -/
  | drop
  deriving DecidableEq

/-- What the caller gets if it takes a result now: a result, the news that there is none to come,
or nothing yet. -/
def offer (p : Pool) : Option (Option WorkerResult) :=
  if p.remaining = 0 then some none
  else
    match p.queue with
    | r :: _ => some (some r)
    | [] => if p.threads.all Thread.isOver then some none else none

/-- The pool after a result has left the queue. -/
def dequeue (p : Pool) : Pool :=
  { p with queue := p.queue.drop 1, remaining := p.remaining - 1 }

/-- The caller takes one of the results that it wants for itself. -/
def takeOne (p : Pool) (more : Option Nat) : Option Pool :=
  match p.offer with
  | none => none
  | some none =>
    some { p with
      ended := true
      caller := match more with
        | some k => .taking (some (k - 1))
        | none => .joining }
  | some (some r) =>
    some { p.dequeue with taken := p.taken ++ [r], caller := .taking (more.map (· - 1)) }

/-- The caller collects one of the results that are left. -/
def joinOne (p : Pool) : Option Pool :=
  match p.offer with
  | none => none
  | some none => some { p with caller := .closing }
  | some (some r) => some { p.dequeue with joined := p.joined ++ [r] }

/-- The pool after a step, if the step is possible. -/
def step? (p : Pool) : Step → Option Pool
  | .start =>
    if p.caller = .starting ∧ p.threads.length < p.threadLimit then
      some { p with threads := p.threads ++ [.idle] }
    else none
  | .refuse =>
    if p.caller = .starting ∧ p.threads.length < p.threadLimit then some { p with caller := .gone }
    else none
  | .ready =>
    if p.caller = .starting ∧ p.threads.length = p.threadLimit then
      some { p with caller := .ofDemand p.demand }
    else none
  | .claim t =>
    match p.threads[t]? with
    | some .idle =>
      some { p.setThread t (if p.counter < p.count then .working p.counter else .left) with
        counter := p.counter + 1 }
    | _ => none
  | .finish t r =>
    match p.threads[t]? with
    | some (.working i) => if r.index = i then some (p.setThread t (.sending r)) else none
    | _ => none
  | .crash t =>
    match p.threads[t]? with
    | some (.working i) => some (p.setThread t (.dead i))
    | _ => none
  | .send t =>
    match p.threads[t]? with
    | some (.sending r) =>
      if p.caller.isListening then some { p.setThread t .idle with queue := p.queue ++ [r] }
      else some (p.setThread t .left)
    | _ => none
  | .take =>
    match p.caller with
    | .taking (some 0) => none
    | .taking more => p.takeOne more
    | .joining => p.joinOne
    | _ => none
  | .join => if p.caller = .taking (some 0) then some { p with caller := .joining } else none
  | .close =>
    if p.caller = .closing ∧ p.threads.all Thread.isOver then some { p with caller := .finished }
    else none
  | .drop =>
    match p.caller with
    | .taking _ => some { p with caller := .gone }
    | _ => none

/-- The pool after a history of steps, if each of them is possible in its turn. -/
def after? (p : Pool) : List Step → Option Pool
  | [] => some p
  | s :: history => (p.step? s).bind (·.after? history)

/-- A pool that some history leads to. -/
def Reachable (start p : Pool) : Prop :=
  ∃ history, start.after? history = some p

/-- A bound on the steps that are still to come. -/
def measure (p : Pool) : Nat :=
  4 * (p.count.toNat - p.counter.toNat) + p.threads.foldr (fun t n => threadMeasure t + n) 0 + p.queue.length
    + 2 * (p.threadLimit - p.threads.length) + callerMeasure p.caller
where
  threadMeasure : Thread → Nat
    | .idle => 1
    | .working _ => 4
    | .sending _ => 3
    | .left | .dead _ => 0
  callerMeasure : Caller → Nat
    | .starting => (match p.demand with | .first n => n | _ => 0) + 4
    | .taking more => more.getD 0 + 3
    | .joining => 2
    | .closing => 1
    | .finished | .gone => 0

-- ---------------------------------------------------------------------------
-- Histories
-- ---------------------------------------------------------------------------

/-- What may be chosen to happen next. -/
inductive Choice where
  | step (s : Step)
  /-- A worker runs, and then it is done or dies. -/
  | work (t : Nat)
  /-- A worker runs, but dies before it is done. -/
  | ruin (t : Nat)
  deriving DecidableEq

/-- A choice that is possible. -/
def isOpen (p : Pool) : Choice → Bool
  | .step s => (p.step? s).isSome
  | .work t | .ruin t => (p.step? (.crash t)).isSome

/-- The choices that are open: what the caller can do, then what the threads can do. -/
def choices (p : Pool) : List Choice :=
  let ofCaller := [Step.take, .join, .close, .ready].map Choice.step
  let ofThreads := (List.range p.threads.length).flatMap fun t =>
    [Choice.step (.send t), .work t, .step (.claim t)]
  (ofCaller ++ ofThreads ++ [Choice.step .start]).filter p.isOpen

/-- Who decides what happens next: given the number of steps so far and the pool, a choice, or
none to stop. -/
abbrev Schedule := Nat → Pool → Option Choice

/-- The schedule that lets the first open choice happen. -/
def eager : Schedule := fun _ p => p.choices.head?

/-- The result that a step hands to the caller for itself. -/
def handedOver (before after : Pool) : Option WorkerResult :=
  if before.taken.length < after.taken.length then after.taken.getLast? else none

/-- The step that a choice comes to, where workers have effects. -/
def play {m : Type → Type} [Monad m] (p : Pool) (work : UInt64 → m (Option WorkerResult)) :
    Choice → m Step
  | .step s => pure s
  | .work t =>
    match p.threads[t]? with
    | some (.working i) => do
      match ← work i with
      | some r => return .finish t r
      | none => return .crash t
    | _ => pure (.crash t)
  | .ruin t =>
    match p.threads[t]? with
    | some (.working i) => do
      let _ ← work i
      return .crash t
    | _ => pure (.crash t)

/-- Lets a pool run for a number of steps by a schedule, where workers and the taking of results
have effects. -/
def runFor {m : Type → Type} [Monad m] (schedule : Schedule)
    (work : UInt64 → m (Option WorkerResult)) (onTake : WorkerResult → m Unit) :
    Nat → Nat → Pool → m Pool
  | 0, _, p => pure p
  | fuel + 1, n, p => do
    match schedule n p with
    | none => pure p
    | some choice =>
      match p.step? (← p.play work choice) with
      | none => pure p
      | some q =>
        match handedOver p q with
        | some r => onTake r
        | none => pure ()
        runFor schedule work onTake fuel (n + 1) q

/-- Lets a pool run to its end. -/
def runIn {m : Type → Type} [Monad m] (schedule : Schedule) (p : Pool)
    (work : UInt64 → m (Option WorkerResult)) (onTake : WorkerResult → m Unit) : m Pool :=
  runFor schedule work onTake p.measure 0 p

-- ---------------------------------------------------------------------------
-- Small facts
-- ---------------------------------------------------------------------------

theorem threadCount_le (count : UInt64) (maxConcurrent : Option UInt64) :
    threadCount count maxConcurrent ≤ count := by
  unfold threadCount
  exact Std.min_le_right

theorem after?_append (p : Pool) (xs ys : List Step) :
    p.after? (xs ++ ys) = (p.after? xs).bind (·.after? ys) := by
  induction xs generalizing p with
  | nil => rfl
  | cons s xs ih =>
    simp only [List.cons_append, after?]
    cases p.step? s with
    | none => rfl
    | some q => simpa using ih q

theorem length_threads_step {p q : Pool} {s : Step} (h : p.step? s = some q) :
    p.threads.length ≤ q.threads.length ∧ q.threads.length ≤ p.threads.length + 1 := by
  cases s <;> simp only [step?, takeOne, joinOne, dequeue, setThread] at h <;>
    repeat' split at h
  all_goals first
    | contradiction
    | (cases h; simp)

end Pool

end ProxyAudit
