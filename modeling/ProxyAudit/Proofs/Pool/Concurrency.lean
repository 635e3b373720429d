import Mathlib
import ProxyAudit.Config.Basic
import ProxyAudit.Proofs.Pool.Records

/-!
# The bound on concurrency

A pool runs no more workers at once than it has threads, since each thread is at one worker at most.
It has as many threads as were asked for, but at least one and no more than there are workers. And
the bound is used: a thread leaves when the indices are used up or when the caller is gone, so while
there is an index left and a caller, every thread is at work unless its worker has killed it.

Main results:

* `threadCount_eq_of_check`  — the threads of a sound configuration.
* `length_held_le`           — the workers at once are no more than the threads.
* `isOver_eq_false`          — no thread retires while work is left.
* `concurrency_bounded`      — the bound on concurrency, of every history.
-/

namespace ProxyAudit.Pool

variable {count : UInt64} {maxConcurrent : Option UInt64} {demand : Demand}
variable {history : List Step} {p : Pool}

-- ---------------------------------------------------------------------------
-- How many threads there are
-- ---------------------------------------------------------------------------

theorem threadCount_eq_zero_iff (count : UInt64) (maxConcurrent : Option UInt64) :
    threadCount count maxConcurrent = 0 ↔ count = 0 := by
  rw [← UInt64.toNat_inj, ← UInt64.toNat_inj, toNat_threadCount, UInt64.toNat_zero]
  omega

/-- Where no threads at all are not allowed, there are as many as allowed, or as workers. -/
theorem threadCount_eq_of_check {c : Config} (hCheck : c.check = .ok ()) (count : UInt64) :
    threadCount count c.maxConcurrent = min (c.maxConcurrent.getD count) count := by
  have hSome : c.maxConcurrent ≠ some 0 := ((Config.check_eq_ok_iff c).mp hCheck).concurrency
  rw [← UInt64.toNat_inj, toNat_threadCount, UInt64.toNat_min]
  cases hMax : c.maxConcurrent with
  | none =>
    rw [Option.getD_none]
    omega
  | some n =>
    -- no concurrency at all is what the check refuses, so the lower bound of one does nothing
    have hPos : n.toNat ≠ 0 := by
      intro hZero
      obtain rfl : n = 0 := UInt64.toNat_inj.mp hZero
      exact hSome hMax
    rw [Option.getD_some]
    omega

-- ---------------------------------------------------------------------------
-- The bound is kept
-- ---------------------------------------------------------------------------

/-- **Workers at once.** There are no more of them than threads, those not counted that died at
one. -/
theorem length_held_le (p : Pool) : p.held.length + p.lost.length ≤ p.threads.length := by
  have := length_threads p
  omega

-- ---------------------------------------------------------------------------
-- The bound is used
-- ---------------------------------------------------------------------------

/-- **No thread retires while work is left.** -/
theorem isOver_eq_false (h : (fresh count maxConcurrent demand).after? history = some p)
    (hCaller : p.caller ≠ .gone) {i : UInt64} (hi : i < count)
    (hUnclaimed : i ∉ (fresh count maxConcurrent demand).begunIndices history) {th : Thread}
    (hThread : th ∈ p.threads) (hAlive : th.isDead = false) : th.isOver = false := by
  cases th with
  | idle | working | sending => rfl
  | dead => simp [Thread.isDead] at hAlive
  | left =>
    have hClaims := count_le_claims_of_left h hCaller hThread
    rw [UInt64.lt_iff_toNat_lt] at hi
    refine absurd (mem_begunIndices h ?_ (by omega)) hUnclaimed
    rwa [UInt64.lt_iff_toNat_lt]

/--
**The bound on concurrency is kept and used.** Take a pool of any number of workers, with any bound
on the threads. Wherever a history has led it, whoever had the next turn and whichever workers died:

* its threads are no more than the bound, but at least one, and no more than the workers; for a
  bound of a sound configuration they are the smaller of both, and there are none only without
  workers;
* no more workers than that have been begun and not handed in, not even with those that died, and as
  long as the caller is there it is exactly these that are in the hands of a thread or lost;
* no more threads than that are ever started, and all of them once the caller has started them;
* as long as the caller is there and some index is unclaimed, every thread that has not died is in
  its loop, so that only the dead are missing.
-/
theorem concurrency_bounded
    (hHistory : (fresh count maxConcurrent demand).after? history = some p) :
    let start := fresh count maxConcurrent demand
    let limit := threadCount count maxConcurrent
    limit = min (max (maxConcurrent.getD count) 1) count ∧ (limit = 0 ↔ count = 0) ∧
    (∀ c : Config, c.check = .ok () → c.maxConcurrent = maxConcurrent →
      limit = min (maxConcurrent.getD count) count) ∧
    p.held.length + p.lost.length ≤ limit.toNat ∧
    (p.caller ≠ .gone →
      (start.begunIndices history).Perm (p.held ++ p.lost ++ start.sentIndices history)) ∧
    p.threads.length ≤ limit.toNat ∧
    (p.caller ≠ .starting → p.caller ≠ .gone → p.threads.length = limit.toNat) ∧
    (p.caller ≠ .gone → (∃ i < count, i ∉ start.begunIndices history) →
      (∀ th ∈ p.threads, th.isDead = false → th.isOver = false) ∧
      p.liveThreads + p.lost.length = p.threads.length) := by
  intro start limit
  have hLengthLe := length_threads_le hHistory
  have hLengthEq := (staffed_of_after? hHistory).length_eq
  rw [threadLimit_of_after? hHistory] at hLengthEq
  refine ⟨rfl, threadCount_eq_zero_iff _ _, ?sound, (length_held_le p).trans hLengthLe,
    begun_perm hHistory, hLengthLe, hLengthEq, ?used⟩
  case sound =>
    rintro c hCheck rfl
    exact threadCount_eq_of_check hCheck count
  case used =>
    rintro hCaller ⟨i, hi, hUnclaimed⟩
    have hRuns : ∀ th ∈ p.threads, th.isDead = false → th.isOver = false :=
      fun th hThread => isOver_eq_false hHistory hCaller hi hUnclaimed hThread
    refine ⟨hRuns, ?_⟩
    -- while an index is left, whoever is over has died with its worker
    have hLost : p.lost.length = p.threads.countP Thread.isOver := by
      rw [lost, List.length_filterMap_eq_countP]
      refine List.countP_congr fun th hThread => ?_
      have := hRuns th hThread
      cases th <;> simp_all [Thread.lost?, Thread.isOver, Thread.isDead]
    have hSplit := List.length_eq_countP_add_countP Thread.isOver (l := p.threads)
    simp only [Bool.not_eq_true, Bool.decide_eq_false] at hSplit
    rw [liveThreads, hLost]
    omega

/-- Two threads of three workers, of which one dies at the first worker. The other is at the second
worker and in its loop, while the third is unclaimed. -/
theorem concurrency_bounded_of_crash :
    let history : List Step := [.start, .start, .ready, .claim 0, .claim 1, .crash 0]
    let start := fresh 3 (some 2) .all
    ∃ p, start.after? history = some p ∧ p.threads.length = 2 ∧ p.held = [1] ∧ p.lost = [0] ∧
      p.held.length + p.lost.length ≤ 2 ∧ 2 ∉ start.begunIndices history ∧
      (∀ th ∈ p.threads, th.isDead = false → th.isOver = false) ∧ p.liveThreads = 1 := by
  intro history start
  obtain ⟨p, hp, hEnd⟩ := Option.map_eq_some_iff.mp
    (show (start.after? history).map (fun p => (p.caller, p.held, p.lost))
      = some (.taking none, [1], [0]) by decide +kernel)
  simp only [Prod.mk.injEq] at hEnd
  obtain ⟨hCaller, hHeld, hLost⟩ := hEnd
  have hUnclaimed : 2 ∉ start.begunIndices history := by decide +kernel
  obtain ⟨-, -, -, hBound, -, -, hLength, hUsed⟩ := concurrency_bounded hp
  replace hLength : p.threads.length = 2 := hLength (by simp [hCaller]) (by simp [hCaller])
  obtain ⟨hRuns, hLive⟩ := hUsed (by simp [hCaller]) ⟨2, by decide, hUnclaimed⟩
  refine ⟨p, hp, hLength, hHeld, hLost, hBound, hUnclaimed, hRuns, ?_⟩
  rw [hLost, hLength, List.length_singleton] at hLive
  omega

end ProxyAudit.Pool
