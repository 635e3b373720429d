import Mathlib
import ProxyAudit.Proofs.Audit.Ledger

/-!
# The course of a run

What an observer has seen of the workers when a run is over, and how the report comes out of it. A
schedule may let the threads and the caller have their turns in any order and may strike workers
dead; the report is there in any case, as long as the tables of the run fit the memory.

Main results:

* `runWorkers_course`  — a run ends with a report, which says what was seen.
-/

namespace ProxyAudit

variable {σ α : Type}

-- ---------------------------------------------------------------------------
-- What the end of a run shows
-- ---------------------------------------------------------------------------

/-- What was seen of the workers of a run, against the results that it reports. -/
structure Course (a : Assignment) (result : α → FetchResult) (workers : UInt64)
    (results : List WorkerResult) (seen : List (Sighting α)) : Prop where
  /-- Workers fetch by their assignment, and results are handed over. -/
  kinds : ∀ x ∈ seen, (∃ i came, x = a.fetch i came) ∨ ∃ r, x = .took r
  /-- What is reported is what was handed over, in that order. -/
  results_eq : resultsIn seen = results
  /-- A result is handed over after the fetch that it is about. -/
  causes : ∀ before r, before ++ [.took r] <+: seen →
    ∃ came, a.fetch r.index came ∈ before ∧ r.outcome = .ofFetch a.reference (result came)
  /-- No worker fetches twice. -/
  fetchers_nodup : ((fetchesIn seen).map Prod.fst).Nodup
  fetchers_lt : ∀ i ∈ (fetchesIn seen).map Prod.fst, i < workers
  results_nodup : (results.map (·.index)).Nodup

/-- The pool at the end of a run. -/
structure Closing (start : Pool) (results : List WorkerResult) (seen : List (Sighting α))
    (p : Pool) : Prop where
  isReachable : Pool.Reachable start p
  finished : p.caller = .finished
  /-- The caller took all results for itself, and collected none after that. -/
  taken_eq : p.taken = results
  joined_eq : p.joined = []
  /-- Whoever has fetched has reported, or has died. -/
  reported_or_lost : ∀ i ∈ (fetchesIn seen).map Prod.fst,
    i ∈ results.map (·.index) ∨ i ∈ p.lost

/-- A run in which every worker has fetched, and has reported what came of it. -/
structure IsWhole (a : Assignment) (result : α → FetchResult) (workers : UInt64)
    (results : List WorkerResult) (seen : List (Sighting α)) : Prop where
  fetchers_perm : ((fetchesIn seen).map Prod.fst).Perm (Pool.indices workers.toNat)
  results_perm : (results.map (·.index)).Perm (Pool.indices workers.toNat)
  verdicts_perm : ((fetchesIn seen).map (verdictOn a.reference result)).Perm
    (results.map WorkerResult.verdict)

theorem map_fst_verdict (results : List WorkerResult) :
    (results.map WorkerResult.verdict).map Prod.fst = results.map (·.index) := by
  simp [Function.comp_def, WorkerResult.verdict]

theorem map_fst_verdictOn (reference : Digest) (result : α → FetchResult)
    (fetches : List (UInt64 × α)) :
    (fetches.map (verdictOn reference result)).map Prod.fst = fetches.map Prod.fst := by
  simp [Function.comp_def, verdictOn]

namespace Ledger

variable {a : Assignment} {result : α → FetchResult} {p : Pool} {seen : List (Sighting α)}

/-- Whoever has fetched has delivered a result, or is lost. -/
theorem fetchers_subperm (hLedger : Ledger a result p seen) (hHandled : p.handled = p.delivered) :
    ((fetchesIn seen).map Prod.fst).Subperm (p.arrived ++ p.lost) := by
  obtain ⟨wasted, hVerdicts, hWasted⟩ := hLedger.verdicts
  have hFirst := hVerdicts.map Prod.fst
  rw [List.map_append, map_fst_verdictOn, map_fst_verdict, hHandled] at hFirst
  exact hFirst.subperm.trans ((List.subperm_append_left p.arrived).mpr hWasted)

theorem arrived_append_lost_subperm (p : Pool) : (p.arrived ++ p.lost).Subperm p.spread := by
  refine List.perm_append_comm.subperm.trans (List.Sublist.subperm ?_)
  refine List.Sublist.append ?_ (List.Sublist.refl _)
  exact (List.sublist_append_right _ _).trans (List.sublist_append_left _ _)

/-- **The end of a run.** -/
theorem course (hLedger : Ledger a result p seen) {n : Nat} (hTally : p.Tally n)
    (hHandled : p.handled = p.delivered) (hJoined : p.joined = []) :
    Course a result p.count p.delivered seen where
  kinds := hLedger.kinds
  results_eq := by rw [hLedger.results_eq, Pool.delivered, hJoined, List.append_nil]
  causes := hLedger.causes
  fetchers_nodup := by
    -- who fetched twice would have arrived or been lost twice
    have hSubperm := (hLedger.fetchers_subperm hHandled).trans (arrived_append_lost_subperm p)
    have hNodup := Pool.nodup_spread hTally
    rw [List.nodup_iff_count_le_one] at hNodup ⊢
    intro i
    exact (hSubperm.count_le i).trans (hNodup i)
  fetchers_lt i hi :=
    Pool.lt_count_of_mem_spread hTally
      ((arrived_append_lost_subperm p).subset ((hLedger.fetchers_subperm hHandled).subset hi))
  results_nodup := Pool.nodup_arrived hTally

/-- **The end of a run without a death.** -/
theorem isWhole (hLedger : Ledger a result p seen) (hHandled : p.handled = p.delivered)
    (hUnharmed : p.Unharmed) (hArrived : p.arrived.Perm (Pool.indices p.count.toNat)) :
    IsWhole a result p.count p.delivered seen := by
  obtain ⟨wasted, hVerdicts, hWasted⟩ := hLedger.verdicts
  -- nobody is lost, so no fetch was made in vain
  rw [hUnharmed, List.subperm_nil, List.map_eq_nil_iff] at hWasted
  rw [hWasted, List.append_nil, hHandled] at hVerdicts
  refine ⟨?_, hArrived, hVerdicts⟩
  have hFirst := hVerdicts.map Prod.fst
  rw [map_fst_verdictOn, map_fst_verdict] at hFirst
  exact hFirst.trans hArrived

end Ledger

-- ---------------------------------------------------------------------------
-- Whole runs
-- ---------------------------------------------------------------------------

/-- Tables that fit the memory leave room in the words. -/
theorem Config.fits_of_results {c : Config}
    (hMemory : Capacity.fits c.workers Capacity.resultEntry = true) :
    Capacity.fits (Pool.threadCount c.workers c.maxConcurrent) Capacity.threadEntry = true ∧
      c.workers.toNat + (Pool.threadCount c.workers c.maxConcurrent).toNat < 2 ^ 64 := by
  have hThreads := Pool.threadCount_le c.workers c.maxConcurrent
  rw [UInt64.le_iff_toNat_le] at hThreads
  have hResults : c.workers.toNat * 80 < 0x8000000000000000 := of_decide_eq_true hMemory
  refine ⟨decide_eq_true (p := _ * 24 < _) ?_, ?_⟩ <;> omega

/-- A pool of a run whose table of results does not fit is concluded with that, if all threads could
be started. -/
theorem Config.conclude_of_nothing {c : Config} {reference : Digest} {p : Pool}
    (hDemand : p.demand = .nothing) (hManned : p.Manned) :
    c.conclude reference p = .error .tooLarge := by
  unfold Config.conclude
  rw [hDemand]
  split
  · next hGone =>
    -- the caller is gone, but all threads were started, so it is not that one was refused
    have hLength : p.threads.length = p.threadLimit := hManned (by simp_all)
    rw [if_neg (by omega)]
  · rfl
  · next hOther => simp_all
  · next hOther => simp_all

namespace Setting

variable {s : Setting σ α} {c : Config}

/-- **Runs, one effect at a time.** What the turns of the workers keep, and the taking of results,
is kept by the workers' run. -/
theorem runWorkers_induction (hSchedule : s.schedule.IsComplete) {reference : Digest}
    {onResult : WorkerResult → StateM σ Unit} {I : Observed σ α → Prop}
    (hWork : ∀ i o, I o → I ((s.work (c.assignment reference) i).run o).2)
    (hTake : ∀ r o, I o → I ((noteResult onResult r).run o).2) {o : Observed σ α} (hStart : I o) :
    I ((c.runWorkers s.observed reference (noteResult onResult)).run o).2 := by
  -- the turns of the pool are the runs of workers and the taking of results
  have hRun : I ((c.pool.runIn s.schedule (s.work (c.assignment reference))
      (noteResult onResult)).run o).2 := by
    refine Pool.runFor_induction (I := fun _ o => I o) hSchedule
      (fun _ _ _ _ h => index_of_work h) ?_ hStart
    intro _ p o _ q o' _ hTurn hKept
    cases hTurn with
    | quiet => exact hKept
    | take => exact hTake _ o hKept
    | @work t i r o' _ _ h | @die t i o' _ h | @ruin t i result o' _ h =>
      have := hWork i o hKept
      rwa [h] at this
  unfold Config.runWorkers
  split
  · exact hRun
  · exact hStart

/-- A run whose table of results does not fit the memory ends without a report. -/
theorem runWorkers_of_tooLarge (hSchedule : s.schedule.IsComplete)
    (hMemory : Capacity.fits c.workers Capacity.resultEntry = false) (reference : Digest)
    (onResult : WorkerResult → StateM σ Unit) (o : Observed σ α) :
    ((c.runWorkers s.observed reference (noteResult onResult)).run o).1 = .error .tooLarge := by
  have hDemand : c.pool.demand = .nothing := by simp [Config.pool, Pool.fresh, hMemory]
  have hKept : ((c.pool.runIn s.schedule (s.work (c.assignment reference))
      (noteResult onResult)).run o).1.demand = .nothing ∧
      ((c.pool.runIn s.schedule (s.work (c.assignment reference))
        (noteResult onResult)).run o).1.Manned := by
    refine Pool.runFor_induction (I := fun p _ => p.demand = .nothing ∧ p.Manned) hSchedule
      (fun _ _ _ _ hWork => index_of_work hWork) ?_ ⟨hDemand, fun hStarted => absurd rfl hStarted⟩
    -- what is wanted of a pool never changes, and a caller that goes has all its threads
    rintro _ p _ _ q _ _ hTurn ⟨hNothing, hManned⟩
    obtain ⟨_, hMove⟩ := hTurn.exists_move
    exact ⟨hMove.sameOrder.demand_eq.trans hNothing, hManned.turn hTurn⟩
  unfold Config.runWorkers
  split
  · exact Config.conclude_of_nothing hKept.1 hKept.2
  · rfl

theorem fits_of_report (hSchedule : s.schedule.IsComplete) {reference : Digest}
    {onResult : WorkerResult → StateM σ Unit} {o : Observed σ α} {report : Report}
    (h : ((c.runWorkers s.observed reference (noteResult onResult)).run o).1 = .ok report) :
    Capacity.fits c.workers Capacity.resultEntry = true := by
  by_contra hMemory
  rw [runWorkers_of_tooLarge hSchedule (by simpa using hMemory)] at h
  contradiction

/-- **The course of a run.** A run whose tables fit the memory ends with a report of what was seen,
and if nobody dies, of every worker. -/
theorem runWorkers_course (hSchedule : s.schedule.IsComplete)
    (hMemory : Capacity.fits c.workers Capacity.resultEntry = true) (reference : Digest)
    (onResult : WorkerResult → StateM σ Unit) (o : Observed σ α) :
    let run := (c.runWorkers s.observed reference (noteResult onResult)).run o
    ∃ results seen,
      run.1 = .ok (.ofResults c.targetUrl c.proxy reference c.workers results) ∧
      run.2.seen = o.seen ++ seen ∧
      Course (c.assignment reference) s.result c.workers results seen ∧
      (∃ p, Closing c.pool results seen p) ∧
      (s.schedule.IsPeaceful → s.DrawsWell →
        IsWhole (c.assignment reference) s.result c.workers results seen) := by
  intro run
  obtain ⟨hThreads, hFit⟩ := Config.fits_of_results hMemory
  have hPool : c.pool = .fresh c.workers c.maxConcurrent .all := by simp [Config.pool, hMemory]
  set a := c.assignment reference
  have hWork : ∀ i o r o', (s.work a i).run o = (some r, o') → r.index = i :=
    fun _ _ _ _ h => index_of_work h
  -- the pool at the end
  set q := ((Pool.fresh c.workers c.maxConcurrent .all).runIn s.schedule (s.work a)
    (noteResult onResult)).run o
  have hRun : run = (c.conclude reference q.1, q.2) := by
    simp only [run, Config.runWorkers, hThreads, if_true, hPool]
    rfl
  obtain ⟨⟨history, hHistory⟩, hEnd⟩ :
      Pool.Reachable (.fresh c.workers c.maxConcurrent .all) q.1 ∧
        (q.1.caller = .finished ∨ q.1.caller = .gone) :=
    Pool.runIn_ends hFit hSchedule hWork o
  have hOutline := Pool.outline_of_after? (Nat.le_of_lt hFit) hHistory
  -- what every turn keeps: nothing is dropped, and the sightings grow with the ledger
  have hKept : q.1.Thorough ∧
      ∃ seen, q.2.seen = o.seen ++ seen ∧ Ledger a s.result q.1 seen := by
    refine Pool.runFor_induction
      (I := fun p o' => p.Thorough ∧
        ∃ seen, o'.seen = o.seen ++ seen ∧ Ledger a s.result p seen) hSchedule hWork ?turn ?start
    case start =>
      exact ⟨.fresh _ _, [], (List.append_nil _).symm, .fresh _ _ _ _ _⟩
    case turn =>
      rintro _ p o' _ p' o'' - hTurn ⟨hThorough, seen, hSeen, hLedger⟩
      exact ⟨hThorough.turn hTurn, hLedger.turn hThorough hSeen hTurn⟩
  obtain ⟨hThorough, seen, hSeen, hLedger⟩ := hKept
  -- nothing drops the pool in this run, so its caller has finished
  have hCaller : q.1.caller = .finished := hEnd.resolve_right hThorough.stays
  obtain ⟨hHeld, hQueued⟩ := hOutline.tally.nothing_pending hOutline.spent hCaller
  have hHandled := Pool.handled_eq_delivered hHeld hQueued
  have hCount : q.1.count = c.workers := hOutline.order.count_eq
  refine ⟨q.1.delivered, seen, ?report, by rw [hRun, hSeen], ?course, ⟨q.1, ?closing⟩, ?whole⟩
  case report =>
    rw [hRun]
    simp [Config.conclude, hThorough.wantsAll, hCaller]
  case course =>
    rw [← hCount]
    exact hLedger.course hOutline.tally hHandled hThorough.joined_nil
  case closing =>
    have hTaken : q.1.taken = q.1.delivered := by
      rw [Pool.delivered, hThorough.joined_nil, List.append_nil]
    refine ⟨by rw [hPool]; exact ⟨history, hHistory⟩, hCaller, hTaken, hThorough.joined_nil, ?_⟩
    -- whoever has fetched has delivered its result or died
    intro i hi
    exact List.mem_append.mp ((hLedger.fetchers_subperm hHandled).subset hi)
  case whole =>
    intro hPeace hDraws
    -- a peaceful schedule kills nobody, and a worker with its draws comes to its end
    have hUnharmed : q.1.Unharmed := by
      refine Pool.runFor_induction (I := fun p _ => p.Unharmed) hSchedule hWork ?_ rfl
      intro n p o' choice p' o'' hNext hTurn hUnharmed
      exact hUnharmed.turn (hPeace.mem n p choice hNext)
        (fun i o => work_ne_none hDraws a i o) hTurn
    rw [← hCount]
    exact hLedger.isWhole hHandled hUnharmed
      (Pool.arrived_perm_of_alive hOutline hCaller hUnharmed.isDead_eq_false)

end Setting

end ProxyAudit
