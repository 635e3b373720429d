import Mathlib
import ProxyAudit.Proofs.Audit.Course
import ProxyAudit.Proofs.Report.Accounting

/-!
# Any order gives the same report

The fetches of workers are handed results from a list, one each, in the order in which they are
made. Which worker is handed which result depends on the order in which the threads get their
turns; what is handed out in all does not. So a run on any number of threads, in any order, reports
the outcomes that one worker after the other would have, and the numbers of the report are the same.

Main results:

* `outcomes_perm`   — a run reports the outcomes of the list.
* `reports_agree`   — two runs that are handed the same list report the same.
-/

namespace ProxyAudit

variable {σ α : Type}

-- ---------------------------------------------------------------------------
-- Handing out
-- ---------------------------------------------------------------------------

/-- A setting in which the fetches of workers are handed the results of a list, one each, in the
order in which they are made, and in which nobody dies. -/
structure Handout (results : Nat → FetchResult) (σ α : Type) extends Setting σ α where
  onResult : WorkerResult → StateM σ Unit
  /-- How many entries of the list have been used. -/
  used : σ → Nat
  isPeaceful : schedule.IsPeaceful
  drawsWell : toSetting.DrawsWell
  result_transfer : ∀ url proxy limits w,
    result ((transfer url (.proxy proxy) limits).run w).1 = results (used w)
  used_transfer : ∀ url proxy limits w,
    used ((transfer url (.proxy proxy) limits).run w).2 = used w + 1
  used_draw : ∀ w, used (draw.run w).2 = used w
  used_sleep : ∀ span w, used ((sleep span).run w).2 = used w
  used_now : ∀ w, used (now.run w).2 = used w
  used_onResult : ∀ r w, used ((onResult r).run w).2 = used w

namespace Handout

variable {results : Nat → FetchResult} {h : Handout results σ α} {c : Config}

def runWorkers (h : Handout results σ α) (c : Config) (reference : Digest) :
    StateM σ (Except AuditError Report) :=
  c.runWorkers h.machine reference h.onResult

/-- A turn of a worker uses no entry of the list, or the next one for its fetch. -/
theorem run_work (h : Handout results σ α) (a : Assignment) (i : UInt64) (o : Observed σ α) :
    let run := (h.work a i).run o
    (run.2.seen = o.seen ∧ h.used run.2.world = h.used o.world) ∨
    ∃ came, h.result came = results (h.used o.world) ∧
      h.used run.2.world = h.used o.world + 1 ∧ run.2.seen = o.seen ++ [a.fetch i came] := by
  intro run
  cases hDelay : a.jitter.sample (h.draw.run o.world).1 with
  | none =>
    have hRun : run = _ := Setting.run_work_of_no_delay hDelay
    exact .inl (by simp [hRun, h.used_draw])
  | some delay =>
    obtain ⟨fetchMs, hRun⟩ := Setting.run_work_of_delay (s := h.toSetting) (i := i) hDelay
    replace hRun : run = _ := hRun
    refine .inr ⟨_, ?_, ?_, by rw [hRun]⟩
    · rw [h.result_transfer, h.used_now, h.used_sleep, h.used_draw]
    · rw [hRun, h.used_now, h.used_transfer, h.used_now, h.used_sleep, h.used_draw]

/-- **The list is used in order.** What the workers are handed, fetch by fetch, is the list from
its beginning. -/
theorem fetches_eq (h : Handout results σ α) (reference : Digest) {o : Observed σ α}
    (hStart : h.used o.world = 0) :
    let run := (c.runWorkers h.observed reference (Setting.noteResult h.onResult)).run o
    ∃ seen, run.2.seen = o.seen ++ seen ∧
      (fetchesIn seen).map (fun f => h.result f.2)
        = (List.range (h.used run.2.world)).map results := by
  refine Setting.runWorkers_induction
    (I := fun o' => ∃ seen, o'.seen = o.seen ++ seen ∧
      (fetchesIn seen).map (fun f => h.result f.2) = (List.range (h.used o'.world)).map results)
    h.isPeaceful.isComplete ?work ?take ?start
  case start => exact ⟨[], (List.append_nil _).symm, by simp [fetchesIn, hStart]⟩
  case take =>
    rintro r o' ⟨seen, hSeen, hList⟩
    -- to take a result is no fetch, and hands nothing out
    refine ⟨seen ++ [.took r], ?_, ?_⟩
    · have hNoted : ((Setting.noteResult h.onResult r).run o').2.seen = o'.seen ++ [.took r] := rfl
      rw [hNoted, hSeen, List.append_assoc]
    · have hUsed : h.used ((Setting.noteResult h.onResult r).run o').2.world = h.used o'.world :=
        h.used_onResult r o'.world
      rw [hUsed, ← hList]
      simp [fetchesIn, Sighting.fetch?]
  case work =>
    rintro i o' ⟨seen, hSeen, hList⟩
    rcases h.run_work (c.assignment reference) i o' with
      ⟨hSame, hUsed⟩ | ⟨came, hCame, hUsed, hFetched⟩
    · exact ⟨seen, hSame.trans hSeen, by rw [hUsed]; exact hList⟩
    · -- the fetch gets the next of the results
      refine ⟨seen ++ [(c.assignment reference).fetch i came], ?_, ?_⟩
      · rw [hFetched, hSeen, List.append_assoc]
      · rw [hUsed, List.range_succ, List.map_append, ← hList]
        simp [fetchesIn, Assignment.fetch, Sighting.fetch?, hCame]

/-- The outcomes that the list stands for. -/
def outcomes (results : Nat → FetchResult) (reference : Digest) (workers : Nat) : List Outcome :=
  (List.range workers).map fun n => .ofFetch reference (results n)

/-- **The outcomes of a run** are those of the list, in some order, and each worker has one. -/
theorem exists_report (h : Handout results σ α)
    (hMemory : Capacity.fits c.workers Capacity.resultEntry = true) (reference : Digest) {w : σ}
    (hStart : h.used w = 0) :
    ∃ rs, ((h.runWorkers c reference).run w).1
        = .ok (.ofResults c.targetUrl c.proxy reference c.workers rs) ∧
      (rs.map (·.index)).Perm (Pool.indices c.workers.toNat) ∧
      (rs.map (·.outcome)).Perm (outcomes results reference c.workers.toNat) := by
  obtain ⟨rs, seen, hReport, hSeen, -, -, hAll⟩ := Setting.runWorkers_course
    h.isPeaceful.isComplete hMemory reference h.onResult (.fresh w)
  have hWhole := hAll h.isPeaceful h.drawsWell
  obtain ⟨seen', hSeen', hList⟩ := h.fetches_eq reference (o := .fresh w) hStart
  obtain rfl : seen' = seen := List.append_cancel_left (hSeen'.symm.trans hSeen)
  obtain ⟨hResult, -⟩ := h.erases_runWorkers c reference h.onResult (.fresh w)
  refine ⟨rs, hResult.symm.trans hReport, hWhole.results_perm, ?_⟩
  -- as many entries were used as there are workers
  have hUsed := hWhole.fetchers_perm.length_eq
  have hLength := congrArg List.length hList
  rw [List.length_map, Pool.length_indices] at hUsed
  rw [List.length_map, List.length_map, List.length_range, hUsed] at hLength
  have hVerdicts : ((fetchesIn seen').map (verdictOn reference h.result)).Perm
      (rs.map WorkerResult.verdict) := hWhole.verdicts_perm
  have hOutcomes := (hVerdicts.map Prod.snd).symm
  have hFetched : ((fetchesIn seen').map (verdictOn reference h.result)).map Prod.snd
      = outcomes results reference c.workers.toNat := by
    have := congrArg (List.map (Outcome.ofFetch reference)) hList
    rw [← hLength] at this
    simpa [outcomes, verdictOn, Function.comp_def] using this
  rw [← hFetched]
  simpa [WorkerResult.verdict, Function.comp_def] using hOutcomes

theorem runWorkers_of_tooLarge (h : Handout results σ α)
    (hMemory : Capacity.fits c.workers Capacity.resultEntry = false) (reference : Digest) (w : σ) :
    ((h.runWorkers c reference).run w).1 = .error .tooLarge := by
  obtain ⟨hResult, -⟩ := h.erases_runWorkers c reference h.onResult (.fresh w)
  exact hResult.symm.trans (Setting.runWorkers_of_tooLarge h.isPeaceful.isComplete hMemory _ _ _)

end Handout

-- ---------------------------------------------------------------------------
-- Reports that differ in times only
-- ---------------------------------------------------------------------------

/-- A result without its times. -/
def WorkerResult.untimed (r : WorkerResult) : WorkerResult :=
  { r with jitterMs := 0, fetchMs := 0 }

/-- A report without times, its results in the order of their indices. -/
def Report.settled (report : Report) : Report :=
  { report with
    results := (report.results.map WorkerResult.untimed).mergeSort fun a b => a.index ≤ b.index }

/-- If all workers have the same outcome, the results in the order of their indices are known. -/
theorem mergeSort_untimed_eq {results : List WorkerResult} {workers : UInt64} {outcome : Outcome}
    (hAll : (results.map (·.index)).Perm (Pool.indices workers.toNat))
    (hOutcome : ∀ r ∈ results, r.outcome = outcome) :
    (results.map WorkerResult.untimed).mergeSort (fun a b => a.index ≤ b.index)
      = (Pool.indices workers.toNat).map fun i => ⟨i, outcome, 0, 0⟩ := by
  have hWord := workers.toNat_lt
  -- what is left of a result without its times is its index and the common outcome
  have hUntimed : results.map WorkerResult.untimed
      = (results.map (·.index)).map fun i => (⟨i, outcome, 0, 0⟩ : WorkerResult) := by
    rw [List.map_map]
    refine List.map_congr_left fun r hr => ?_
    simp [WorkerResult.untimed, hOutcome r hr]
  have hPerm := (List.mergeSort_perm (results.map WorkerResult.untimed)
    fun a b => decide (a.index ≤ b.index)).trans
      ((List.Perm.of_eq hUntimed).trans (hAll.map _))
  -- the sorting is by indices, and these are a total order
  have hSorted : ((results.map WorkerResult.untimed).mergeSort
      fun a b => decide (a.index ≤ b.index)).Pairwise fun a b => a.index ≤ b.index := by
    refine (List.pairwise_mergeSort ?_ ?_ _).imp fun h => by simpa using h
    · intro a b c hab hbc
      simp only [decide_eq_true_eq] at hab hbc ⊢
      exact UInt64.le_trans hab hbc
    · intro a b
      simpa using UInt64.le_total a.index b.index
  refine hPerm.eq_of_pairwise (fun a b ha hb hab hba => ?_) hSorted ?_
  · -- two results with one index are the same
    obtain ⟨i, -, rfl⟩ := List.mem_map.mp (hPerm.mem_iff.mp ha)
    obtain ⟨j, -, rfl⟩ := List.mem_map.mp hb
    have hIndex : i = j := UInt64.le_antisymm hab hba
    rw [hIndex]
  · rw [List.pairwise_map]
    exact (Pool.pairwise_lt_indices (by omega)).imp UInt64.le_of_lt

-- ---------------------------------------------------------------------------
-- Any two runs
-- ---------------------------------------------------------------------------

/--
**Any order gives the same report.** Two runs whose fetches are handed the same list of results,
on any numbers of threads, in any order in which nobody dies, among them the run of one worker
after the other: both report the outcomes of the first entries of the list, one for each worker,
in some order, and so the numbers of their reports are the same. If the entries are all the same,
so are the reports, apart from times and the order of the results.

If the tables of the runs do not fit the memory, neither has a report.
-/
theorem reports_agree {σ σ' α α' : Type} {results : Nat → FetchResult} (h : Handout results σ α)
    (h' : Handout results σ' α') (c : Config) (most most' : Option UInt64) (reference : Digest)
    {w : σ} {w' : σ'} (hStart : h.used w = 0) (hStart' : h'.used w' = 0) :
    let run := ((h.runWorkers { c with maxConcurrent := most } reference).run w).1
    let run' := ((h'.runWorkers { c with maxConcurrent := most' } reference).run w').1
    (Capacity.fits c.workers Capacity.resultEntry = false →
      run = .error .tooLarge ∧ run' = .error .tooLarge) ∧
    (Capacity.fits c.workers Capacity.resultEntry = true →
      ∃ report report', run = .ok report ∧ run' = .ok report' ∧
        (report.results.map (·.outcome)).Perm
          (Handout.outcomes results reference c.workers.toNat) ∧
        (report'.results.map (·.outcome)).Perm
          (Handout.outcomes results reference c.workers.toNat) ∧
        Report.SameNumbers report report' ∧
        ((∀ n < c.workers.toNat, results n = results 0) → report.settled = report'.settled)) := by
  intro run run'
  refine ⟨fun hMemory => ?_, fun hMemory => ?_⟩
  · exact ⟨h.runWorkers_of_tooLarge (c := { c with maxConcurrent := most }) hMemory reference w,
      h'.runWorkers_of_tooLarge (c := { c with maxConcurrent := most' }) hMemory reference w'⟩
  obtain ⟨rs, hReport, hAll, hOutcomes⟩ :=
    h.exists_report (c := { c with maxConcurrent := most }) hMemory reference hStart
  obtain ⟨rs', hReport', hAll', hOutcomes'⟩ :=
    h'.exists_report (c := { c with maxConcurrent := most' }) hMemory reference hStart'
  have hNumbers := Report.sameNumbers_of_perm c.targetUrl c.proxy reference c.workers
    (hOutcomes.trans hOutcomes'.symm)
  refine ⟨_, _, hReport, hReport', hOutcomes, hOutcomes', hNumbers, fun hSame => ?_⟩
  -- every outcome is that of the first entry
  have hFirst {rs : List WorkerResult} (hPerm : (rs.map (·.outcome)).Perm
      (Handout.outcomes results reference c.workers.toNat)) :
      ∀ r ∈ rs, r.outcome = .ofFetch reference (results 0) := by
    intro r hr
    obtain ⟨n, hn, hOutcome⟩ := List.mem_map.mp (hPerm.mem_iff.mp (List.mem_map_of_mem hr))
    rw [← hOutcome, hSame n (List.mem_range.mp hn)]
  have hSorted := mergeSort_untimed_eq hAll (hFirst hOutcomes)
  have hSorted' := mergeSort_untimed_eq hAll' (hFirst hOutcomes')
  obtain ⟨hSuccesses, hFailures, hTimeouts, hMissing, -⟩ := hNumbers
  simp only [Report.settled, Report.mk.injEq]
  exact ⟨rfl, rfl, rfl, hSuccesses, hFailures, hTimeouts, hMissing, hSorted.trans hSorted'.symm⟩

/-- The handout whose state is the number of entries that have been used. -/
def Handout.counting (results : Nat → FetchResult) {schedule : Pool.Schedule}
    (hPeace : schedule.IsPeaceful) : Handout results Nat FetchResult where
  transfer _ _ _ := modifyGet fun n => (results n, n + 1)
  result := id
  draw := pure (Draw.ofNumber 0)
  sleep _ := pure ()
  now := pure 0
  schedule
  onResult _ := pure ()
  used := id
  isPeaceful := hPeace
  drawsWell _ _ _ hRoom := Draw.isSome_ofNumber 0 hRoom
  result_transfer _ _ _ _ := rfl
  used_transfer _ _ _ _ := rfl
  used_draw _ := rfl
  used_sleep _ _ := rfl
  used_now _ := rfl
  used_onResult _ _ := rfl

/-- Four workers on one thread and on four, where the third fetch runs out of time: it is that of
different workers, but the numbers are the same. -/
theorem reports_agree_of_timeout :
    let body : FetchedBody := ⟨⟨List.replicate 32 0, by decide⟩, 11⟩
    let results : Nat → FetchResult := fun n => if n = 2 then .error (.timeout "") else .ok body
    let c : Config := { Config.default with workers := 4 }
    let h : Handout results Nat FetchResult := .counting results Pool.eager_isPeaceful
    let h' : Handout results Nat FetchResult := .counting results Pool.Schedule.rotating_isPeaceful
    let run := ((h.runWorkers { c with maxConcurrent := some 1 } body.digest).run 0).1
    let run' := ((h'.runWorkers { c with maxConcurrent := none } body.digest).run 0).1
    ∃ report report', run = .ok report ∧ run' = .ok report' ∧
      report.results.map (fun r => (r.index, r.outcome.isTimeout))
        = [(0, false), (1, false), (2, true), (3, false)] ∧
      report'.results.map (fun r => (r.index, r.outcome.isTimeout))
        = [(0, false), (1, false), (3, true), (2, false)] ∧
      Report.SameNumbers report report' := by
  intro body results c h h' run run'
  have hRun : run.map (fun report => report.results.map fun r => (r.index, r.outcome.isTimeout))
      = .ok [(0, false), (1, false), (2, true), (3, false)] := by decide +kernel
  have hRun' : run'.map (fun report => report.results.map fun r => (r.index, r.outcome.isTimeout))
      = .ok [(0, false), (1, false), (3, true), (2, false)] := by decide +kernel
  obtain ⟨report, report', hReport, hReport', -, -, hNumbers, -⟩ :=
    (reports_agree h h' c (some 1) none body.digest (rfl : h.used 0 = 0)
      (rfl : h'.used 0 = 0)).2 (by decide)
  replace hReport : run = .ok report := hReport
  replace hReport' : run' = .ok report' := hReport'
  rw [hReport] at hRun
  rw [hReport'] at hRun'
  exact ⟨report, report', hReport, hReport', Except.ok.inj hRun, Except.ok.inj hRun', hNumbers⟩

end ProxyAudit
