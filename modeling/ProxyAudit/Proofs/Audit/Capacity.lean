import Mathlib
import ProxyAudit.Proofs.Audit.Abandonment
import ProxyAudit.Proofs.Audit.Provenance
import ProxyAudit.Proofs.Pool.Wrapping

/-!
# The sizes of an audit

A run makes a table of its threads and one of its results, and it counts claims in a word. An entry
of the table of results takes the most room, so its table decides: if it can be addressed, then so
can the table of threads, and the counter stays below the last word. The check of a configuration
does not bound the number of workers, and a run whose tables do not fit ends without a report, after
the target has been fetched and the reference has been told.

Main results:

* `hasRoom_iff`            — the configurations whose sizes all fit.
* `capacity_decides`       — the runs that end because a table does not fit.
-/

namespace ProxyAudit

variable {σ α : Type}

-- ---------------------------------------------------------------------------
-- Room
-- ---------------------------------------------------------------------------

namespace Config

/-- All sizes of a configuration's run fit: its tables can be addressed, and whatever has happened
to its pool, the counter is the number of claims, and no worker was begun twice. -/
structure HasRoom (c : Config) : Prop where
  threads_fit : Capacity.fits c.threads Capacity.threadEntry = true
  results_fit : Capacity.fits c.workers Capacity.resultEntry = true
  counter_eq : ∀ history p, c.pool.after? history = some p →
    p.counter.toNat = Pool.claims history
  begun_nodup : ∀ history p, c.pool.after? history = some p → (c.pool.begunIndices history).Nodup

theorem fits_results_iff (c : Config) :
    Capacity.fits c.workers Capacity.resultEntry = true ↔ c.workers.toNat * 80 < 2 ^ 63 :=
  decide_eq_true_iff

/-- **The configurations whose sizes all fit** are those whose results can be addressed. -/
theorem hasRoom_iff (c : Config) : c.HasRoom ↔ c.workers.toNat * 80 < 2 ^ 63 := by
  rw [← fits_results_iff]
  refine ⟨HasRoom.results_fit, ?_⟩
  intro hResults
  obtain ⟨hThreads, hSum⟩ := fits_of_results hResults
  have hClaims (history : List Pool.Step) (p : Pool) (h : c.pool.after? history = some p) :
      Pool.claims history < 2 ^ 64 := Nat.lt_of_le_of_lt (Pool.claims_le h (Nat.le_of_lt hSum)) hSum
  refine ⟨hThreads, hResults, ?_, ?_⟩
  · intro history p h
    rw [Pool.counter_of_after? h, UInt64.toNat_ofNat_of_lt' (hClaims history p h)]
  · intro history p h
    exact (Pool.pairwise_begunIndices h (Nat.le_of_lt (hClaims history p h))).imp UInt64.ne_of_lt

/-- A pool whose results fit is not concluded with a lack of room. -/
theorem conclude_ne_tooLarge {c : Config} {reference : Digest} {p : Pool}
    (hDemand : p.demand = .all) : c.conclude reference p ≠ .error .tooLarge := by
  unfold conclude
  rw [hDemand]
  split <;> simp_all

end Config

-- ---------------------------------------------------------------------------
-- Runs of the workers
-- ---------------------------------------------------------------------------

namespace Setting

variable {s : Setting σ α} {c : Config}

/-- A run whose table of results fits does not end for lack of room, if threads can be started or
not. -/
theorem runWorkers_ne_tooLarge (hSchedule : s.schedule.Proceeds) (hRoom : c.HasRoom)
    (reference : Digest) (onResult : WorkerResult → StateM σ Unit) (o : Observed σ α) :
    ((c.runWorkers s.observed reference (noteResult onResult)).run o).1 ≠ .error .tooLarge := by
  have hDemand : c.pool.demand = .all := by simp [Config.pool, Pool.fresh, hRoom.results_fit]
  set q := (c.pool.runIn s.schedule (s.work (c.assignment reference)) (noteResult onResult)).run o
  -- what is wanted of a pool is settled before it runs
  have hKept : q.1.demand = .all := by
    refine Pool.runFor_act_induction (I := fun p _ => p.demand = .all) hSchedule
      (fun _ _ _ _ hWork => index_of_work hWork) ?_ hDemand
    intro _ p _ _ q _ _ hAct hAll
    obtain ⟨_, hMove⟩ := hAct.exists_move
    exact hMove.sameOrder.demand_eq.trans hAll
  have hRun : (c.runWorkers s.observed reference (noteResult onResult)).run o
      = (c.conclude reference q.1, q.2) := by
    have hFits : Capacity.fits (Pool.threadCount c.workers c.maxConcurrent) Capacity.threadEntry
        = true := hRoom.threads_fit
    simp only [Config.runWorkers, hFits, if_true]
    rfl
  rw [hRun]
  exact Config.conclude_ne_tooLarge hKept

/-- If the table of threads does not fit, no worker starts. -/
theorem runWorkers_of_no_threads
    (hThreads : Capacity.fits c.threads Capacity.threadEntry = false) (reference : Digest)
    (onResult : WorkerResult → StateM σ Unit) (o : Observed σ α) :
    (c.runWorkers s.observed reference (noteResult onResult)).run o = (.error .tooLarge, o) := by
  have hFits : Capacity.fits (Pool.threadCount c.workers c.maxConcurrent) Capacity.threadEntry
      = false := hThreads
  simp only [Config.runWorkers, hFits]
  rfl

end Setting

-- ---------------------------------------------------------------------------
-- Audits
-- ---------------------------------------------------------------------------

/--
**The runs that end because a table does not fit.** Take an audit of a sound configuration that has
its reference, on a machine where threads may fail to start. It has fetched the target, and told the
reference, whatever happens then.

* All sizes of its run fit if the table of results does: below 2⁶³ bytes at 80 a worker. Then it
  does not end for lack of room, and where all threads can be started, it ends with a report.
* Otherwise it ends for lack of room where all threads can be started, and if the table of threads
  does not fit either, it does so in any case and before a worker starts.
* Its pool has a history in which a worker is begun twice if and only if its workers and threads
  together do not fit the words.
-/
theorem capacity_decides (c : Config) (s : Setting σ α) (onReference : Digest → StateM σ Unit)
    (onResult : WorkerResult → StateM σ Unit) (w : σ) (body : FetchedBody)
    (hCheck : c.check = .ok ()) (hSchedule : s.schedule.Proceeds)
    (hCame : s.result ((s.transfer c.targetUrl .direct c.timeouts).run w).1 = .ok body) :
    let run := (c.observe s onReference onResult).run (.fresh w)
    let told := [Sighting.fetched none c.targetUrl .direct c.timeouts
      ((s.transfer c.targetUrl .direct c.timeouts).run w).1, .told body.digest]
    (c.audit s.machine onReference onResult).run w = (run.1, run.2.world) ∧
    told <+: run.2.seen ∧
    (c.HasRoom ↔ c.workers.toNat * 80 < 2 ^ 63) ∧
    (c.HasRoom → run.1 ≠ .error .tooLarge ∧
      (s.schedule.IsComplete → ∃ report, run.1 = .ok report)) ∧
    (¬ c.HasRoom → s.schedule.IsComplete → run.1 = .error .tooLarge) ∧
    (2 ^ 63 ≤ c.threads.toNat * 24 → run.1 = .error .tooLarge ∧ run.2.seen = told) ∧
    ((∃ history p, c.pool.after? history = some p ∧ ¬ (c.pool.begunIndices history).Nodup) ↔
      2 ^ 64 < c.workers.toNat + c.threads.toNat) := by
  intro run told
  obtain ⟨hResult, hWorld⟩ := c.observe_world s onReference onResult (.fresh w)
  obtain ⟨o, hTold, hRun⟩ :=
    Config.observe_of_reference onReference onResult (.fresh w) (s := s) hCheck hCame
  replace hRun : run = _ := hRun
  replace hTold : o.seen = told := hTold
  refine ⟨Prod.ext hResult.symm hWorld.symm, ?_, c.hasRoom_iff, ?_, ?_, ?_, Pool.begun_twice_iff⟩
  · -- what the workers do comes after the reference that was told
    obtain ⟨rest, hRest, -⟩ := runWorkers_sources s c body.digest onResult o
    rw [hRun, hRest, hTold]
    exact List.prefix_append told rest
  · intro hRoom
    rw [hRun]
    refine ⟨Setting.runWorkers_ne_tooLarge hSchedule hRoom body.digest onResult o, ?_⟩
    intro hComplete
    obtain ⟨results, seen, hReport, -⟩ :=
      Setting.runWorkers_course hComplete hRoom.results_fit body.digest onResult o
    exact ⟨_, hReport⟩
  · intro hNoRoom hComplete
    -- the results are the largest of the tables, so it is theirs that does not fit
    have hMemory : Capacity.fits c.workers Capacity.resultEntry = false := by
      rw [c.hasRoom_iff, ← c.fits_results_iff] at hNoRoom
      simpa using hNoRoom
    rw [hRun]
    exact Setting.runWorkers_of_tooLarge hComplete hMemory body.digest onResult o
  · intro hThreads
    -- without a table for the threads the pool is never opened
    have hTable : Capacity.fits c.threads Capacity.threadEntry = false :=
      decide_eq_false (Nat.not_lt.mpr hThreads)
    rw [hRun, Setting.runWorkers_of_no_threads hTable body.digest onResult o]
    exact ⟨rfl, hTold⟩

/-- As many workers as a word can count, on so many threads. -/
def Config.crowded (threads : Option UInt64) : Config :=
  { Config.default with
    targetUrl := "x:"
    workers := 18446744073709551615
    maxConcurrent := threads }

/-- On two threads the workers start, and the counter may wrap, but there is no room for the
results. -/
theorem capacity_decides_of_crowd :
    let body : FetchedBody := ⟨⟨List.replicate 32 0, by decide⟩, 11⟩
    let c := Config.crowded (some 2)
    let s : Setting Unit FetchedBody := .steady body Pool.eager
    c.check = .ok () ∧
      ((c.observe s (fun _ => pure ()) (fun _ => pure ())).run (.fresh ())).1
        = .error .tooLarge ∧
      ∃ history p, c.pool.after? history = some p ∧ ¬ (c.pool.begunIndices history).Nodup := by
  intro body c s
  have hCheck : c.check = .ok () := by decide +kernel
  have hComplete : s.schedule.IsComplete := Pool.eager_isPeaceful.isComplete
  obtain ⟨-, -, hRoom, -, hNoRoom, -, hTwice⟩ := capacity_decides c s (fun _ => pure ())
    (fun _ => pure ()) () body hCheck hComplete.proceeds rfl
  have hFull : ¬ c.HasRoom := by
    rw [hRoom]
    decide
  have hOver : 2 ^ 64 < c.workers.toNat + c.threads.toNat := by decide
  exact ⟨hCheck, hNoRoom hFull hComplete, hTwice.mpr hOver⟩

/-- A sound configuration with a reference may end for lack of room. -/
theorem exists_sound_without_room :
    ¬ ∀ (c : Config) (s : Setting Unit FetchedBody) (body : FetchedBody),
      c.check = .ok () → s.schedule.IsComplete →
      s.result ((s.transfer c.targetUrl .direct c.timeouts).run ()).1 = .ok body →
      ((c.audit s.machine (fun _ => pure ()) (fun _ => pure ())).run ()).1
        ≠ .error .tooLarge := by
  intro hNever
  let body : FetchedBody := ⟨⟨List.replicate 32 0, by decide⟩, 11⟩
  let c := Config.crowded none
  let s : Setting Unit FetchedBody := .steady body Pool.eager
  have hCheck : c.check = .ok () := by decide +kernel
  refine hNever c s body hCheck Pool.eager_isPeaceful.isComplete rfl ?_
  have hTable : Capacity.fits c.threads Capacity.threadEntry = false := by decide
  have hCame : s.result ((s.transfer c.targetUrl .direct c.timeouts).run ()).1 = .ok body := rfl
  obtain ⟨o, -, hRun⟩ := Config.observe_of_reference (fun _ => pure ()) (fun _ => pure ())
    (.fresh ()) (s := s) hCheck hCame
  rw [Setting.runWorkers_of_no_threads hTable] at hRun
  have hResult := (c.observe_world s (fun _ => pure ()) (fun _ => pure ()) (.fresh ())).1
  rw [hRun] at hResult
  exact hResult.symm

end ProxyAudit
