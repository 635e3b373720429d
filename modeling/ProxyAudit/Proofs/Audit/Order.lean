import Mathlib
import ProxyAudit.Proofs.Audit.Course

/-!
# The order of events of an audit

Whatever the configuration, whatever comes of the fetches, and in whatever order the threads get
their turns and workers die, an observer sees one of three things. Either nothing happens, or the
direct fetch fails and nothing happens after it, or the reference is told after the direct fetch
and only then the workers start, each of which fetches at most once.

Main results:

* `audit_order`  — the three shapes of what is seen of an audit.
-/

namespace ProxyAudit

variable {σ α : Type}

/-- A setting in which every fetch brings the same body and nothing takes time. -/
def Setting.steady (body : FetchedBody) (schedule : Pool.Schedule) : Setting Unit FetchedBody where
  transfer _ _ _ := pure body
  result := .ok
  draw := pure (Draw.ofNumber 0)
  sleep _ := pure ()
  now := pure 0
  schedule

namespace Config

variable {c : Config} {s : Setting σ α} (onReference : Digest → StateM σ Unit)
  (onResult : WorkerResult → StateM σ Unit) (o : Observed σ α)

-- ---------------------------------------------------------------------------
-- The three courses
-- ---------------------------------------------------------------------------

theorem observe_of_refused {fault : Fault} (h : c.check = .error fault) :
    (c.observe s onReference onResult).run o = (.error (.refused fault), o) := by
  simp only [observe, audit, h]
  rfl

theorem observe_of_noReference {e : FetchError} (h : c.check = .ok ())
    (hCame : s.result ((s.transfer c.targetUrl .direct c.timeouts).run o.world).1 = .error e) :
    ((c.observe s onReference onResult).run o).1 = .error (.noReference c.targetUrl e) ∧
      ((c.observe s onReference onResult).run o).2.seen = o.seen ++
        [.fetched o.worker c.targetUrl .direct c.timeouts
          ((s.transfer c.targetUrl .direct c.timeouts).run o.world).1] := by
  have hFetch : ((s.observed.fetch c.targetUrl .direct c.timeouts).run o).1 = .error e := hCame
  simp only [observe, audit, h, StateM.run_bind, hFetch]
  exact ⟨rfl, rfl⟩

/-- The workers of an audit start when the reference has been told. -/
theorem observe_of_reference {body : FetchedBody} (h : c.check = .ok ())
    (hCame : s.result ((s.transfer c.targetUrl .direct c.timeouts).run o.world).1 = .ok body) :
    ∃ o' : Observed σ α,
      o'.seen = o.seen ++ [.fetched o.worker c.targetUrl .direct c.timeouts
          ((s.transfer c.targetUrl .direct c.timeouts).run o.world).1, .told body.digest] ∧
      (c.observe s onReference onResult).run o
        = (c.runWorkers s.observed body.digest (Setting.noteResult onResult)).run o' := by
  have hFetch : ((s.observed.fetch c.targetUrl .direct c.timeouts).run o).1 = .ok body := hCame
  simp only [observe, audit, h, StateM.run_bind, hFetch]
  refine ⟨_, ?_, rfl⟩
  exact List.append_assoc o.seen _ _

/-- **Three courses.** An audit is refused, has no reference, or comes to the run of its workers. -/
theorem observe_cases (w : σ) :
    let run := (c.observe s onReference onResult).run (.fresh w)
    let came := ((s.transfer c.targetUrl .direct c.timeouts).run w).1
    (∃ fault, c.check = .error fault ∧ run.1 = .error (.refused fault) ∧ run.2.seen = []) ∨
    (∃ e, c.check = .ok () ∧ s.result came = .error e ∧
      run.1 = .error (.noReference c.targetUrl e) ∧
      run.2.seen = [.fetched none c.targetUrl .direct c.timeouts came]) ∨
    (∃ body o, c.check = .ok () ∧ s.result came = .ok body ∧
      o.seen = [.fetched none c.targetUrl .direct c.timeouts came, .told body.digest] ∧
      run = (c.runWorkers s.observed body.digest (Setting.noteResult onResult)).run o) := by
  intro run came
  cases hCheck : c.check with
  | error fault =>
    have hRun : run = (.error (.refused fault), .fresh w) :=
      observe_of_refused onReference onResult (.fresh w) hCheck
    exact .inl ⟨fault, rfl, by rw [hRun], by rw [hRun]; rfl⟩
  | ok =>
    cases hCame : s.result came with
    | error e =>
      obtain ⟨hError, hSeen⟩ := observe_of_noReference onReference onResult (.fresh w) hCheck hCame
      exact .inr (.inl ⟨e, rfl, rfl, hError, hSeen⟩)
    | ok body =>
      obtain ⟨o, hTold, hRun⟩ := observe_of_reference onReference onResult (.fresh w) hCheck hCame
      exact .inr (.inr ⟨body, o, rfl, rfl, hTold, hRun⟩)

/-- An audit with a report has had a reference, and a run of its workers. -/
theorem observe_of_report (hSchedule : s.schedule.IsComplete) {w : σ} {report : Report}
    (h : ((c.observe s onReference onResult).run (.fresh w)).1 = .ok report) :
    ∃ came body seen, s.result came = .ok body ∧
      report = .ofResults c.targetUrl c.proxy body.digest c.workers report.results ∧
      ((c.observe s onReference onResult).run (.fresh w)).2.seen
        = .fetched none c.targetUrl .direct c.timeouts came :: .told body.digest :: seen ∧
      Course (c.assignment body.digest) s.result c.workers report.results seen ∧
      (s.schedule.IsPeaceful → s.DrawsWell →
        IsWhole (c.assignment body.digest) s.result c.workers report.results seen) := by
  rcases observe_cases onReference onResult w (c := c) (s := s) with
    ⟨_, -, hRefused, -⟩ | ⟨_, -, -, hNone, -⟩ | ⟨body, o, -, hCame, hTold, hRun⟩
  · -- without a reference there is no report
    rw [hRefused] at h
    contradiction
  · rw [hNone] at h
    contradiction
  · rw [hRun] at h ⊢
    -- a report was made, so the table of results fits
    obtain ⟨results, seen, hReport, hSeen, hCourse, -, hWhole⟩ := Setting.runWorkers_course
      hSchedule (Setting.fits_of_report hSchedule h) body.digest onResult o
    rw [hReport] at h
    cases h
    refine ⟨_, body, seen, hCame, rfl, ?_, hCourse, hWhole⟩
    rw [hSeen, hTold]
    rfl

-- ---------------------------------------------------------------------------
-- All audits
-- ---------------------------------------------------------------------------

/--
**The order of events.** Where the threads of a pool can be started and its tables fit the memory,
an observer of an audit sees one of three things, whatever comes of the fetches, whoever gets the
next turn and whichever workers die:

* the configuration is refused, and nothing is seen;
* the direct fetch fails, and nothing else is seen;
* the direct fetch gives the reference, the reference is told once, and after that only workers
  fetch and results are handed over. No worker fetches twice, a result is handed over after the
  fetch that it is about, and the report holds the reference that was told and exactly the results
  that were handed over, in that order. Nothing is left to collect after that, and whoever has
  fetched has reported or has died. If no worker dies, each worker fetches exactly once, and the
  report holds what came of it.

The observer changes nothing: the audit by itself ends the same way, in the same world.
-/
theorem audit_order (c : Config) (s : Setting σ α) (onReference : Digest → StateM σ Unit)
    (onResult : WorkerResult → StateM σ Unit) (hSchedule : s.schedule.IsComplete)
    (hMemory : Capacity.fits c.workers Capacity.resultEntry = true) (w : σ) :
    let run := (c.observe s onReference onResult).run (.fresh w)
    let came := ((s.transfer c.targetUrl .direct c.timeouts).run w).1
    (c.audit s.machine onReference onResult).run w = (run.1, run.2.world) ∧
    ((∃ fault, c.check = .error fault ∧ run.1 = .error (.refused fault) ∧ run.2.seen = []) ∨
     (∃ e, c.check = .ok () ∧ s.result came = .error e ∧
        run.1 = .error (.noReference c.targetUrl e) ∧
        run.2.seen = [.fetched none c.targetUrl .direct c.timeouts came]) ∨
     (∃ body report seen, c.check = .ok () ∧ s.result came = .ok body ∧
        run.1 = .ok report ∧ report.reference = body.digest ∧
        run.2.seen = .fetched none c.targetUrl .direct c.timeouts came :: .told body.digest :: seen ∧
        Course (c.assignment body.digest) s.result c.workers report.results seen ∧
        (∃ p, Closing c.pool report.results seen p) ∧
        (s.schedule.IsPeaceful → s.DrawsWell →
          IsWhole (c.assignment body.digest) s.result c.workers report.results seen))) := by
  intro run came
  obtain ⟨hResult, hWorld⟩ := c.observe_world s onReference onResult (.fresh w)
  refine ⟨Prod.ext hResult.symm hWorld.symm, ?_⟩
  rcases observe_cases onReference onResult w (c := c) (s := s) with
    hRefused | hNone | ⟨body, o, hCheck, hCame, hTold, hRun⟩
  · exact .inl hRefused
  · exact .inr (.inl hNone)
  · obtain ⟨results, seen, hReport, hSeen, hCourse, hClosing, hWhole⟩ :=
      Setting.runWorkers_course hSchedule hMemory body.digest onResult o
    refine .inr (.inr ⟨body, .ofResults c.targetUrl c.proxy body.digest c.workers results, seen,
      hCheck, hCame, ?_, rfl, ?_, hCourse, hClosing, hWhole⟩)
    · exact (congrArg Prod.fst hRun).trans hReport
    · refine (congrArg (fun r => r.2.seen) hRun).trans ?_
      rw [hSeen, hTold]
      rfl

/-- Two workers on one thread: the first is done, and the second is struck dead after its fetch. -/
theorem audit_order_of_ruin :
    let body : FetchedBody := ⟨⟨List.replicate 32 0, by decide⟩, 11⟩
    let c : Config := { Config.default with targetUrl := "x:", workers := 2, maxConcurrent := some 1 }
    let s : Setting Unit FetchedBody := .steady body (.following [.step .start, .step .ready,
      .step (.claim 0), .work 0, .step (.send 0), .step .take, .step (.claim 0), .ruin 0])
    let run := (c.observe s (fun _ => pure ()) (fun _ => pure ())).run (.fresh ())
    ∃ report seen, run.1 = .ok report ∧ report.reference = body.digest ∧
      run.2.seen = .fetched none c.targetUrl .direct c.timeouts body :: .told body.digest :: seen ∧
      Course (c.assignment body.digest) s.result c.workers report.results seen ∧
      (fetchesIn seen).map Prod.fst = [0, 1] ∧ report.results.map (·.index) = [0] := by
  intro body c s run
  have hFetchers : (fetchesIn run.2.seen).map Prod.fst = [0, 1] := by decide +kernel
  have hResults : (resultsIn run.2.seen).map (·.index) = [0] := by decide +kernel
  have hOrder := audit_order c s (fun _ => pure ()) (fun _ => pure ())
    (Pool.Schedule.following_isComplete _) (by decide) ()
  have hCheck : c.check = .ok () := by decide +kernel
  rcases hOrder.2 with ⟨_, hRefused, -⟩ | ⟨_, -, hCame, -⟩
    | ⟨_, report, seen, -, hCame, hReport, hReference, hSeen, hCourse, -, -⟩
  · -- the configuration is sound and a body came, so it is the third case
    rw [hCheck] at hRefused
    contradiction
  · cases hCame
  · cases hCame
    rw [hSeen] at hFetchers hResults
    refine ⟨report, seen, hReport, hReference, hSeen, hCourse, hFetchers, ?_⟩
    rw [← hCourse.results_eq]
    exact hResults

end Config

end ProxyAudit
