import Mathlib
import ProxyAudit.Proofs.Audit.Observed
import ProxyAudit.Proofs.Pool.Thorough

/-!
# What is seen of the workers

The ledger of a pool compares what an observer has seen since the pool was opened with where the
results of the pool are. Each fetch of a worker either led to a result that the pool handles, with
the verdict on what came of the fetch, or it was wasted by a worker that died after it. Each result
was handed over once, in the order in which the caller took them, after the fetch that it is about.

One turn of the pool keeps the ledger. At the end of a run the caller has all results that were
made, so the report can be read off the ledger.

Main results:

* `run_work`     — what one worker does.
* `Ledger.turn`  — every turn of the pool keeps the ledger.
-/

namespace ProxyAudit

-- ---------------------------------------------------------------------------
-- Reading what was seen
-- ---------------------------------------------------------------------------

namespace Sighting

variable {α : Type}

def result? : Sighting α → Option WorkerResult
  | took r => some r
  | _ => none

/-- The worker that fetches, and what comes of it. -/
def fetch? : Sighting α → Option (UInt64 × α)
  | fetched (some index) _ _ _ came => some (index, came)
  | _ => none

end Sighting

variable {σ α : Type}

/-- The results that were handed over, in order. -/
def resultsIn (seen : List (Sighting α)) : List WorkerResult :=
  seen.filterMap Sighting.result?

/-- The fetches of workers, in order: who fetched, and what came of it. -/
def fetchesIn (seen : List (Sighting α)) : List (UInt64 × α) :=
  seen.filterMap Sighting.fetch?

def WorkerResult.verdict (r : WorkerResult) : UInt64 × Outcome :=
  (r.index, r.outcome)

/-- What a worker makes of its fetch. -/
def verdictOn (reference : Digest) (result : α → FetchResult) (fetch : UInt64 × α) :
    UInt64 × Outcome :=
  (fetch.1, .ofFetch reference (result fetch.2))

/-- The fetch that a worker makes by its assignment, and what comes of it. -/
def Assignment.fetch (a : Assignment) (index : UInt64) (came : α) : Sighting α :=
  .fetched (some index) a.targetUrl (.proxy a.proxy) a.timeouts came

-- ---------------------------------------------------------------------------
-- One worker
-- ---------------------------------------------------------------------------

namespace Setting

/-- The turn of a worker under observation. -/
def work (s : Setting σ α) (a : Assignment) (i : UInt64) :
    StateM (Observed σ α) (Option WorkerResult) :=
  Observed.turnOf i (a.runWorker s.observed i)

variable {s : Setting σ α} {a : Assignment} {i : UInt64} {o : Observed σ α}

theorem run_work_of_no_delay (h : a.jitter.sample (s.draw.run o.world).1 = none) :
    (s.work a i).run o = (none, ⟨(s.draw.run o.world).2, none, o.seen⟩) := by
  simp only [work, Observed.turnOf, Assignment.runWorker, StateM.run_bind]
  split
  · rfl
  · next hDelay =>
    have hSome := h.symm.trans hDelay
    contradiction

/-- A worker that has waited fetches once, and reports the verdict on what came of it. -/
theorem run_work_of_delay {delay : Span} (h : a.jitter.sample (s.draw.run o.world).1 = some delay) :
    let before := (s.now.run ((s.sleep delay).run (s.draw.run o.world).2).2).2
    let transfer := (s.transfer a.targetUrl (.proxy a.proxy) a.timeouts).run before
    ∃ fetchMs, (s.work a i).run o
      = (some ⟨i, .ofFetch a.reference (s.result transfer.1), delay.millis, fetchMs⟩,
        ⟨(s.now.run transfer.2).2, none, o.seen ++ [a.fetch i transfer.1]⟩) := by
  simp only [work, Observed.turnOf, Assignment.runWorker, StateM.run_bind]
  split
  · next hDelay =>
    have hNone := h.symm.trans hDelay
    contradiction
  · next hDelay =>
    cases h.symm.trans hDelay
    exact ⟨_, rfl⟩

/-- **One worker.** It dies before it fetches, or it fetches once by its assignment and reports
the verdict on what came of it. -/
theorem run_work (s : Setting σ α) (a : Assignment) (i : UInt64) (o : Observed σ α) :
    let run := (s.work a i).run o
    (run.1 = none ∧ run.2.seen = o.seen) ∨
    ∃ came r, run.1 = some r ∧ r.verdict = verdictOn a.reference s.result (i, came) ∧
      run.2.seen = o.seen ++ [a.fetch i came] := by
  intro run
  cases hDelay : a.jitter.sample (s.draw.run o.world).1 with
  | none =>
    have hRun : run = _ := run_work_of_no_delay hDelay
    exact .inl (by simp [hRun])
  | some delay =>
    obtain ⟨fetchMs, hRun⟩ := run_work_of_delay (s := s) (i := i) hDelay
    replace hRun : run = _ := hRun
    exact .inr ⟨_, _, by rw [hRun], rfl, by rw [hRun]⟩

theorem index_of_work {o' : Observed σ α} {r : WorkerResult}
    (h : (s.work a i).run o = (some r, o')) : r.index = i := by
  rcases s.run_work a i o with ⟨hNone, -⟩ | ⟨came, r', hSome, hVerdict, -⟩
  · rw [h] at hNone
    contradiction
  · rw [h] at hSome
    cases hSome
    exact congrArg Prod.fst hVerdict

theorem work_ne_none (hDraws : s.DrawsWell) (a : Assignment) (i : UInt64) (o : Observed σ α) :
    ((s.work a i).run o).1 ≠ none := by
  cases hDelay : a.jitter.sample (s.draw.run o.world).1 with
  | none =>
    unfold Jitter.sample at hDelay
    split at hDelay
    · contradiction
    · next hRoom =>
      have hDrawn := hDraws o.world a.jitter.min a.jitter.max (by omega)
      rw [hDelay] at hDrawn
      contradiction
  | some delay =>
    obtain ⟨fetchMs, hRun⟩ := run_work_of_delay (s := s) (i := i) hDelay
    simp [hRun]

end Setting

-- ---------------------------------------------------------------------------
-- The ledger
-- ---------------------------------------------------------------------------

/-- What was seen since a pool was opened, against what the pool handles. -/
structure Ledger (a : Assignment) (result : α → FetchResult) (p : Pool)
    (seen : List (Sighting α)) : Prop where
  /-- Workers fetch by their assignment, and results are handed over. -/
  kinds : ∀ x ∈ seen, (∃ i came, x = a.fetch i came) ∨ ∃ r, x = .took r
  results_eq : resultsIn seen = p.taken
  /-- A result is handed over after the fetch that it is about. -/
  causes : ∀ before r, before ++ [.took r] <+: seen →
    ∃ came, a.fetch r.index came ∈ before ∧ r.outcome = .ofFetch a.reference (result came)
  /-- Each fetch led to a result, or its worker died after it. -/
  verdicts : ∃ wasted,
    ((fetchesIn seen).map (verdictOn a.reference result)).Perm
      (p.handled.map WorkerResult.verdict ++ wasted) ∧
    (wasted.map Prod.fst).Subperm p.lost

namespace Ledger

variable {a : Assignment} {result : α → FetchResult} {p q : Pool} {seen : List (Sighting α)}

theorem fresh (a : Assignment) (result : α → FetchResult) (count : UInt64)
    (maxConcurrent : Option UInt64) (demand : Demand) :
    Ledger a result (.fresh count maxConcurrent demand) [] where
  kinds := by simp
  results_eq := rfl
  causes before r h := by simp at h
  verdicts := ⟨[], .refl _, .refl _⟩

theorem exists_fetch (hLedger : Ledger a result p seen) {i : UInt64} {outcome : Outcome}
    (h : (i, outcome) ∈ (fetchesIn seen).map (verdictOn a.reference result)) :
    ∃ came, a.fetch i came ∈ seen ∧ outcome = .ofFetch a.reference (result came) := by
  obtain ⟨⟨j, came⟩, hFetch, hVerdict⟩ := List.mem_map.mp h
  obtain ⟨x, hSeen, hx⟩ := List.mem_filterMap.mp hFetch
  simp only [verdictOn, Prod.mk.injEq] at hVerdict
  obtain ⟨rfl, rfl⟩ := hVerdict
  rcases hLedger.kinds x hSeen with ⟨k, came', rfl⟩ | ⟨r, rfl⟩
  · simp only [Assignment.fetch, Sighting.fetch?, Option.some.injEq, Prod.mk.injEq] at hx
    obtain ⟨rfl, rfl⟩ := hx
    exact ⟨came', hSeen, rfl⟩
  · simp [Sighting.fetch?] at hx

/-- A result that the pool handles is about a fetch that was seen. -/
theorem exists_fetch_of_handled (hLedger : Ledger a result p seen) {r : WorkerResult}
    (h : r ∈ p.handled) :
    ∃ came, a.fetch r.index came ∈ seen ∧ r.outcome = .ofFetch a.reference (result came) := by
  obtain ⟨wasted, hVerdicts, -⟩ := hLedger.verdicts
  have hMem : r.verdict ∈ p.handled.map WorkerResult.verdict ++ wasted :=
    List.mem_append_left _ (List.mem_map_of_mem h)
  exact hLedger.exists_fetch (hVerdicts.mem_iff.mpr hMem)

theorem quiet (hLedger : Ledger a result p seen) (hTaken : q.taken = p.taken)
    (hHandled : q.handled.Perm p.handled) (hLost : p.lost.Subperm q.lost) :
    Ledger a result q seen where
  kinds := hLedger.kinds
  results_eq := hLedger.results_eq.trans hTaken.symm
  causes := hLedger.causes
  verdicts := by
    obtain ⟨wasted, hVerdicts, hWasted⟩ := hLedger.verdicts
    exact ⟨wasted, hVerdicts.trans ((hHandled.map _).symm.append_right _), hWasted.trans hLost⟩

theorem took (hLedger : Ledger a result p seen) {r : WorkerResult} (h : r ∈ p.handled)
    (hTaken : q.taken = p.taken ++ [r]) (hHandled : q.handled.Perm p.handled)
    (hLost : q.lost = p.lost) : Ledger a result q (seen ++ [.took r]) where
  kinds x hx := by
    rcases List.mem_append.mp hx with hx | hx
    · exact hLedger.kinds x hx
    · exact .inr ⟨r, List.mem_singleton.mp hx⟩
  results_eq := by
    rw [hTaken, ← hLedger.results_eq]
    simp [resultsIn, Sighting.result?]
  causes before x hx := by
    rcases List.prefix_concat_iff.mp hx with hAll | hBefore
    · -- the last one, whose fetch has been seen
      obtain ⟨rfl, hLast⟩ := List.append_inj' hAll rfl
      simp only [List.cons.injEq, Sighting.took.injEq, and_true] at hLast
      subst hLast
      exact hLedger.exists_fetch_of_handled h
    · exact hLedger.causes before x hBefore
  verdicts := by
    obtain ⟨wasted, hVerdicts, hWasted⟩ := hLedger.verdicts
    refine ⟨wasted, ?_, hLost ▸ hWasted⟩
    have hFetches : fetchesIn (seen ++ [.took r]) = fetchesIn seen := by
      simp [fetchesIn, Sighting.fetch?]
    rw [hFetches]
    exact hVerdicts.trans ((hHandled.map _).symm.append_right _)

/-- A worker fetches. What it makes of its fetch is handled from now on, or it is wasted. -/
theorem fetched (hLedger : Ledger a result p seen) {i : UInt64} {came : α}
    (hTaken : q.taken = p.taken)
    (hVerdict : (∃ r : WorkerResult, r.verdict = verdictOn a.reference result (i, came) ∧
        q.handled.Perm (r :: p.handled) ∧ q.lost.Perm p.lost) ∨
      (q.handled.Perm p.handled ∧ q.lost.Perm (i :: p.lost))) :
    Ledger a result q (seen ++ [a.fetch i came]) where
  kinds x hx := by
    rcases List.mem_append.mp hx with hx | hx
    · exact hLedger.kinds x hx
    · exact .inl ⟨i, came, List.mem_singleton.mp hx⟩
  results_eq := by
    rw [hTaken, ← hLedger.results_eq]
    simp [resultsIn, Assignment.fetch, Sighting.result?]
  causes before x hx := by
    rcases List.prefix_concat_iff.mp hx with hAll | hBefore
    · simp [Assignment.fetch] at hAll
    · exact hLedger.causes before x hBefore
  verdicts := by
    obtain ⟨wasted, hVerdicts, hWasted⟩ := hLedger.verdicts
    have hFetches : ((fetchesIn (seen ++ [a.fetch i came])).map
        (verdictOn a.reference result)).Perm (verdictOn a.reference result (i, came)
          :: (p.handled.map WorkerResult.verdict ++ wasted)) := by
      simp only [fetchesIn, List.filterMap_append, List.map_append]
      exact (List.perm_append_singleton _ _).trans (hVerdicts.cons _)
    -- the verdict goes to the result of the worker, or it is wasted and the index is lost
    rcases hVerdict with ⟨r, hr, hHandled, hLost⟩ | ⟨hHandled, hLost⟩
    · refine ⟨wasted, ?_, hWasted.trans hLost.symm.subperm⟩
      rw [← hr] at hFetches
      exact hFetches.trans ((hHandled.map WorkerResult.verdict).symm.append_right wasted)
    · refine ⟨verdictOn a.reference result (i, came) :: wasted, ?_, ?_⟩
      · have hKept := (hHandled.map WorkerResult.verdict).symm.append_right wasted
        exact hFetches.trans ((hKept.cons _).trans List.perm_middle.symm)
      · exact ((List.subperm_cons i).mpr hWasted).trans hLost.symm.subperm

/-- **Every turn keeps the ledger.** -/
theorem turn {s : Setting σ α} {onResult : WorkerResult → StateM σ Unit} {o o' : Observed σ α}
    {c : Pool.Choice} {start : List (Sighting α)} (hLedger : Ledger a s.result p seen)
    (hThorough : p.Thorough) (hSeen : o.seen = start ++ seen)
    (h : Pool.Turn (s.work a) (Setting.noteResult onResult) p o c q o') :
    ∃ seen', o'.seen = start ++ seen' ∧ Ledger a s.result q seen' := by
  have hStays := hThorough.stays
  cases h with
  | @quiet step _ hMove hTaken hChoice =>
    obtain ⟨-, -, hMade⟩ := Pool.ne_of_mem_choices hChoice
    have hHandled := Pool.handled_move hMove hStays
    rw [hMade] at hHandled
    exact ⟨seen, hSeen, hLedger.quiet hTaken hHandled (Pool.lost_subperm_move hMove)⟩
  | @take more r rest hCaller hMore hLeft hQueue =>
    have hMove := Pool.Move.take hCaller hMore hLeft hQueue
    have hMem : r ∈ p.handled := by simp [Pool.handled, hQueue]
    -- a result that is taken was handled before, and only changes its place
    refine ⟨seen ++ [.took r], ?_, hLedger.took hMem rfl (Pool.handled_move hMove hStays) rfl⟩
    have hNoted : (((Setting.noteResult onResult r).run o).2).seen = o.seen ++ [.took r] := rfl
    rw [hNoted, hSeen, List.append_assoc]
  | @work t i r o' hThread hIndex hWork =>
    have hMove := Pool.Move.finish (r := r) (by rw [hThread, hIndex])
    have hHandled := Pool.handled_move hMove hStays
    have hLost := Pool.lost_move hMove
    rcases s.run_work a i o with ⟨hNone, -⟩ | ⟨came, r', hSome, hVerdict, hFetched⟩
    · rw [hWork] at hNone
      contradiction
    · -- the worker is done, so its fetch is one of those with a result
      rw [hWork] at hSome hFetched
      cases hSome
      refine ⟨seen ++ [a.fetch i came], ?_,
        hLedger.fetched rfl (.inl ⟨r, hVerdict, hHandled, hLost⟩)⟩
      rw [hFetched, hSeen, List.append_assoc]
  | @die t i o' hThread hWork =>
    have hMove := Pool.Move.crash hThread
    have hHandled := Pool.handled_move hMove hStays
    rcases s.run_work a i o with ⟨-, hFetched⟩ | ⟨came, r', hSome, -, -⟩
    · -- it died before it fetched
      rw [hWork] at hFetched
      have hLost := Pool.lost_subperm_move hMove
      exact ⟨seen, by rw [hFetched, hSeen], hLedger.quiet rfl hHandled hLost⟩
    · rw [hWork] at hSome
      contradiction
  | @ruin t i result o' hThread hWork =>
    have hMove := Pool.Move.crash hThread
    have hHandled := Pool.handled_move hMove hStays
    have hLost := Pool.lost_move hMove
    simp only [Pool.falls, hThread, Option.bind_some, Thread.held?, Option.toList_some] at hLost
    rcases s.run_work a i o with ⟨-, hFetched⟩ | ⟨came, r', -, -, hFetched⟩
    · -- it died with nothing fetched
      rw [hWork] at hFetched
      have hMore := Pool.lost_subperm_move hMove
      exact ⟨seen, by rw [hFetched, hSeen], hLedger.quiet rfl hHandled hMore⟩
    · -- it died after its fetch, which is wasted
      rw [hWork] at hFetched
      refine ⟨seen ++ [a.fetch i came], ?_, hLedger.fetched rfl (.inr ⟨hHandled, hLost⟩)⟩
      rw [hFetched, hSeen, List.append_assoc]

end Ledger

end ProxyAudit
