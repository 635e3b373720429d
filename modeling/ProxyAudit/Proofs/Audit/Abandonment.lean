import Mathlib
import ProxyAudit.Proofs.Audit.Order
import ProxyAudit.Proofs.Pool.Abandonment

/-!
# Audits that are given up

When a thread cannot be started, the caller drops the pool before it has taken a result. The threads
that were started before are left behind, and may fetch until they find out. The audit ends with the
error, after the reference was told, and no result is handed over.

Main results:

* `observe_of_failsAt`   — an audit that fails to start a thread.
* `abandoned_pools_stop` — what is left behind by a caller that is gone.
-/

namespace ProxyAudit

variable {σ α : Type}

-- ---------------------------------------------------------------------------
-- Audits
-- ---------------------------------------------------------------------------

/-- The threads that an audit asks for. -/
def Config.threads (c : Config) : UInt64 :=
  Pool.threadCount c.workers c.maxConcurrent

namespace Setting

variable {s : Setting σ α} {c : Config} {t : Nat}

/-- What is seen of an act of a pool whose caller has taken nothing: at most a fetch. -/
theorem seen_act {a : Assignment} {onResult : WorkerResult → StateM σ Unit} {p q : Pool}
    {o o' : Observed σ α} {choice : Pool.Choice} (hStops : p.StopsAt t)
    (h : Pool.Act (s.work a) (noteResult onResult) p o choice q o') :
    ∃ seen, o'.seen = o.seen ++ seen ∧ ∀ x ∈ seen, ∃ i came, x = a.fetch i came := by
  -- a worker that runs is seen to fetch once, or not at all
  have hFetch (i : UInt64) {result : Option WorkerResult} {o' : Observed σ α}
      (hWork : (s.work a i).run o = (result, o')) :
      ∃ seen, o'.seen = o.seen ++ seen ∧ ∀ x ∈ seen, ∃ i came, x = a.fetch i came := by
    rcases s.run_work a i o with ⟨-, hSame⟩ | ⟨came, -, -, -, hSeen⟩
    · rw [hWork] at hSame
      exact ⟨[], by simpa using hSame, by simp⟩
    · rw [hWork] at hSeen
      exact ⟨_, hSeen, by simp⟩
  cases h with
  | refuse => exact ⟨[], by simp, by simp⟩
  | turn hTurn =>
    cases hTurn with
    | quiet => exact ⟨[], by simp, by simp⟩
    | take hTaking =>
      -- nobody takes from a pool whose caller is still starting threads or is gone
      have hCaller := hStops.caller
      simp [hTaking] at hCaller
    | work _ _ hWork | die _ hWork | ruin _ hWork => exact hFetch _ hWork

/-- A run of the workers that fails to start a thread. -/
theorem runWorkers_of_failsAt (hSchedule : s.schedule.FailsAt t) (hLimit : t < c.threads.toNat)
    (hFit : c.workers.toNat + c.threads.toNat ≤ 2 ^ 64)
    (hTable : Capacity.fits c.threads Capacity.threadEntry = true) (reference : Digest)
    (onResult : WorkerResult → StateM σ Unit) (o : Observed σ α) :
    let run := (c.runWorkers s.observed reference (noteResult onResult)).run o
    run.1 = .error (.noThread t) ∧
      ∃ seen, run.2.seen = o.seen ++ seen ∧
        ∀ x ∈ seen, ∃ i came, x = (c.assignment reference).fetch i came := by
  set a := c.assignment reference
  have hWork : ∀ i o r o', (s.work a i).run o = (some r, o') → r.index = i :=
    fun _ _ _ _ h => index_of_work h
  intro run
  set q := (c.pool.runIn s.schedule (s.work a) (noteResult onResult)).run o
  have hRun : run = (c.conclude reference q.1, q.2) := by
    have hFits : Capacity.fits (Pool.threadCount c.workers c.maxConcurrent) Capacity.threadEntry
        = true := hTable
    simp only [run, Config.runWorkers, hFits, if_true]
    rfl
  -- the run stops at the thread that cannot be started, with the caller gone
  obtain ⟨⟨history, hHistory⟩, hGone, hLength⟩ : Pool.Reachable c.pool q.1 ∧ q.1.caller = .gone ∧
      q.1.threads.length = t := Pool.runIn_stopsAt hFit hSchedule hLimit hWork o
  have hLess : t < q.1.threadLimit := by
    rw [(Pool.sameOrder_of_after? hHistory).limit_eq]
    exact hLimit
  rw [hRun]
  refine ⟨?error, ?seen⟩
  case error =>
    show c.conclude reference q.1 = .error (.noThread t)
    unfold Config.conclude
    rw [hGone, hLength]
    -- as many threads as were started, and more were wanted
    cases q.1.demand with
    | nothing => simp [hLess]
    | first | all => rfl
  case seen =>
    -- what is seen on the way is kept together with the pool that stops
    refine (Pool.runFor_act_induction (I := fun p o' => (t < p.threadLimit ∧ p.StopsAt t) ∧
      ∃ seen, o'.seen = o.seen ++ seen ∧ ∀ x ∈ seen, ∃ i came, x = a.fetch i came)
      hSchedule.toProceeds hWork ?act ⟨⟨hLimit, Nat.zero_le _, .inl rfl⟩, [], by simp, by simp⟩).2
    case act =>
      rintro n p o₁ choice p' o₂ hNext hAct ⟨⟨hStill, hStops⟩, seen, hSeen, hFetches⟩
      obtain ⟨_, hMove⟩ := hAct.exists_move
      obtain ⟨more, hMore, hMoreFetches⟩ := seen_act hStops hAct
      refine ⟨⟨?_, hStops.act hSchedule hStill hNext hAct⟩, seen ++ more, ?_, ?_⟩
      · rw [hMove.sameOrder.limit_eq]
        exact hStill
      · rw [hMore, hSeen, List.append_assoc]
      · intro x hx
        exact (List.mem_append.mp hx).elim (hFetches x) (hMoreFetches x)

end Setting

/-- What is seen of an audit that ends when a thread cannot be started: the direct fetch, the
reference, and then fetches of the threads that are left behind. -/
structure GivenUp (c : Config) (t : Nat) (body : FetchedBody) (came : α)
    (result : Except AuditError Report) (seen : List (Sighting α)) : Prop where
  error_eq : result = .error (.noThread t)
  seen_eq : ∃ fetches, seen = .fetched none c.targetUrl .direct c.timeouts came
      :: .told body.digest :: fetches ∧
    ∀ x ∈ fetches, ∃ i came, x = (c.assignment body.digest).fetch i came
  /-- No result is handed over. -/
  results_nil : resultsIn seen = []

/-- **An audit that fails to start a thread.** -/
theorem Config.observe_of_failsAt {c : Config} {s : Setting σ α} {t : Nat}
    (onReference : Digest → StateM σ Unit) (onResult : WorkerResult → StateM σ Unit)
    (hCheck : c.check = .ok ()) (hSchedule : s.schedule.FailsAt t) (hLimit : t < c.threads.toNat)
    (hFit : c.workers.toNat + c.threads.toNat ≤ 2 ^ 64)
    (hTable : Capacity.fits c.threads Capacity.threadEntry = true) {w : σ} {body : FetchedBody}
    (hCame : s.result ((s.transfer c.targetUrl .direct c.timeouts).run w).1 = .ok body) :
    let run := (c.observe s onReference onResult).run (.fresh w)
    GivenUp c t body ((s.transfer c.targetUrl .direct c.timeouts).run w).1 run.1 run.2.seen := by
  intro run
  obtain ⟨o, hTold, hRun⟩ :=
    observe_of_reference onReference onResult (.fresh w) (s := s) hCheck hCame
  obtain ⟨hError, seen, hSeen, hFetches⟩ :=
    Setting.runWorkers_of_failsAt hSchedule hLimit hFit hTable body.digest onResult o
  replace hRun : run = _ := hRun
  -- the two sightings of the reference, and then those of the workers
  replace hSeen : run.2.seen = .fetched none c.targetUrl .direct c.timeouts
      ((s.transfer c.targetUrl .direct c.timeouts).run w).1 :: .told body.digest :: seen := by
    rw [hRun, hSeen, hTold]
    rfl
  refine ⟨by rw [hRun, hError], ⟨seen, hSeen, hFetches⟩, ?_⟩
  -- none of what was seen is a result: not the first two, and not the fetches
  rw [hSeen, resultsIn, List.filterMap_eq_nil_iff]
  intro x hx
  rcases List.mem_cons.mp hx with rfl | hx
  · rfl
  rcases List.mem_cons.mp hx with rfl | hx
  · rfl
  obtain ⟨i, came, rfl⟩ := hFetches x hx
  rfl

-- ---------------------------------------------------------------------------
-- What is left behind
-- ---------------------------------------------------------------------------

/--
**Abandoned pools stop.** Take a pool whose workers and threads fit the words together, and whose
caller is gone: it has dropped the pool after any number of results, or because a thread could not
be started. Wherever a history has led the pool, and however it goes on from there:

* each thread that was started runs one more worker at most, and then it leaves, because it cannot
  hand in a result or because there is no index left, or it dies; and all of them come to that;
* so no more workers are begun than there are threads, no thread is started, and nobody gets a
  result;
* in all, no worker is begun twice.

An audit of a sound configuration that has its reference, and then fails to start a thread, ends
with the number of that thread. What is seen of it is the direct fetch, the reference when it is
told, and then nothing but fetches of workers: no result is handed over. The observer changes
nothing.
-/
theorem abandoned_pools_stop (σ α : Type) :
    (∀ (count : UInt64) (maxConcurrent : Option UInt64) (demand : Demand)
        (history : List Pool.Step) (p : Pool),
      count.toNat + (Pool.threadCount count maxConcurrent).toNat ≤ 2 ^ 64 →
      (Pool.fresh count maxConcurrent demand).after? history = some p → p.caller = .gone →
      (p.Comes fun q => ∀ th ∈ q.threads, th.isOver = true) ∧
      ∀ later q, p.after? later = some q → p.WindsDown later q ∧
        ((Pool.fresh count maxConcurrent demand).begunIndices (history ++ later)).Nodup) ∧
    ∀ (c : Config) (s : Setting σ α) (onReference : Digest → StateM σ Unit)
        (onResult : WorkerResult → StateM σ Unit) (w : σ) (t : Nat) (body : FetchedBody),
      c.check = .ok () → s.schedule.FailsAt t → t < c.threads.toNat →
      c.workers.toNat + c.threads.toNat ≤ 2 ^ 64 →
      Capacity.fits c.threads Capacity.threadEntry = true →
      s.result ((s.transfer c.targetUrl .direct c.timeouts).run w).1 = .ok body →
      let run := (c.observe s onReference onResult).run (.fresh w)
      (c.audit s.machine onReference onResult).run w = (run.1, run.2.world) ∧
      GivenUp c t body ((s.transfer c.targetUrl .direct c.timeouts).run w).1 run.1 run.2.seen := by
  refine ⟨?pool, ?audit⟩
  case pool =>
    intro count maxConcurrent demand history p hFit hHistory hGone
    refine ⟨Pool.comes_over_of_gone hGone, fun later q hLater =>
      ⟨Pool.windsDown hGone hLater, ?_⟩⟩
    -- one history, so that what was begun before and after the drop is not begun twice
    have hAll : (Pool.fresh count maxConcurrent demand).after? (history ++ later) = some q := by
      rw [Pool.after?_append, hHistory]
      exact hLater
    exact (Pool.pairwise_begunIndices hAll ((Pool.claims_le hAll hFit).trans hFit)).imp
      UInt64.ne_of_lt
  case audit =>
    intro c s onReference onResult w t body hCheck hSchedule hLimit hFit hTable hCame run
    obtain ⟨hResult, hWorld⟩ := c.observe_world s onReference onResult (.fresh w)
    exact ⟨Prod.ext hResult.symm hWorld.symm, Config.observe_of_failsAt onReference onResult hCheck
      hSchedule hLimit hFit hTable hCame⟩

/-- A caller drops a pool of two threads after one result: one of them begins the last of three
workers, and both cannot hand in what they have. And an audit on two threads starts one of them,
which fetches once after the other could not be started. -/
theorem abandoned_pools_stop_of_two :
    (let r : UInt64 → WorkerResult := fun i => ⟨i, .matched 11, 0, 1⟩
     let history : List Pool.Step := [.start, .start, .ready, .claim 0, .claim 1, .finish 0 (r 0),
      .send 0, .take, .drop]
     let later : List Pool.Step := [.claim 0, .finish 1 (r 1), .send 1, .finish 0 (r 2), .send 0]
     let start := Pool.fresh 3 (some 2) (.first 2)
     ∃ p q, start.after? history = some p ∧ p.after? later = some q ∧ p.begun later = [(0, 2)] ∧
      (p.Comes fun q => ∀ th ∈ q.threads, th.isOver = true) ∧ p.WindsDown later q ∧
      (start.begunIndices (history ++ later)).Nodup) ∧
    let body : FetchedBody := ⟨⟨List.replicate 32 0, by decide⟩, 11⟩
    let c : Config := { Config.default with targetUrl := "x:", workers := 2, maxConcurrent := some 2 }
    let s : Setting Unit FetchedBody :=
      .steady body (.failing 1 (.following [.step .start, .step .start]))
    let run := (c.observe s (fun _ => pure ()) (fun _ => pure ())).run (.fresh ())
    GivenUp c 1 body body run.1 run.2.seen ∧ (fetchesIn run.2.seen).map Prod.fst = [0] := by
  constructor
  · -- one of the two threads begins the last worker after the drop
    intro r history later start
    obtain ⟨p, hp, hEnd⟩ := Option.map_eq_some_iff.mp
      (show (start.after? history).map (fun p =>
        (p.caller, p.begun later, (p.after? later).isSome)) = some (.gone, [(0, 2)], true) by
          decide +kernel)
    simp only [Prod.mk.injEq] at hEnd
    obtain ⟨hGone, hBegun, hSome⟩ := hEnd
    obtain ⟨q, hq⟩ := Option.isSome_iff_exists.mp hSome
    obtain ⟨hComes, hLater⟩ := (abandoned_pools_stop Unit Unit).1 3 (some 2) (.first 2) history p
      (by decide) hp hGone
    obtain ⟨hWinds, hNodup⟩ := hLater later q hq
    exact ⟨p, q, hp, hq, hBegun, hComes, hWinds, hNodup⟩
  · intro body c s run
    -- the second thread fails to start
    obtain ⟨-, hGivenUp⟩ := (abandoned_pools_stop Unit FetchedBody).2 c s (fun _ => pure ())
      (fun _ => pure ()) () 1 body (by decide +kernel)
      (Pool.Schedule.failing_failsAt (Pool.Schedule.following_isComplete _) 1) (by decide) (by decide)
      (by decide) rfl
    exact ⟨hGivenUp, by decide +kernel⟩

end ProxyAudit
