import Mathlib
import ProxyAudit.Proofs.Pool.Records
import ProxyAudit.Proofs.Pool.Runs

/-!
# Abandoned pools

A caller may drop a pool after any number of results, or because a thread could not be started. The
threads that were started are not told; each of them finds out when it hands in its next result. So
a thread runs one more worker at most, and none if it was past that, and then it leaves, unless it
leaves before that for want of an index or dies.

A pool that fails to start a thread is dropped with the threads before it, before anything is taken.

What a single thread still does is a relation of its own (`LastSteps`). It has no rule that leads
back to the claim of an index, which is why one worker is all there can be.

Main results:

* `exists_lastSteps`     — what each thread of an abandoned pool still does.
* `windsDown`            — what an abandoned pool still does.
* `comes_over_of_gone`   — all its threads come to their end.
* `runIn_stopsAt`        — the run of a pool that fails to start a thread.
-/

namespace ProxyAudit.Pool

variable {p q : Pool} {s : Step} {later : List Step} {t : Nat} {th : Thread}

-- ---------------------------------------------------------------------------
-- Only threads act
-- ---------------------------------------------------------------------------

/-- The thread that a step is of, if it is of one. -/
def Step.thread? : Step → Option Nat
  | claim t | finish t _ | crash t | send t => some t
  | start | refuse | ready | take | join | close | drop => none

/-- In a pool that was dropped only the threads act, and nothing comes out of it. -/
theorem gone_move (hGone : p.caller = .gone) (h : Move p s q) :
    q.caller = .gone ∧ q.threads.length = p.threads.length ∧ q.delivered = p.delivered ∧
      ∃ u, s.thread? = some u := by
  cases h with
  | claim | leave | finish | crash | discard => simp [setThread, delivered, Step.thread?, hGone]
  | send _ hCaller => exact absurd hGone hCaller
  | start hCaller | refuse hCaller | ready hCaller | take hCaller | takeNone hCaller
  | takeLast hCaller | collect hCaller | collectNone hCaller | join hCaller | close hCaller
  | drop hCaller =>
    rw [hGone] at hCaller
    contradiction

theorem gone_after? (hGone : p.caller = .gone) (h : p.after? later = some q) :
    q.caller = .gone ∧ q.threads.length = p.threads.length ∧ q.delivered = p.delivered := by
  refine after?_induction (P := fun _ q => q.caller = .gone ∧
    q.threads.length = p.threads.length ∧ q.delivered = p.delivered) h ⟨hGone, rfl, rfl⟩ ?_
  rintro - s q r ⟨hStill, hLength, hDelivered⟩ hMove
  obtain ⟨hAfter, hSameLength, hSame, -⟩ := gone_move hStill hMove
  exact ⟨hAfter, hSameLength.trans hLength, hSame.trans hDelivered⟩

/-- **Abandoned pools come to their end.** -/
theorem comes_over_of_gone (hGone : p.caller = .gone) :
    p.Comes fun q => ∀ th ∈ q.threads, th.isOver = true := by
  refine comes_of_kept (I := fun q => q.caller = .gone) ?next ?kept hGone
  case next =>
    intro q _ hLive
    obtain ⟨th, hThread, hNot⟩ : ∃ th ∈ q.threads, th.isOver ≠ true := by simpa using hLive
    obtain ⟨t, ht⟩ := List.getElem?_of_mem hThread
    obtain ⟨c, hc⟩ := exists_choice_of_live ht (by simpa using hNot)
    exact canGoOn_of_choices (List.ne_nil_of_mem hc)
  case kept =>
    intro q s r hStill _ _ hMove
    exact (gone_move hStill hMove).1

-- ---------------------------------------------------------------------------
-- What a thread still does
-- ---------------------------------------------------------------------------

/-- What a thread does when nobody takes results any more: what it is at, its steps, and what it
comes to. -/
inductive LastSteps (t : Nat) : Thread → List (Pool × Step) → Thread → Prop where
  /-- It does nothing, or nothing yet. -/
  | rest {th : Thread} : LastSteps t th [] th
  /-- It begins one more worker. -/
  | claim {p : Pool} {steps : List (Pool × Step)} {th : Thread} (hIndex : p.counter < p.count)
      (hRest : LastSteps t (.working p.counter) steps th) :
      LastSteps t .idle ((p, .claim t) :: steps) th
  /-- It finds no index left, and leaves. -/
  | leave {p : Pool} (hIndex : p.count ≤ p.counter) : LastSteps t .idle [(p, .claim t)] .left
  | finish {p : Pool} {result : WorkerResult} {steps : List (Pool × Step)} {th : Thread}
      (hRest : LastSteps t (.sending result) steps th) :
      LastSteps t (.working result.index) ((p, .finish t result) :: steps) th
  /-- Its worker dies, and it with it. -/
  | crash {p : Pool} {i : UInt64} : LastSteps t (.working i) [(p, .crash t)] (.dead i)
  /-- It cannot hand in its result, and leaves. -/
  | discard {p : Pool} {result : WorkerResult} (hCaller : p.caller = .gone) :
      LastSteps t (.sending result) [(p, .send t)] .left

/-- A thread that is over does nothing. -/
theorem LastSteps.of_isOver {steps : List (Pool × Step)} {th' : Thread}
    (h : LastSteps t th steps th') (hOver : th.isOver = true) : steps = [] ∧ th' = th := by
  cases h with
  | rest => exact ⟨rfl, rfl⟩
  | claim | leave | finish | crash | discard => simp [Thread.isOver] at hOver

/-- **One worker is all there can be,** and only for a thread that is about to claim. -/
theorem LastSteps.length_begins_le {steps : List (Pool × Step)} {th' : Thread}
    (h : LastSteps t th steps th') :
    (steps.filterMap begins).length ≤ if th = .idle then 1 else 0 := by
  induction h with
  | rest => exact Nat.zero_le _
  | claim hIndex _ ih => simpa [begins, hIndex] using ih
  | leave hIndex => simp [begins, UInt64.not_lt.mpr hIndex]
  | finish _ ih => simpa [begins] using ih
  | crash | discard => simp [begins]

/-- The steps of one thread. -/
def stepsOf (t : Nat) (steps : List (Pool × Step)) : List (Pool × Step) :=
  steps.filter (·.2.thread? == some t)

/-- A step leaves the other threads as they are. -/
theorem getElem?_of_other (hGone : p.caller = .gone) (h : Move p s q)
    (hOther : s.thread? ≠ some t) : q.threads[t]? = p.threads[t]? := by
  have hNe {u : Nat} (hStep : some u ≠ some t) : u ≠ t := fun hSame => hStep (congrArg some hSame)
  obtain ⟨-, -, -, hThread⟩ := gone_move hGone h
  cases h with
  | claim | leave | finish | crash | send | discard =>
    exact List.getElem?_set_ne (hNe hOther)
  | start | refuse | ready | take | takeNone | takeLast | collect | collectNone | join | close
  | drop => simp [Step.thread?] at hThread

/-- A step of a thread is the first of its last ones. -/
theorem LastSteps.cons (hGone : p.caller = .gone) (h : Move p s q) (hOwn : s.thread? = some t)
    (hThread : p.threads[t]? = some th) :
    ∃ next, q.threads[t]? = some next ∧ ∀ steps th', LastSteps t next steps th' →
      LastSteps t th ((p, s) :: steps) th' := by
  obtain ⟨hLength, -⟩ := List.getElem?_eq_some_iff.mp hThread
  -- the step is that of the thread itself, so it finds the thread as it is
  have hIs {old : Thread} (hOld : p.threads[t]? = some old) : th = old :=
    Option.some.inj (hThread.symm.trans hOld)
  cases h with
  | @claim u hOld hIndex =>
    obtain rfl : u = t := Option.some.inj hOwn
    obtain rfl := hIs hOld
    exact ⟨_, List.getElem?_set_self hLength, fun steps th' hRest => .claim hIndex hRest⟩
  | @leave u hOld hIndex =>
    obtain rfl : u = t := Option.some.inj hOwn
    obtain rfl := hIs hOld
    refine ⟨_, List.getElem?_set_self hLength, fun steps th' hRest => ?_⟩
    -- a thread that is over has no steps left, so this one was its last
    obtain ⟨rfl, rfl⟩ := hRest.of_isOver rfl
    exact .leave (UInt64.not_lt.mp hIndex)
  | @finish u result hOld =>
    obtain rfl : u = t := Option.some.inj hOwn
    obtain rfl := hIs hOld
    exact ⟨_, List.getElem?_set_self hLength, fun steps th' hRest => .finish hRest⟩
  | @crash u i hOld =>
    obtain rfl : u = t := Option.some.inj hOwn
    obtain rfl := hIs hOld
    refine ⟨_, List.getElem?_set_self hLength, fun steps th' hRest => ?_⟩
    obtain ⟨rfl, rfl⟩ := hRest.of_isOver rfl
    exact .crash
  | @discard u result hOld hCaller =>
    obtain rfl : u = t := Option.some.inj hOwn
    obtain rfl := hIs hOld
    refine ⟨_, List.getElem?_set_self hLength, fun steps th' hRest => ?_⟩
    obtain ⟨rfl, rfl⟩ := hRest.of_isOver rfl
    exact .discard hCaller
  | send _ hCaller => exact absurd hGone hCaller
  | start | refuse | ready | take | takeNone | takeLast | collect | collectNone | join | close
  | drop => simp [Step.thread?] at hOwn

/-- **What a thread of an abandoned pool still does.** -/
theorem exists_lastSteps (hGone : p.caller = .gone) (h : p.after? later = some q)
    (hThread : p.threads[t]? = some th) :
    ∃ th', q.threads[t]? = some th' ∧ LastSteps t th (stepsOf t (p.trace later)) th' := by
  induction later generalizing p th with
  | nil =>
    cases h
    exact ⟨th, hThread, .rest⟩
  | cons s later ih =>
    obtain ⟨r, hStep, hRest⟩ := Option.bind_eq_some_iff.mp h
    have hMove := step?_eq_some_iff.mp hStep
    obtain ⟨hStill, -⟩ := gone_move hGone hMove
    have hTrace : p.trace (s :: later) = (p, s) :: r.trace later := by simp only [trace, hStep]
    -- only the steps of the thread count, and the others leave it where it is
    by_cases hOwn : s.thread? = some t
    · obtain ⟨next, hNext, hFirst⟩ := LastSteps.cons hGone hMove hOwn hThread
      obtain ⟨th', hAfter, hLast⟩ := ih hStill hRest hNext
      refine ⟨th', hAfter, ?_⟩
      rw [hTrace, stepsOf, List.filter_cons_of_pos (by simp [hOwn])]
      exact hFirst _ _ hLast
    · rw [← getElem?_of_other hGone hMove hOwn] at hThread
      obtain ⟨th', hAfter, hLast⟩ := ih hStill hRest hThread
      refine ⟨th', hAfter, ?_⟩
      rw [hTrace, stepsOf, List.filter_cons_of_neg (by simp [hOwn])]
      exact hLast

-- ---------------------------------------------------------------------------
-- What a pool still does
-- ---------------------------------------------------------------------------

/-- The workers that a thread begins are begun in its steps. -/
theorem length_ofThread_begun (t : Nat) (p : Pool) (later : List Step) :
    (ofThread t (p.begun later)).length
      = ((stepsOf t (p.trace later)).filterMap begins).length := by
  rw [ofThread, List.length_map, begun, List.filter_filterMap, stepsOf, List.filterMap_filter]
  refine congrArg List.length (List.filterMap_congr ?_)
  rintro ⟨q, s⟩ -
  cases s with
  | claim u =>
    by_cases hIndex : q.counter < q.count <;> by_cases hSame : u = t <;>
      simp [begins, Step.thread?, hIndex, hSame]
  | start | refuse | ready | finish | crash | send | take | join | close | drop =>
    simp [begins]

/-- What an abandoned pool has done, from one pool to another. -/
structure WindsDown (p : Pool) (later : List Step) (q : Pool) : Prop where
  gone : q.caller = .gone
  /-- No thread is started. -/
  length_eq : q.threads.length = p.threads.length
  /-- Nobody gets a result. -/
  delivered_eq : q.delivered = p.delivered
  sent_eq : p.sent later = []
  /-- Each thread does no more than its last steps, -/
  lastSteps : ∀ t th, p.threads[t]? = some th →
    ∃ th', q.threads[t]? = some th' ∧ LastSteps t th (stepsOf t (p.trace later)) th'
  /-- so it begins one more worker at most, -/
  ofThread_le : ∀ t, (ofThread t (p.begun later)).length ≤ 1
  /-- and as many workers are begun as there are threads at most. -/
  begun_le : (p.begun later).length ≤ p.threads.length

theorem length_ofThread_le (hGone : p.caller = .gone) (h : p.after? later = some q) (t : Nat) :
    (ofThread t (p.begun later)).length ≤ 1 := by
  rcases hThread : p.threads[t]? with _ | th
  · -- a thread that is not there begins nothing
    have hNone : ofThread t (p.begun later) = [] := by
      rw [ofThread, List.map_eq_nil_iff, List.filter_eq_nil_iff]
      intro x hx hSame
      have hLess := (lt_length_of_records h).1 x hx
      rw [(gone_after? hGone h).2.1, eq_of_beq hSame] at hLess
      rw [List.getElem?_eq_none_iff] at hThread
      omega
    simp [hNone]
  · obtain ⟨_, -, hLast⟩ := exists_lastSteps hGone h hThread
    have hLe := hLast.length_begins_le
    rw [length_ofThread_begun]
    split at hLe <;> omega

theorem length_begun_le (hGone : p.caller = .gone) (h : p.after? later = some q) :
    (p.begun later).length ≤ p.threads.length := by
  have hNodup : ((p.begun later).map Prod.fst).Nodup := by
    rw [List.nodup_iff_count_le_one]
    intro t
    have hLe := length_ofThread_le hGone h t
    rwa [ofThread, List.length_map, ← List.countP_eq_length_filter, ← Function.comp_def (· == t),
      ← List.countP_map] at hLe
  have hAll : (p.begun later).map Prod.fst ⊆ List.range p.threads.length := by
    intro t ht
    obtain ⟨x, hx, rfl⟩ := List.mem_map.mp ht
    rw [List.mem_range, ← (gone_after? hGone h).2.1]
    exact (lt_length_of_records h).1 x hx
  simpa using (hNodup.subperm hAll).length_le

/-- **What an abandoned pool still does.** -/
theorem windsDown (hGone : p.caller = .gone) (h : p.after? later = some q) :
    WindsDown p later q := by
  obtain ⟨hStill, hLength, hDelivered⟩ := gone_after? hGone h
  refine ⟨hStill, hLength, hDelivered, ?_, fun t th => exists_lastSteps hGone h,
    length_ofThread_le hGone h, length_begun_le hGone h⟩
  refine history_induction (P := fun past _ => p.sent past = []) h rfl ?_
  intro past s q r hPast hNone _
  rw [sent_append hPast, hNone, sent_singleton, handsIn_of_gone (gone_after? hGone hPast).1]
  rfl

-- ---------------------------------------------------------------------------
-- A thread that cannot be started
-- ---------------------------------------------------------------------------

/-- A pool of which only so many threads can be started: its caller is still at that, or has given
up. -/
structure StopsAt (t : Nat) (p : Pool) : Prop where
  length_le : p.threads.length ≤ t
  caller : p.caller = .starting ∨ (p.caller = .gone ∧ p.threads.length = t)

theorem StopsAt.move (hStops : StopsAt t p) (hLimit : t < p.threadLimit) (h : Move p s q)
    (hStart : s = .start → p.threads.length ≠ t) (hRefuse : s = .refuse → p.threads.length = t) :
    StopsAt t q := by
  obtain ⟨hLength, hCaller⟩ := hStops
  cases h with
  | start hStarting =>
    refine ⟨?_, .inl hStarting⟩
    -- the thread that fails is never started, so there are still too few of them
    have := hStart rfl
    simp only [List.length_append, List.length_singleton]
    omega
  | refuse => exact ⟨hLength, .inr ⟨rfl, hRefuse rfl⟩⟩
  | ready _ hFull => omega
  | claim | leave | finish | crash | send | discard =>
    exact ⟨by simpa [setThread] using hLength, by simpa [setThread] using hCaller⟩
  | take hOther | takeNone hOther | takeLast hOther | collect hOther | collectNone hOther
  | join hOther | close hOther | drop hOther => simp [hOther] at hCaller

variable {σ : Type} {work : UInt64 → StateM σ (Option WorkerResult)}
variable {onTake : WorkerResult → StateM σ Unit} {schedule : Schedule} {w w' : σ} {c : Choice}

theorem StopsAt.act (hStops : StopsAt t p) (hSchedule : schedule.FailsAt t)
    (hLimit : t < p.threadLimit) {n : Nat} (hNext : schedule n p = some c)
    (h : Act work onTake p w c q w') : StopsAt t q := by
  obtain ⟨s, hMove, hChoice⟩ := h.exists_move_of_choice
  refine hStops.move hLimit hMove (fun hStart => ?_) (fun hRefuse => ?_)
  · refine hSchedule.start_ne n p ?_
    rw [hNext, hChoice (.inl hStart), hStart]
  · refine hSchedule.refuse_eq n p ?_
    rw [hNext, hChoice (.inr hRefuse), hRefuse]

/-- **The run of a pool that fails to start a thread** ends with its caller gone, and the threads
before that one started. -/
theorem runIn_stopsAt {count : UInt64} {maxConcurrent : Option UInt64} {demand : Demand}
    (hFit : count.toNat + (threadCount count maxConcurrent).toNat ≤ 2 ^ 64)
    (hSchedule : schedule.FailsAt t) (hLimit : t < (threadCount count maxConcurrent).toNat)
    (hWork : ∀ i w r w', (work i).run w = (some r, w') → r.index = i) (w : σ) :
    let q := (((fresh count maxConcurrent demand).runIn schedule work onTake).run w).1
    Reachable (fresh count maxConcurrent demand) q ∧ q.caller = .gone ∧ q.threads.length = t := by
  set start := fresh count maxConcurrent demand
  have hOrder {p : Pool} (hReach : Reachable start p) : SameOrder start p := by
    obtain ⟨history, hHistory⟩ := hReach
    exact sameOrder_of_after? hHistory
  have hKept : ∀ n p w c q w', schedule n p = some c → Act work onTake p w c q w' →
      Reachable start p ∧ StopsAt t p → Reachable start q ∧ StopsAt t q := by
    rintro n p w c q w' hNext hAct ⟨hReach, hStops⟩
    obtain ⟨s, hMove⟩ := hAct.exists_move
    have hLess : t < p.threadLimit := by rw [(hOrder hReach).limit_eq]; exact hLimit
    exact ⟨hReach.move hMove, hStops.act hSchedule hLess hNext hAct⟩
  have hStart : Reachable start start ∧ StopsAt t start := ⟨⟨[], rfl⟩, Nat.zero_le _, .inl rfl⟩
  intro q
  obtain ⟨hReach, hStops⟩ : Reachable start q ∧ StopsAt t q :=
    runFor_act_induction (I := fun p _ => Reachable start p ∧ StopsAt t p)
      hSchedule.toProceeds hWork hKept hStart
  have hNone : q.choices = [] := by
    refine runFor_ends (I := fun p _ => Reachable start p ∧ StopsAt t p) hSchedule.toProceeds hWork
      hKept ?_ hStart (Nat.le_refl _)
    rintro p _ s q ⟨hReach, hStops⟩ hMove
    have := hStops.length_le
    exact measure_move_of_room hFit hReach (by omega) hMove
  refine ⟨hReach, ?_⟩
  -- a caller that is still starting threads has one to start
  refine hStops.caller.resolve_left fun hStarting => ?_
  refine choices_ne_nil ?_ (by simp [hStarting]) (by simp [hStarting]) hNone
  obtain ⟨history, hHistory⟩ := hReach
  exact staffed_of_after? hHistory

end ProxyAudit.Pool
