import Mathlib
import ProxyAudit.Verify.Pool

/-!
# What a pool can do

The steps of a pool as rules, one for each thing that can happen. A rule says all that it needs of
the pool and all that it changes, so what holds of every step is shown rule by rule and the steps
need not be computed again.

Main results:

* `step?_eq_some_iff`  — a step is possible exactly if one of the rules allows it, and it leads
  where that rule leads.
* `after?_induction`   — what every rule keeps is kept along a history.
-/

namespace ProxyAudit.Pool

-- ---------------------------------------------------------------------------
-- Rules
-- ---------------------------------------------------------------------------

/-- No result will come any more: all that were expected have come, or the last sender is gone and
has left nothing in the queue. -/
def IsDry (p : Pool) : Prop :=
  p.remaining = 0 ∨ (p.queue = [] ∧ p.threads.all Thread.isOver = true)

/-- What a step needs of a pool, and what it makes of it. -/
inductive Move (p : Pool) : Step → Pool → Prop where
  | start (hCaller : p.caller = .starting) (hLength : p.threads.length < p.threadLimit) :
      Move p .start { p with threads := p.threads ++ [.idle] }
  | refuse (hCaller : p.caller = .starting) (hLength : p.threads.length < p.threadLimit) :
      Move p .refuse { p with caller := .gone }
  | ready (hCaller : p.caller = .starting) (hLength : p.threads.length = p.threadLimit) :
      Move p .ready { p with caller := .ofDemand p.demand }
  | claim {t : Nat} (hThread : p.threads[t]? = some .idle) (hIndex : p.counter < p.count) :
      Move p (.claim t) { p.setThread t (.working p.counter) with counter := p.counter + 1 }
  | leave {t : Nat} (hThread : p.threads[t]? = some .idle) (hIndex : ¬ p.counter < p.count) :
      Move p (.claim t) { p.setThread t .left with counter := p.counter + 1 }
  | finish {t : Nat} {r : WorkerResult} (hThread : p.threads[t]? = some (.working r.index)) :
      Move p (.finish t r) (p.setThread t (.sending r))
  | crash {t : Nat} {i : UInt64} (hThread : p.threads[t]? = some (.working i)) :
      Move p (.crash t) (p.setThread t (.dead i))
  | send {t : Nat} {r : WorkerResult} (hThread : p.threads[t]? = some (.sending r))
      (hCaller : p.caller ≠ .gone) :
      Move p (.send t) { p.setThread t .idle with queue := p.queue ++ [r] }
  | discard {t : Nat} {r : WorkerResult} (hThread : p.threads[t]? = some (.sending r))
      (hCaller : p.caller = .gone) :
      Move p (.send t) (p.setThread t .left)
  | take {more : Option Nat} {r : WorkerResult} {rest : List WorkerResult}
      (hCaller : p.caller = .taking more) (hMore : more ≠ some 0) (hLeft : p.remaining ≠ 0)
      (hQueue : p.queue = r :: rest) :
      Move p .take { p with
        queue := rest
        remaining := p.remaining - 1
        taken := p.taken ++ [r]
        caller := .taking (more.map (· - 1)) }
  | takeNone {k : Nat} (hCaller : p.caller = .taking (some (k + 1))) (hDry : p.IsDry) :
      Move p .take { p with ended := true, caller := .taking (some k) }
  | takeLast (hCaller : p.caller = .taking none) (hDry : p.IsDry) :
      Move p .take { p with ended := true, caller := .joining }
  | collect {r : WorkerResult} {rest : List WorkerResult} (hCaller : p.caller = .joining)
      (hLeft : p.remaining ≠ 0) (hQueue : p.queue = r :: rest) :
      Move p .take { p with
        queue := rest
        remaining := p.remaining - 1
        joined := p.joined ++ [r] }
  | collectNone (hCaller : p.caller = .joining) (hDry : p.IsDry) :
      Move p .take { p with caller := .closing }
  | join (hCaller : p.caller = .taking (some 0)) : Move p .join { p with caller := .joining }
  | close (hCaller : p.caller = .closing) (hOver : p.threads.all Thread.isOver = true) :
      Move p .close { p with caller := .finished }
  | drop {more : Option Nat} (hCaller : p.caller = .taking more) :
      Move p .drop { p with caller := .gone }

-- ---------------------------------------------------------------------------
-- What is offered
-- ---------------------------------------------------------------------------

theorem isListening_eq_true_iff (c : Caller) : c.isListening = true ↔ c ≠ .gone := by
  cases c <;> simp [Caller.isListening]

theorem offer_eq_none_iff {p : Pool} : p.offer = some none ↔ p.IsDry := by
  unfold offer IsDry
  by_cases hLeft : p.remaining = 0
  · simp [hLeft]
  · cases hQueue : p.queue <;> simp [hLeft]

theorem offer_eq_some_iff {p : Pool} {r : WorkerResult} :
    p.offer = some (some r) ↔ p.remaining ≠ 0 ∧ ∃ rest, p.queue = r :: rest := by
  unfold offer
  by_cases hLeft : p.remaining = 0
  · simp [hLeft]
  · cases hQueue : p.queue with
    | nil => simp [hLeft]
    | cons x xs => simp [hLeft]

/-- A pool that offers nothing yet is waiting for a thread that is not over. -/
theorem offer_isNone_iff {p : Pool} : p.offer = none ↔
    p.remaining ≠ 0 ∧ p.queue = [] ∧ p.threads.all Thread.isOver = false := by
  unfold offer
  by_cases hLeft : p.remaining = 0
  · simp [hLeft]
  · cases hQueue : p.queue <;> simp [hLeft]

-- ---------------------------------------------------------------------------
-- Steps are moves
-- ---------------------------------------------------------------------------

theorem Move.step?_eq {p q : Pool} {s : Step} (h : Move p s q) : p.step? s = some q := by
  cases h with
  | start hCaller hLength => simp [step?, hCaller, hLength]
  | refuse hCaller hLength => simp [step?, hCaller, hLength]
  | ready hCaller hLength => simp [step?, hCaller, hLength]
  | claim hThread hIndex => simp [step?, hThread, hIndex]
  | leave hThread hIndex => simp [step?, hThread, hIndex]
  | finish hThread => simp [step?, hThread]
  | crash hThread => simp [step?, hThread]
  | send hThread hCaller =>
    simp [step?, hThread, (isListening_eq_true_iff p.caller).mpr hCaller]
  | discard hThread hCaller => simp [step?, hThread, hCaller, Caller.isListening]
  | @take more r rest hCaller hMore hLeft hQueue =>
    have hOffer := offer_eq_some_iff.mpr ⟨hLeft, rest, hQueue⟩
    -- a demand that is used up asks for nothing, so one of the two other shapes is there
    cases more with
    | none => simp [step?, hCaller, takeOne, hOffer, dequeue, hQueue]
    | some k =>
      cases k with
      | zero => exact absurd rfl hMore
      | succ k => simp [step?, hCaller, takeOne, hOffer, dequeue, hQueue]
  | takeNone hCaller hDry => simp [step?, hCaller, takeOne, offer_eq_none_iff.mpr hDry]
  | takeLast hCaller hDry => simp [step?, hCaller, takeOne, offer_eq_none_iff.mpr hDry]
  | collect hCaller hLeft hQueue =>
    have hOffer := offer_eq_some_iff.mpr ⟨hLeft, _, hQueue⟩
    simp [step?, hCaller, joinOne, hOffer, dequeue, hQueue]
  | collectNone hCaller hDry => simp [step?, hCaller, joinOne, offer_eq_none_iff.mpr hDry]
  | join hCaller => simp [step?, hCaller]
  | close hCaller hOver => simp [step?, hCaller, hOver]
  | drop hCaller => simp [step?, hCaller]

private theorem move_of_takeOne {p q : Pool} {more : Option Nat} (hCaller : p.caller = .taking more)
    (hMore : more ≠ some 0) (h : p.takeOne more = some q) : Move p .take q := by
  unfold takeOne at h
  split at h
  · contradiction
  · next hOffer =>
    cases h
    have hDry := offer_eq_none_iff.mp hOffer
    cases more with
    | none => exact .takeLast hCaller hDry
    | some k =>
      cases k with
      | zero => exact absurd rfl hMore
      | succ k => exact .takeNone hCaller hDry
  · next r hOffer =>
    cases h
    obtain ⟨hLeft, rest, hQueue⟩ := offer_eq_some_iff.mp hOffer
    have hMove := Move.take hCaller hMore hLeft hQueue
    simpa [dequeue, hQueue] using hMove

private theorem move_of_joinOne {p q : Pool} (hCaller : p.caller = .joining)
    (h : p.joinOne = some q) : Move p .take q := by
  unfold joinOne at h
  split at h
  · contradiction
  · next hOffer =>
    cases h
    exact .collectNone hCaller (offer_eq_none_iff.mp hOffer)
  · next r hOffer =>
    cases h
    obtain ⟨hLeft, rest, hQueue⟩ := offer_eq_some_iff.mp hOffer
    have hMove := Move.collect hCaller hLeft hQueue
    simpa [dequeue, hQueue] using hMove

theorem move_of_step? {p q : Pool} {s : Step} (h : p.step? s = some q) : Move p s q := by
  cases s with
  | start =>
    simp only [step?] at h
    split at h
    · next hs => cases h; exact .start hs.1 hs.2
    · contradiction
  | refuse =>
    simp only [step?] at h
    split at h
    · next hs => cases h; exact .refuse hs.1 hs.2
    · contradiction
  | ready =>
    simp only [step?] at h
    split at h
    · next hs => cases h; exact .ready hs.1 hs.2
    · contradiction
  | claim t =>
    simp only [step?] at h
    split at h
    · next hThread =>
      cases h
      -- whether the index is still within the count tells working from leaving
      by_cases hIndex : p.counter < p.count
      · rw [if_pos hIndex]; exact .claim hThread hIndex
      · rw [if_neg hIndex]; exact .leave hThread hIndex
    · contradiction
  | finish t r =>
    simp only [step?] at h
    split at h
    · next i hThread =>
      split at h
      · next hr => cases h; subst hr; exact .finish hThread
      · contradiction
    · contradiction
  | crash t =>
    simp only [step?] at h
    split at h
    · next i hThread => cases h; exact .crash hThread
    · contradiction
  | send t =>
    simp only [step?] at h
    split at h
    · next r hThread =>
      -- whether the caller still listens tells sending from discarding
      split at h
      · next hl => cases h; exact .send hThread ((isListening_eq_true_iff p.caller).mp hl)
      · next hl =>
        cases h
        refine .discard hThread ?_
        by_contra hGone
        exact hl ((isListening_eq_true_iff p.caller).mpr hGone)
    · contradiction
  | take =>
    simp only [step?] at h
    -- one call takes a result for the caller, in the middle of a walk or when it joins
    split at h
    · contradiction
    · next more hMore hCaller => exact move_of_takeOne hCaller (fun hZero => hMore hZero) h
    · next hCaller => exact move_of_joinOne hCaller h
    · contradiction
  | join =>
    simp only [step?] at h
    split at h
    · next hCaller => cases h; exact .join hCaller
    · contradiction
  | close =>
    simp only [step?] at h
    split at h
    · next hs => cases h; exact .close hs.1 hs.2
    · contradiction
  | drop =>
    simp only [step?] at h
    split at h
    · next more hCaller => cases h; exact .drop hCaller
    · contradiction

/-- **The rules are the steps.** A step is possible exactly if a rule allows it, and then it leads
where the rule leads. -/
theorem step?_eq_some_iff {p q : Pool} {s : Step} : p.step? s = some q ↔ Move p s q :=
  ⟨move_of_step?, Move.step?_eq⟩

-- ---------------------------------------------------------------------------
-- What every step keeps
-- ---------------------------------------------------------------------------

/-- The size of a pool and what is wanted of it do not change. -/
structure SameOrder (p q : Pool) : Prop where
  count_eq : q.count = p.count
  limit_eq : q.threadLimit = p.threadLimit
  demand_eq : q.demand = p.demand

theorem SameOrder.refl (p : Pool) : SameOrder p p :=
  ⟨rfl, rfl, rfl⟩

theorem SameOrder.trans {p q r : Pool} (hpq : SameOrder p q) (hqr : SameOrder q r) :
    SameOrder p r :=
  ⟨hqr.count_eq.trans hpq.count_eq, hqr.limit_eq.trans hpq.limit_eq,
    hqr.demand_eq.trans hpq.demand_eq⟩

theorem Move.sameOrder {p q : Pool} {s : Step} (h : Move p s q) : SameOrder p q := by
  cases h <;> exact ⟨rfl, rfl, rfl⟩

theorem Move.listened {p q : Pool} {s : Step} (h : Move p s q) (hCaller : q.caller ≠ .gone) :
    p.caller ≠ .gone := by
  cases h <;> simp_all [setThread]

/-- There are never more threads than there should be, and as many once all are started. -/
structure Staffed (p : Pool) : Prop where
  length_le : p.threads.length ≤ p.threadLimit
  length_eq : p.caller ≠ .starting → p.caller ≠ .gone → p.threads.length = p.threadLimit

theorem Staffed.move {p q : Pool} {s : Step} (hStaffed : Staffed p) (h : Move p s q) :
    Staffed q := by
  obtain ⟨hLe, hEq⟩ := hStaffed
  cases h with
  | start hCaller hLength =>
    refine ⟨?_, fun hStarted => absurd hCaller hStarted⟩
    simp only [List.length_append, List.length_singleton]
    omega
  | refuse => exact ⟨hLe, fun _ hGone => absurd rfl hGone⟩
  | ready _ hLength => exact ⟨hLe, fun _ _ => hLength⟩
  | claim | leave | finish | crash | send | discard =>
    refine ⟨?_, fun hStarted hGone => ?_⟩
    · -- a thread changes, but none comes or goes
      simpa [setThread] using hLe
    · simpa [setThread] using hEq hStarted hGone
  | take hCaller | takeNone hCaller | takeLast hCaller | collect hCaller | collectNone hCaller
  | join hCaller | close hCaller | drop hCaller =>
    refine ⟨hLe, fun _ _ => hEq ?_ ?_⟩ <;> simp [hCaller]

/-- A thread that is over does nothing more. -/
theorem not_isOver_of_getElem? {p : Pool} {t : Nat} {th : Thread} (h : p.threads[t]? = some th)
    (hLive : th.isOver = false) : p.threads.all Thread.isOver = false := by
  rw [List.all_eq_false]
  exact ⟨th, List.mem_of_getElem? h, by simp [hLive]⟩

/-- Once the threads are started, a pool that is dry stays dry. -/
theorem IsDry.move {p q : Pool} {s : Step} (hDry : p.IsDry) (hStarted : p.caller ≠ .starting)
    (h : Move p s q) : q.IsDry := by
  -- a thread that acts is not over, so only the first reason for being dry is left
  have hActs {t : Nat} {th : Thread} (ht : p.threads[t]? = some th) (hLive : th.isOver = false) :
      p.remaining = 0 := by
    rcases hDry with hLeft | ⟨-, hOver⟩
    · exact hLeft
    · rw [not_isOver_of_getElem? ht hLive] at hOver
      contradiction
  cases h with
  | start hCaller | refuse hCaller | ready hCaller => exact absurd hCaller hStarted
  | claim ht | leave ht | finish ht | crash ht | send ht | discard ht => exact .inl (hActs ht rfl)
  | take _ _ hLeft hQueue | collect _ hLeft hQueue =>
    rcases hDry with hNone | ⟨hEmpty, -⟩
    · exact absurd hNone hLeft
    · rw [hQueue] at hEmpty
      contradiction
  | takeNone | takeLast | collectNone | join | close | drop => exact hDry

/-- A caller that has stopped collecting has left nothing behind, and one that has finished has
seen every thread end. -/
structure Spent (p : Pool) : Prop where
  isDry : p.caller = .closing ∨ p.caller = .finished → p.IsDry
  allOver : p.caller = .finished → p.threads.all Thread.isOver = true

theorem Spent.move {p q : Pool} {s : Step} (hSpent : Spent p) (h : Move p s q) : Spent q := by
  -- a thread that acts is not over, so a caller that saw all threads end has no such step
  have hKeeps (hCaller : q.caller = p.caller) (hThreads : q.threads = p.threads ∨
      ∃ (t : Nat) (th : Thread), p.threads[t]? = some th ∧ th.isOver = false) : Spent q := by
    refine ⟨fun hEnd => ?_, fun hEnd => ?_⟩
    · rw [hCaller] at hEnd
      refine (hSpent.isDry hEnd).move ?_ h
      rcases hEnd with hEnd | hEnd <;> simp [hEnd]
    · rw [hCaller] at hEnd
      have hOver := hSpent.allOver hEnd
      rcases hThreads with hSame | ⟨t, th, ht, hLive⟩
      · rw [hSame]
        exact hOver
      · rw [not_isOver_of_getElem? ht hLive] at hOver
        contradiction
  cases h with
  | start hCaller => exact ⟨by simp [hCaller], by simp [hCaller]⟩
  | refuse | drop => exact ⟨by simp, by simp⟩
  | ready =>
    -- a caller with all its threads turns to what is wanted of it, which is never an end
    have hOfDemand : Caller.ofDemand p.demand ≠ .closing ∧ Caller.ofDemand p.demand ≠ .finished := by
      cases p.demand <;> simp [Caller.ofDemand]
    exact ⟨by simp [hOfDemand], by simp [hOfDemand]⟩
  | claim ht | leave ht | finish ht | crash ht | send ht | discard ht =>
    exact hKeeps rfl (.inr ⟨_, _, ht, rfl⟩)
  | take | takeNone | takeLast | join => exact ⟨by simp, by simp⟩
  | collect hCaller => exact ⟨by simp [hCaller], by simp [hCaller]⟩
  | collectNone _ hDry => exact ⟨fun _ => hDry, by simp⟩
  | close hCaller hOver => exact ⟨fun _ => hSpent.isDry (.inl hCaller), fun _ => hOver⟩

-- ---------------------------------------------------------------------------
-- Histories
-- ---------------------------------------------------------------------------

theorem after?_concat {start p q : Pool} {past : List Step} {s : Step}
    (hPast : start.after? past = some p) (h : Move p s q) :
    start.after? (past ++ [s]) = some q := by
  rw [after?_append, hPast]
  simp [after?, h.step?_eq]

/-- **Histories, one step at a time.** What holds of a pool before anything happened, and is kept
by every step, holds after every history; it may speak of the history that led there. -/
theorem after?_induction {start p : Pool} {history : List Step} {P : List Step → Pool → Prop}
    (h : start.after? history = some p) (hStart : P [] start)
    (hStep : ∀ past s q r, P past q → Move q s r → P (past ++ [s]) r) : P history p := by
  induction history using List.reverseRecOn generalizing p with
  | nil =>
    cases h
    exact hStart
  | append_singleton past s ih =>
    rw [after?_append] at h
    obtain ⟨q, hPast, hLast⟩ := Option.bind_eq_some_iff.mp h
    simp only [after?] at hLast
    obtain ⟨r, hs, hr⟩ := Option.bind_eq_some_iff.mp hLast
    cases hr
    exact hStep past s q _ (ih hPast) (move_of_step? hs)

/-- **Histories, one step of the past at a time.** The steps before one may be used for what it
keeps. -/
theorem history_induction {start p : Pool} {history : List Step} {P : List Step → Pool → Prop}
    (h : start.after? history = some p) (hStart : P [] start)
    (hStep : ∀ past s q r, start.after? past = some q → P past q → Move q s r →
      P (past ++ [s]) r) : P history p := by
  suffices hBoth : start.after? history = some p ∧ P history p from hBoth.2
  refine after?_induction (P := fun past q => start.after? past = some q ∧ P past q) h
    ⟨rfl, hStart⟩ ?_
  rintro past s q r ⟨hPast, hKept⟩ hMove
  exact ⟨after?_concat hPast hMove, hStep past s q r hPast hKept hMove⟩

theorem sameOrder_of_after? {start p : Pool} {history : List Step}
    (h : start.after? history = some p) : SameOrder start p :=
  after?_induction (P := fun _ q => SameOrder start q) h (.refl _) fun _ _ _ _ hPast hMove =>
    hPast.trans hMove.sameOrder

section Fresh

variable {count : UInt64} {maxConcurrent : Option UInt64} {demand : Demand}
variable {history : List Step} {p : Pool}
variable (h : (fresh count maxConcurrent demand).after? history = some p)
include h

theorem staffed_of_after? : Staffed p :=
  after?_induction (P := fun _ q => Staffed q) h
    ⟨Nat.zero_le _, fun hStarted => absurd rfl hStarted⟩ fun _ _ _ _ hPast hMove => hPast.move hMove

theorem threadLimit_of_after? : p.threadLimit = (threadCount count maxConcurrent).toNat :=
  (sameOrder_of_after? h).limit_eq

theorem length_threads_le : p.threads.length ≤ (threadCount count maxConcurrent).toNat :=
  threadLimit_of_after? h ▸ (staffed_of_after? h).length_le

end Fresh

end ProxyAudit.Pool
