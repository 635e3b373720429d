import Mathlib
import ProxyAudit.Proofs.Pool.Progress

/-!
# Collecting never deadlocks

A caller that takes results and then collects the rest waits for threads, and threads may die at any
worker. It never waits in vain. A thread that is not over holds a sender, and while there is a sender
some thread can go on; when the last sender is gone, a caller that waits is told so.

`Pool.measure` bounds the steps of a pool whose counter does not wrap. A counter that wraps hands
out indices again, but to wrap it a thread has to claim in vain, and that thread leaves. So every
thread that can still act is good for one more round of the indices at most, and with that added the
measure falls at every step, for any number of workers.

That a pool comes to a goal (`Comes`) is said of every way in which it can go on: on each there is
something that can happen until the goal is reached, and none goes on for ever.

Main results:

* `stamina_move`             — every step of any pool lowers its stamina.
* `comes_of_kept`            — a pool that can go on until a goal is reached comes to it.
* `after?_of_ended`          — nothing comes after the news that nothing will.
* `collecting_ends`          — a caller that stays gets all that will come, and finishes.
-/

namespace ProxyAudit.Pool

variable {p q : Pool} {s : Step}

-- ---------------------------------------------------------------------------
-- Going on
-- ---------------------------------------------------------------------------

/-- A step by which the caller gives a pool up. -/
def Step.givesUp : Step → Bool
  | refuse | drop => true
  | _ => false

/-- A step that is what a worker comes to, which is not for the pool to choose. -/
def Step.endsWorker : Step → Bool
  | finish _ _ | crash _ => true
  | _ => false

/-- Something can happen next: a step of the caller, which does not give the pool up, or of a
thread, or else the end of a worker, whatever it comes to. -/
def CanGoOn (p : Pool) : Prop :=
  (∃ s, s.givesUp = false ∧ s.endsWorker = false ∧ (p.step? s).isSome = true) ∨
  ∃ (t : Nat) (i : UInt64), p.threads[t]? = some (.working i) ∧
    (p.step? (.crash t)).isSome = true ∧
    ∀ r : WorkerResult, r.index = i → (p.step? (.finish t r)).isSome = true

/-- However a pool goes on, it reaches a goal, unless its caller gives it up; and until then
something can happen. -/
inductive Comes (goal : Pool → Prop) : Pool → Prop where
  | now {p : Pool} (h : goal p) : Comes goal p
  | later {p : Pool} (hNext : p.CanGoOn)
      (hAll : ∀ s q, s.givesUp = false → p.step? s = some q → Comes goal q) : Comes goal p

theorem isSome_step?_of_move (h : Move p s q) : (p.step? s).isSome = true := by
  simp [h.step?_eq]

/-- A pool in which there is something to choose can go on. -/
theorem canGoOn_of_choices (h : p.choices ≠ []) : p.CanGoOn := by
  obtain ⟨c, hc⟩ := List.exists_mem_of_ne_nil _ h
  obtain ⟨hOpen, hKind⟩ := mem_choices_iff.mp hc
  cases c with
  | step s =>
    refine .inl ⟨s, ?_, ?_, hOpen⟩ <;> cases s <;> simp [Step.givesUp, Step.endsWorker] at hKind ⊢
  | work t =>
    obtain ⟨q, hq⟩ := Option.isSome_iff_exists.mp hOpen
    cases step?_eq_some_iff.mp hq with
    | @crash _ i hThread =>
      refine .inr ⟨t, i, hThread, hOpen, fun r hr => ?_⟩
      exact isSome_step?_of_move (.finish (by rw [hr]; exact hThread))
  | ruin t => simp at hKind

-- ---------------------------------------------------------------------------
-- Senders
-- ---------------------------------------------------------------------------

/-- The threads that are not over. -/
def liveThreads (p : Pool) : Nat :=
  p.threads.countP fun th => !th.isOver

/-- The senders of results: one for each thread that is not over, and the one that theirs are made
from, which the caller holds until all threads are started. -/
def senders (p : Pool) : Nat :=
  p.liveThreads + if p.caller = .starting then 1 else 0

theorem liveThreads_eq_zero_iff : p.liveThreads = 0 ↔ ∀ th ∈ p.threads, th.isOver = true := by
  simp [liveThreads, List.countP_eq_zero]

theorem senders_eq_zero_iff (hStarted : p.caller ≠ .starting) :
    p.senders = 0 ↔ ∀ th ∈ p.threads, th.isOver = true := by
  rw [senders, if_neg hStarted, Nat.add_zero, liveThreads_eq_zero_iff]

theorem isDry_iff_senders (hStarted : p.caller ≠ .starting) :
    p.IsDry ↔ p.remaining = 0 ∨ (p.queue = [] ∧ p.senders = 0) := by
  rw [IsDry, senders_eq_zero_iff hStarted, List.all_eq_true]

/-- A caller that asks for a result waits as long as there may be one and there is none. -/
theorem offer_eq_none_iff_senders (hStarted : p.caller ≠ .starting) :
    p.offer = none ↔ p.remaining ≠ 0 ∧ p.queue = [] ∧ p.senders ≠ 0 := by
  have hOver : p.threads.all Thread.isOver = false ↔ p.senders ≠ 0 := by
    rw [Ne, senders_eq_zero_iff hStarted, ← List.all_eq_true, Bool.not_eq_true]
  rw [offer_isNone_iff, hOver]

-- ---------------------------------------------------------------------------
-- Stamina
-- ---------------------------------------------------------------------------

/-- The threads that can still act, those among them that are yet to be started. -/
def actors (p : Pool) : Nat :=
  p.liveThreads + (p.threadLimit - p.threads.length)

/-- A bound on the steps that are still to come, also if the counter wraps: each actor may send the
threads round the indices once more. -/
def stamina (p : Pool) : Nat :=
  p.measure + 4 * p.count.toNat * p.actors

private theorem actors_setThread {t : Nat} {old : Thread} (h : p.threads[t]? = some old)
    (hLive : old.isOver = false) (new : Thread) (counter : UInt64) (queue : List WorkerResult) :
    actors { p with
        threads := p.threads.set t new
        counter := counter
        queue := queue } + (if new.isOver = true then 1 else 0) = p.actors := by
  have hCount := countP_setThread h new fun th => !th.isOver
  simp only [hLive, Bool.not_false, if_true, Bool.not_eq_true'] at hCount
  simp only [actors, liveThreads, List.length_set]
  cases hNew : new.isOver <;> simp [hNew] at hCount ⊢ <;> omega

/-- No step brings a new actor in. -/
theorem actors_move (h : Move p s q) : q.actors ≤ p.actors := by
  cases h with
  | start _ hLength =>
    simp only [actors, liveThreads, List.countP_append, List.countP_singleton, Thread.isOver,
      List.length_append, List.length_singleton, Bool.not_false, if_true]
    omega
  | refuse | ready | take | takeNone | takeLast | collect | collectNone | join | close | drop =>
    exact Nat.le_refl _
  | claim ht | leave ht =>
    exact Nat.le.intro (actors_setThread ht rfl _ _ _)
  | finish ht | crash ht | send ht | discard ht =>
    exact Nat.le.intro (actors_setThread ht rfl _ p.counter _)

/-- A thread that claims in vain may wrap the counter, so that the indices are there once more. -/
private theorem measure_leave {t : Nat} (h : p.threads[t]? = some .idle) :
    measure { p.setThread t .left with counter := p.counter + 1 }
      < p.measure + 4 * p.count.toNat := by
  have hThreads := threadsMeasure_set h .left
  have hCaller : measure.callerMeasure { p.setThread t .left with counter := p.counter + 1 }
      p.caller = measure.callerMeasure p p.caller := callerMeasure_congr rfl _
  simp only [setThread, measure.threadMeasure] at hThreads hCaller
  simp only [measure_eq, setThread, hCaller, List.length_set]
  omega

/-- **Every step counts,** for any number of workers and threads. -/
theorem stamina_move (h : Move p s q) : q.stamina < p.stamina := by
  have hCount : q.count = p.count := h.sameOrder.count_eq
  rw [stamina, stamina, hCount]
  by_cases hWord : s.isClaim = true → p.counter.toNat + 1 < 2 ^ 64
  · have hMeasure := measure_move h hWord
    have hActors := Nat.mul_le_mul_left (4 * p.count.toNat) (actors_move h)
    omega
  · -- a claim with the last word of all is in vain, and an actor goes
    have hLast : p.count.toNat ≤ p.counter.toNat := by
      have := p.count.toNat_lt
      have := fun hNext => hWord fun _ => hNext
      omega
    have hClaim : s.isClaim = true := by
      by_contra hNone
      exact hWord fun hClaim => absurd hClaim hNone
    cases h with
    | claim _ hIndex =>
      rw [UInt64.lt_iff_toNat_lt] at hIndex
      omega
    | @leave t hThread _ =>
      have hMeasure := measure_leave hThread
      have hActors : actors { p.setThread t .left with counter := p.counter + 1 } + 1 = p.actors :=
        actors_setThread hThread rfl .left (p.counter + 1) p.queue
      rw [← hActors, Nat.mul_succ]
      omega
    | start | refuse | ready | finish | crash | send | discard | take | takeNone | takeLast
    | collect | collectNone | join | close | drop => simp [Step.isClaim] at hClaim

-- ---------------------------------------------------------------------------
-- Goals
-- ---------------------------------------------------------------------------

/-- **Pools come to their goals.** If a pool can go on wherever the goal has not been reached, and
what lets it go on is kept by its steps, it comes to the goal. -/
theorem comes_of_kept {goal I : Pool → Prop}
    (hNext : ∀ p, I p → ¬ goal p → p.CanGoOn)
    (hKept : ∀ p s q, I p → ¬ goal p → s.givesUp = false → Move p s q → I q) (hStart : I p) :
    p.Comes goal := by
  induction hStamina : p.stamina using Nat.strongRecOn generalizing p with
  | ind n ih =>
    by_cases hGoal : goal p
    · exact .now hGoal
    · refine .later (hNext p hStart hGoal) fun s q hStays hStep => ?_
      have hMove := step?_eq_some_iff.mp hStep
      have hFalls := stamina_move hMove
      exact ih q.stamina (by omega) (hKept p s q hStart hGoal hStays hMove) rfl

/-- A caller that stays: it wants something of the pool, and has not given it up. -/
structure Attended (p : Pool) : Prop where
  staffed : Staffed p
  wanted : p.demand ≠ .nothing
  stays : p.caller ≠ .gone

theorem Attended.fresh (count : UInt64) (maxConcurrent : Option UInt64) {demand : Demand}
    (hDemand : demand ≠ .nothing) : Attended (fresh count maxConcurrent demand) where
  staffed := ⟨Nat.zero_le _, fun hStarted => absurd rfl hStarted⟩
  wanted := hDemand
  stays := by simp [Pool.fresh]

theorem Attended.move (hAttended : Attended p) (hStays : s.givesUp = false) (h : Move p s q) :
    Attended q := by
  obtain ⟨hStaffed, hWanted, hCaller⟩ := hAttended
  refine ⟨hStaffed.move h, h.sameOrder.demand_eq ▸ hWanted, ?_⟩
  cases h with
  | refuse | drop => simp [Step.givesUp] at hStays
  | ready =>
    cases hDemand : p.demand with
    | nothing => exact absurd hDemand hWanted
    | first | all => simp [Caller.ofDemand]
  | start | claim | leave | finish | crash | send | discard => exact hCaller
  | take | takeNone | takeLast | collect | collectNone | join | close => simp_all

theorem Attended.canGoOn (hAttended : Attended p) (hCaller : p.caller ≠ .finished) :
    p.CanGoOn :=
  canGoOn_of_choices (choices_ne_nil hAttended.staffed hCaller hAttended.stays)

theorem Attended.comes_finished (hAttended : Attended p) :
    p.Comes fun q => q.caller = .finished :=
  comes_of_kept (fun _ h hCaller => h.canGoOn hCaller)
    (fun _ _ _ h _ hStays hMove => h.move hStays hMove) hAttended

/-- What a caller that asks for a result waits for. -/
def Answers (p : Pool) : Prop :=
  p.remaining = 0 ∨ p.queue ≠ [] ∨ p.senders = 0

/-- While a caller waits, only threads act. -/
theorem caller_of_waiting (hStarted : p.caller ≠ .starting)
    (hAsks : p.caller ≠ .taking (some 0)) (hOpen : p.caller ≠ .closing) (hWaits : ¬ p.Answers)
    (hStays : s.givesUp = false) (h : Move p s q) : q.caller = p.caller := by
  simp only [Answers, not_or, not_not] at hWaits
  obtain ⟨hLeft, hQueue, hSenders⟩ := hWaits
  -- with nothing to answer, the caller cannot see the end of the results either
  have hDry : ¬ p.IsDry := by
    rw [isDry_iff_senders hStarted]
    tauto
  cases h with
  | start hCaller | ready hCaller => exact absurd hCaller hStarted
  | refuse | drop => simp [Step.givesUp] at hStays
  | claim | leave | finish | crash | send | discard => rfl
  | take _ _ _ hSome | collect _ _ hSome =>
    have hEmpty := hQueue.symm.trans hSome
    contradiction
  | takeNone _ hNone | takeLast _ hNone | collectNone _ hNone => exact absurd hNone hDry
  | join hCaller => exact absurd hCaller hAsks
  | close hCaller => exact absurd hCaller hOpen

/-- **No caller waits in vain.** -/
theorem Attended.comes_answers (hAttended : Attended p)
    (hAsks : (∃ more, more ≠ some 0 ∧ p.caller = .taking more) ∨ p.caller = .joining) :
    p.Comes fun q => q.caller = p.caller ∧ q.Answers := by
  -- all that the two ways of asking have in common
  have hCaller : p.caller ≠ .starting ∧ p.caller ≠ .taking (some 0) ∧ p.caller ≠ .closing ∧
      p.caller ≠ .finished := by
    rcases hAsks with ⟨more, hMore, hCaller⟩ | hCaller
    · simp [hCaller, hMore]
    · simp [hCaller]
  obtain ⟨hStarted, hAsking, hOpen, hUnfinished⟩ := hCaller
  refine comes_of_kept (I := fun q => Attended q ∧ q.caller = p.caller) ?next ?kept
    ⟨hAttended, rfl⟩
  case next =>
    rintro q ⟨hKept, hSame⟩ -
    exact hKept.canGoOn (hSame ▸ hUnfinished)
  case kept =>
    rintro q s r ⟨hKept, hSame⟩ hWaits hStays hMove
    -- an answer would have ended the wait
    have hNone : ¬ q.Answers := fun hAnswers => hWaits ⟨hSame, hAnswers⟩
    refine ⟨hKept.move hStays hMove, ?_⟩
    rw [← hSame] at hStarted hAsking hOpen ⊢
    exact caller_of_waiting hStarted hAsking hOpen hNone hStays hMove

-- ---------------------------------------------------------------------------
-- The news that nothing comes
-- ---------------------------------------------------------------------------

/-- What the caller has collected, and what it means that it was told that nothing comes. -/
structure Heeded (p : Pool) : Prop where
  joined_nil : p.caller = .starting ∨ (∃ more, p.caller = .taking more) → p.joined = []
  isDry : p.ended = true → p.caller ≠ .starting ∧ p.IsDry ∧ p.joined = []

theorem Heeded.fresh (count : UInt64) (maxConcurrent : Option UInt64) (demand : Demand) :
    Heeded (fresh count maxConcurrent demand) :=
  ⟨fun _ => rfl, by simp [Pool.fresh]⟩

/-- After the news that nothing comes, nothing is taken and nothing is collected. -/
theorem keeps_of_ended (hEnded : p.ended = true) (hStarted : p.caller ≠ .starting)
    (hDry : p.IsDry) (h : Move p s q) :
    q.ended = true ∧ q.caller ≠ .starting ∧ q.taken = p.taken ∧ q.joined = p.joined := by
  cases h with
  | start hCaller | refuse hCaller | ready hCaller => exact absurd hCaller hStarted
  | claim | leave | finish | crash | send | discard => exact ⟨hEnded, hStarted, rfl, rfl⟩
  | take _ _ hLeft hQueue | collect _ hLeft hQueue =>
    -- a dry pool has nothing to hand over
    rcases hDry with hNone | ⟨hEmpty, -⟩
    · exact absurd hNone hLeft
    · rw [hQueue] at hEmpty
      contradiction
  | takeNone | takeLast | collectNone | join | close | drop => simp [hEnded]

theorem Heeded.move (hHeeded : Heeded p) (h : Move p s q) : Heeded q := by
  obtain ⟨hJoined, hMeans⟩ := hHeeded
  refine ⟨fun hCaller => ?joined, fun hEnded => ?ended⟩
  case joined =>
    cases h with
    | refuse | takeLast | collectNone | join | close | drop => simp at hCaller
    | ready hStarting => exact hJoined (.inl hStarting)
    | start | claim | leave | finish | crash | send | discard => exact hJoined hCaller
    | take hTaking | takeNone hTaking => exact hJoined (.inr ⟨_, hTaking⟩)
    | collect hJoining => simp [hJoining] at hCaller
  case ended =>
    by_cases hBefore : p.ended = true
    · obtain ⟨hStarted, hDry, hNil⟩ := hMeans hBefore
      obtain ⟨-, hStarted', -, hSame⟩ := keeps_of_ended hBefore hStarted hDry h
      exact ⟨hStarted', hDry.move hStarted h, hSame.trans hNil⟩
    · -- only the news itself changes what the caller was told
      cases h with
      | takeNone hCaller hDry => exact ⟨by simp, hDry, hJoined (.inr ⟨_, hCaller⟩)⟩
      | takeLast hCaller hDry => exact ⟨by simp, hDry, hJoined (.inr ⟨_, hCaller⟩)⟩
      | start | refuse | ready | claim | leave | finish | crash | send | discard | take | collect
      | collectNone | join | close | drop => exact absurd hEnded hBefore

/-- **Nothing comes after the news that nothing will.** -/
theorem after?_of_ended (hEnded : p.ended = true) (hHeeded : Heeded p) {later : List Step}
    (h : p.after? later = some q) :
    q.offer = some none ∧ q.taken = p.taken ∧ q.joined = [] := by
  have hKept : Heeded q ∧ q.ended = true ∧ q.taken = p.taken := by
    refine after?_induction (P := fun _ q => Heeded q ∧ q.ended = true ∧ q.taken = p.taken) h
      ⟨hHeeded, hEnded, rfl⟩ ?_
    rintro - s q r ⟨hHeeded, hEnded, hTaken⟩ hMove
    obtain ⟨hStarted, hDry, -⟩ := hHeeded.isDry hEnded
    obtain ⟨hStill, -, hSame, -⟩ := keeps_of_ended hEnded hStarted hDry hMove
    exact ⟨hHeeded.move hMove, hStill, hSame.trans hTaken⟩
  obtain ⟨hHeeded', hEnded', hTaken⟩ := hKept
  obtain ⟨-, hDry, hNil⟩ := hHeeded'.isDry hEnded'
  exact ⟨offer_eq_none_iff.mpr hDry, hTaken, hNil⟩

-- ---------------------------------------------------------------------------
-- All histories
-- ---------------------------------------------------------------------------

variable {count : UInt64} {maxConcurrent : Option UInt64} {demand : Demand} {history : List Step}

/-- A history takes its steps from the stamina of the pool. -/
theorem length_add_stamina_le (h : p.after? history = some q) :
    history.length + q.stamina ≤ p.stamina := by
  refine after?_induction (P := fun past q => past.length + q.stamina ≤ p.stamina) h (by simp) ?_
  intro past s q r hPast hMove
  have hFalls := stamina_move hMove
  rw [List.length_append, List.length_singleton]
  omega

theorem heeded_of_after? (h : (fresh count maxConcurrent demand).after? history = some p) :
    Heeded p :=
  after?_induction (P := fun _ q => Heeded q) h (.fresh _ _ _) fun _ _ _ _ hPast hMove =>
    hPast.move hMove

theorem attended_of_after? (hDemand : demand ≠ .nothing)
    (h : (fresh count maxConcurrent demand).after? history = some p)
    (hStays : ∀ s ∈ history, s.givesUp = false) : Attended p := by
  refine after?_induction (P := fun past q => (∀ s ∈ past, s.givesUp = false) → Attended q) h
    (fun _ => .fresh _ _ hDemand) ?_ hStays
  intro past s q r hPast hMove hAll
  exact (hPast fun s hs => hAll s (List.mem_append_left _ hs)).move (hAll s (by simp)) hMove

/--
**Collecting never deadlocks.** Take a pool of any number of workers and threads, whose caller takes
some number of results, or all, and then collects the rest. Wherever a history has led the pool,
whoever had the next turn and whichever workers died, as long as its caller has not given it up:

* something can happen as long as the caller has not finished, whatever the workers come to;
* every step lowers the stamina, so that no history is longer than the stamina of the start;
* however it goes on, the caller finishes;
* a caller that asks for a result waits only while one is expected, none is in the queue and there
  is a sender, and however it goes on, this comes to an end while the caller waits;
* once all threads are started, the senders are gone when every thread has left or died;
* a caller that was told that nothing comes is told so each time, and collects nothing.
-/
theorem collecting_ends (hDemand : demand ≠ .nothing)
    (hHistory : (fresh count maxConcurrent demand).after? history = some p)
    (hStays : ∀ s ∈ history, s.givesUp = false) :
    (p.caller ≠ .finished → p.CanGoOn) ∧
    (∀ s q, p.step? s = some q → q.stamina < p.stamina) ∧
    history.length + p.stamina ≤ (fresh count maxConcurrent demand).stamina ∧
    (p.Comes fun q => q.caller = .finished) ∧
    ((∃ more, more ≠ some 0 ∧ p.caller = .taking more) ∨ p.caller = .joining →
      (p.offer = none ↔ p.remaining ≠ 0 ∧ p.queue = [] ∧ p.senders ≠ 0) ∧
      p.Comes fun q => q.caller = p.caller ∧ q.Answers) ∧
    (p.caller ≠ .starting → (p.senders = 0 ↔ ∀ th ∈ p.threads, th.isOver = true)) ∧
    (p.ended = true → ∀ later q, p.after? later = some q →
      q.offer = some none ∧ q.taken = p.taken ∧ q.joined = []) := by
  have hAttended := attended_of_after? hDemand hHistory hStays
  refine ⟨hAttended.canGoOn, fun s q hStep => stamina_move (step?_eq_some_iff.mp hStep),
    length_add_stamina_le hHistory, hAttended.comes_finished, fun hAsks => ?_,
    senders_eq_zero_iff, fun hEnded later q hLater => ?_⟩
  · refine ⟨offer_eq_none_iff_senders ?_, hAttended.comes_answers hAsks⟩
    rcases hAsks with ⟨more, -, hCaller⟩ | hCaller <;> simp [hCaller]
  · exact after?_of_ended hEnded (heeded_of_after? hHistory) hLater

/-- The only thread dies at its first of two workers, and the caller, which wants one result, learns
that none comes. It is told so ever after, and finishes. -/
theorem collecting_ends_of_crash :
    let history : List Step := [.start, .ready, .claim 0, .crash 0, .take]
    ∃ p, (fresh 2 (some 1) (.first 1)).after? history = some p ∧ p.remaining = 2 ∧
      p.senders = 0 ∧ p.ended = true ∧ p.CanGoOn ∧ (p.Comes fun q => q.caller = .finished) ∧
      ∀ later q, p.after? later = some q → q.offer = some none ∧ q.joined = [] := by
  intro history
  obtain ⟨p, hp⟩ : ∃ p, (fresh 2 (some 1) (.first 1)).after? history = some p :=
    Option.isSome_iff_exists.mp (by decide +kernel)
  have hEnd : ((fresh 2 (some 1) (.first 1)).after? history).map
      (fun p => (p.remaining, p.senders, p.ended, p.caller)) = some (2, 0, true, .taking (some 0)) := by
    decide +kernel
  rw [hp] at hEnd
  simp only [Option.map_some, Option.some.injEq, Prod.mk.injEq] at hEnd
  obtain ⟨hRemaining, hSenders, hEnded, hCaller⟩ := hEnd
  obtain ⟨hNext, -, -, hComes, -, -, hNews⟩ :=
    collecting_ends (by simp) hp (by decide : ∀ s ∈ history, s.givesUp = false)
  refine ⟨p, hp, hRemaining, hSenders, hEnded, hNext (by simp [hCaller]), hComes, ?_⟩
  intro later q hLater
  obtain ⟨hOffer, -, hJoined⟩ := hNews hEnded later q hLater
  exact ⟨hOffer, hJoined⟩

end ProxyAudit.Pool
