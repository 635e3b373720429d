import Mathlib
import ProxyAudit.Proofs.Pool.Placement

/-!
# Pools come to an end

Every step brings a pool closer to its end: `Pool.measure` falls, as long as the counter does not
wrap. And a pool whose caller still wants something always has a step to take, so a pool that is
never left alone while something can happen ends with its caller finished or gone.

Main results:

* `measure_move`        — every step lowers the measure.
* `choices_ne_nil`      — a pool whose caller waits has something that can happen.
-/

namespace ProxyAudit.Pool

variable {p q : Pool} {s : Step}

-- ---------------------------------------------------------------------------
-- The measure falls
-- ---------------------------------------------------------------------------

def threadsMeasure (threads : List Thread) : Nat :=
  threads.foldr (fun t n => measure.threadMeasure t + n) 0

theorem threadsMeasure_append (threads : List Thread) (th : Thread) :
    threadsMeasure (threads ++ [th]) = threadsMeasure threads + measure.threadMeasure th := by
  induction threads with
  | nil => simp [threadsMeasure]
  | cons x xs ih =>
    simp only [threadsMeasure, List.cons_append, List.foldr_cons] at ih ⊢
    omega

/-- When one thread changes, the measure changes by what that thread has still to do. -/
theorem threadsMeasure_set {threads : List Thread} {t : Nat} {old : Thread}
    (h : threads[t]? = some old) (new : Thread) :
    threadsMeasure (threads.set t new) + measure.threadMeasure old
      = threadsMeasure threads + measure.threadMeasure new := by
  induction threads generalizing t with
  | nil => simp at h
  | cons x xs ih =>
    cases t with
    | zero =>
      simp only [List.getElem?_cons_zero, Option.some.injEq] at h
      subst h
      simp only [threadsMeasure, List.set_cons_zero, List.foldr_cons]
      omega
    | succ t =>
      have := ih (by simpa using h)
      simp only [threadsMeasure, List.set_cons_succ, List.foldr_cons] at this ⊢
      omega

theorem measure_eq (p : Pool) :
    p.measure = 4 * (p.count.toNat - p.counter.toNat) + threadsMeasure p.threads + p.queue.length
      + 2 * (p.threadLimit - p.threads.length) + measure.callerMeasure p p.caller :=
  rfl

/-- What the caller still has to do depends on what it does and on what is wanted of the pool. -/
theorem callerMeasure_congr (h : q.demand = p.demand) (c : Caller) :
    measure.callerMeasure q c = measure.callerMeasure p c := by
  cases c <;> simp [measure.callerMeasure, h]

/-- What a thread's step does to the measure, when the caller does nothing. -/
private theorem measure_setThread {t : Nat} {old : Thread} (h : p.threads[t]? = some old)
    (new : Thread) (counter : UInt64) (more : List WorkerResult) :
    measure { p with
        threads := p.threads.set t new
        counter := counter
        queue := p.queue ++ more }
        + measure.threadMeasure old + 4 * (p.count.toNat - p.counter.toNat)
      = p.measure + measure.threadMeasure new + more.length
        + 4 * (p.count.toNat - counter.toNat) := by
  have hThreads := threadsMeasure_set h new
  have hCaller : measure.callerMeasure { p with
      threads := p.threads.set t new
      counter := counter
      queue := p.queue ++ more } p.caller = measure.callerMeasure p p.caller :=
    callerMeasure_congr rfl _
  simp only [measure_eq, hCaller, List.length_set, List.length_append]
  omega

private theorem measure_setCaller (p : Pool) (queue : List WorkerResult) (remaining : UInt64)
    (taken joined : List WorkerResult) (ended : Bool) (caller : Caller) :
    measure { p with
        queue := queue
        remaining := remaining
        taken := taken
        joined := joined
        ended := ended
        caller := caller }
        + p.queue.length + measure.callerMeasure p p.caller
      = p.measure + queue.length + measure.callerMeasure p caller := by
  have hCaller : measure.callerMeasure { p with
      queue := queue
      remaining := remaining
      taken := taken
      joined := joined
      ended := ended
      caller := caller } caller = measure.callerMeasure p caller := callerMeasure_congr rfl _
  simp only [measure_eq, hCaller]
  omega

/-- **Every step counts.** A step lowers the measure of a pool, unless the counter wraps. -/
theorem measure_move (h : Move p s q)
    (hWord : s.isClaim = true → p.counter.toNat + 1 < 2 ^ 64) : q.measure < p.measure := by
  -- as long as the word has room, each claim takes one from what is still to be counted
  have hNext : s.isClaim = true → (p.counter + 1).toNat = p.counter.toNat + 1 := fun hClaim => by
    rw [UInt64.toNat_add]
    exact Nat.mod_eq_of_lt (hWord hClaim)
  cases h with
  | start hCaller hLength =>
    -- a thread to be started weighs two, an idle one weighs one
    have hCallers : measure.callerMeasure { p with threads := p.threads ++ [.idle] } p.caller
        = measure.callerMeasure p p.caller := callerMeasure_congr rfl _
    have hThreads := threadsMeasure_append p.threads .idle
    simp only [measure_eq, hCallers, List.length_append, List.length_singleton,
      measure.threadMeasure] at hThreads ⊢
    omega
  | claim hThread hIndex =>
    -- the claimed index takes four away, the worker brings three more than the idle thread
    have hMeasure := measure_setThread hThread (.working p.counter) (p.counter + 1) []
    rw [UInt64.lt_iff_toNat_lt] at hIndex
    simp only [setThread, measure.threadMeasure, hNext rfl, List.append_nil, List.length_nil]
      at hMeasure ⊢
    omega
  | leave hThread hIndex =>
    -- nothing is left to be counted, so only the thread gets lighter
    have hMeasure := measure_setThread hThread .left (p.counter + 1) []
    rw [UInt64.lt_iff_toNat_lt] at hIndex
    simp only [setThread, measure.threadMeasure, hNext rfl, List.append_nil, List.length_nil]
      at hMeasure ⊢
    omega
  | @finish t r hThread =>
    have hMeasure := measure_setThread hThread (.sending r) p.counter []
    simp only [setThread, measure.threadMeasure, List.append_nil, List.length_nil] at hMeasure ⊢
    omega
  | @crash t i hThread =>
    have hMeasure := measure_setThread hThread (.dead i) p.counter []
    simp only [setThread, measure.threadMeasure, List.append_nil, List.length_nil] at hMeasure ⊢
    omega
  | @send t r hThread hCaller =>
    -- the result weighs one in the queue, the thread falls from three to one
    have hMeasure := measure_setThread hThread .idle p.counter [r]
    simp only [setThread, measure.threadMeasure, List.length_singleton] at hMeasure ⊢
    omega
  | discard hThread hCaller =>
    have hMeasure := measure_setThread hThread .left p.counter []
    simp only [setThread, measure.threadMeasure, List.append_nil, List.length_nil] at hMeasure ⊢
    omega
  | refuse hCaller hLength =>
    have hMeasure := measure_setCaller p p.queue p.remaining p.taken p.joined
      p.ended .gone
    simp only [hCaller, measure.callerMeasure] at hMeasure ⊢
    omega
  | ready hCaller hLength =>
    have hMeasure := measure_setCaller p p.queue p.remaining p.taken p.joined
      p.ended (.ofDemand p.demand)
    -- a caller that starts threads already carries what it will ask for
    cases hDemand : p.demand <;>
      simp only [hDemand, hCaller, Caller.ofDemand, measure.callerMeasure, Option.getD_some,
        Option.getD_none] at hMeasure ⊢ <;> omega
  | @take more r rest hCaller hMore hLeft hQueue =>
    -- the demand does not grow, and the queue gets shorter by one
    have hMeasure := measure_setCaller p rest (p.remaining - 1) (p.taken ++ [r])
      p.joined p.ended (.taking (more.map (· - 1)))
    have hFewer : (more.map (· - 1)).getD 0 ≤ more.getD 0 := by cases more <;> simp
    simp only [hCaller, hQueue, measure.callerMeasure, List.length_cons] at hMeasure ⊢
    omega
  | @takeNone k hCaller hDry =>
    -- also an answer of nothing uses up one of the demands
    have hMeasure := measure_setCaller p p.queue p.remaining p.taken p.joined
      true (.taking (some k))
    simp only [hCaller, measure.callerMeasure, Option.getD_some] at hMeasure ⊢
    omega
  | takeLast hCaller hDry =>
    have hMeasure := measure_setCaller p p.queue p.remaining p.taken p.joined
      true .joining
    simp only [hCaller, measure.callerMeasure, Option.getD_none] at hMeasure ⊢
    omega
  | @collect r rest hCaller hLeft hQueue =>
    have hMeasure := measure_setCaller p rest (p.remaining - 1) p.taken
      (p.joined ++ [r]) p.ended p.caller
    simp only [hQueue, List.length_cons] at hMeasure ⊢
    omega
  | collectNone hCaller hDry =>
    have hMeasure := measure_setCaller p p.queue p.remaining p.taken p.joined
      p.ended .closing
    simp only [hCaller, measure.callerMeasure] at hMeasure ⊢
    omega
  | join hCaller =>
    have hMeasure := measure_setCaller p p.queue p.remaining p.taken p.joined
      p.ended .joining
    simp only [hCaller, measure.callerMeasure, Option.getD_some] at hMeasure ⊢
    omega
  | close hCaller hOver =>
    have hMeasure := measure_setCaller p p.queue p.remaining p.taken p.joined
      p.ended .finished
    simp only [hCaller, measure.callerMeasure] at hMeasure ⊢
    omega
  | drop hCaller =>
    have hMeasure := measure_setCaller p p.queue p.remaining p.taken p.joined
      p.ended .gone
    simp only [hCaller, measure.callerMeasure] at hMeasure ⊢
    omega

-- ---------------------------------------------------------------------------
-- Something can happen
-- ---------------------------------------------------------------------------

theorem isOpen_step_of_move (h : Move p s q) : p.isOpen (.step s) = true := by
  simp [isOpen, h.step?_eq]

/-- The choices are what the caller and the threads can do now. -/
theorem mem_choices_iff {c : Choice} : c ∈ p.choices ↔ p.isOpen c = true ∧
    (c ∈ [Step.take, .join, .close, .ready, .start].map Choice.step ∨
      ∃ t < p.threads.length, c ∈ [Choice.step (.send t), .work t, .step (.claim t)]) := by
  simp only [choices, List.mem_filter, List.mem_append, List.mem_flatMap, List.mem_range,
    List.map_cons, List.map_nil, List.mem_cons, List.not_mem_nil, or_false]
  constructor
  · rintro ⟨(hCaller | hThread) | hStart, hOpen⟩
    · exact ⟨hOpen, .inl (by tauto)⟩
    · exact ⟨hOpen, .inr hThread⟩
    · exact ⟨hOpen, .inl (by tauto)⟩
  · rintro ⟨hOpen, hCaller | hThread⟩
    · exact ⟨by tauto, hOpen⟩
    · exact ⟨.inl (.inr hThread), hOpen⟩

/-- A thread that is not over can do something. -/
theorem exists_choice_of_live {t : Nat} {th : Thread} (h : p.threads[t]? = some th)
    (hLive : th.isOver = false) : ∃ c, c ∈ p.choices := by
  obtain ⟨ht, -⟩ := List.getElem?_eq_some_iff.mp h
  cases th with
  | idle =>
    refine ⟨.step (.claim t), mem_choices_iff.mpr ⟨?_, .inr ⟨t, ht, by simp⟩⟩⟩
    -- whether there is an index for it or not, it can look
    by_cases hIndex : p.counter < p.count
    · exact isOpen_step_of_move (.claim h hIndex)
    · exact isOpen_step_of_move (.leave h hIndex)
  | working i =>
    -- its worker can die, which a schedule may choose as its work
    refine ⟨.work t, mem_choices_iff.mpr ⟨?_, .inr ⟨t, ht, by simp⟩⟩⟩
    simp [isOpen, (Move.crash h).step?_eq]
  | sending r =>
    refine ⟨.step (.send t), mem_choices_iff.mpr ⟨?_, .inr ⟨t, ht, by simp⟩⟩⟩
    by_cases hCaller : p.caller = .gone
    · exact isOpen_step_of_move (.discard h hCaller)
    · exact isOpen_step_of_move (.send h hCaller)
  | left | dead => simp [Thread.isOver] at hLive

/-- A caller that asks for a result gets an answer, or a thread can go on. -/
theorem exists_choice_of_asking {more : Option Nat} (hMore : more ≠ some 0)
    (hCaller : p.caller = .taking more ∨ p.caller = .joining) : ∃ c, c ∈ p.choices := by
  have hTake : p.isOpen (.step .take) = true → ∃ c, c ∈ p.choices := fun hOpen =>
    ⟨.step .take, mem_choices_iff.mpr ⟨hOpen, .inl (by simp)⟩⟩
  rcases hOffer : p.offer with _ | _ | r
  · -- nothing to take yet, so some thread is not over
    obtain ⟨-, -, hLive⟩ := offer_isNone_iff.mp hOffer
    rw [List.all_eq_false] at hLive
    obtain ⟨th, hth, hLive⟩ := hLive
    obtain ⟨t, ht⟩ := List.getElem?_of_mem hth
    exact exists_choice_of_live ht (by simpa using hLive)
  · -- nothing comes any more, which is an answer too
    have hDry := offer_eq_none_iff.mp hOffer
    refine hTake ?_
    rcases hCaller with hTaking | hJoining
    · cases more with
      | none => exact isOpen_step_of_move (.takeLast hTaking hDry)
      | some k =>
        cases k with
        | zero => exact absurd rfl hMore
        | succ k => exact isOpen_step_of_move (.takeNone hTaking hDry)
    · exact isOpen_step_of_move (.collectNone hJoining hDry)
  · -- a result waits in the queue
    obtain ⟨hLeft, rest, hQueue⟩ := offer_eq_some_iff.mp hOffer
    refine hTake ?_
    rcases hCaller with hTaking | hJoining
    · exact isOpen_step_of_move (.take hTaking hMore hLeft hQueue)
    · exact isOpen_step_of_move (.collect hJoining hLeft hQueue)

/-- **No deadlock.** As long as the caller of a pool has not finished and has not gone, something
can happen. -/
theorem choices_ne_nil (hStaffed : Staffed p) (hFinished : p.caller ≠ .finished)
    (hGone : p.caller ≠ .gone) : p.choices ≠ [] := by
  suffices h : ∃ c, c ∈ p.choices by
    obtain ⟨c, hc⟩ := h
    exact List.ne_nil_of_mem hc
  cases hCaller : p.caller with
  | starting =>
    -- more threads to start, or all are there and the caller goes on
    rcases Nat.lt_or_eq_of_le hStaffed.length_le with hLess | hFull
    · exact ⟨.step .start, mem_choices_iff.mpr
        ⟨isOpen_step_of_move (.start hCaller hLess), .inl (by simp)⟩⟩
    · exact ⟨.step .ready, mem_choices_iff.mpr
        ⟨isOpen_step_of_move (.ready hCaller hFull), .inl (by simp)⟩⟩
  | taking more =>
    by_cases hMore : more = some 0
    · subst hMore
      exact ⟨.step .join, mem_choices_iff.mpr ⟨isOpen_step_of_move (.join hCaller), .inl (by simp)⟩⟩
    · exact exists_choice_of_asking hMore (.inl hCaller)
  | joining => exact exists_choice_of_asking (Option.some_ne_none 0).symm (.inr hCaller)
  | closing =>
    -- the last threads are over, or one of them can still do something
    by_cases hOver : p.threads.all Thread.isOver = true
    · exact ⟨.step .close, mem_choices_iff.mpr
        ⟨isOpen_step_of_move (.close hCaller hOver), .inl (by simp)⟩⟩
    · rw [Bool.not_eq_true, List.all_eq_false] at hOver
      obtain ⟨th, hth, hLive⟩ := hOver
      obtain ⟨t, ht⟩ := List.getElem?_of_mem hth
      exact exists_choice_of_live ht (by simpa using hLive)
  | finished => exact absurd hCaller hFinished
  | gone => exact absurd hCaller hGone

end ProxyAudit.Pool
