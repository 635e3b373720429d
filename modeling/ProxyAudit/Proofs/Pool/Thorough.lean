import Mathlib
import ProxyAudit.Proofs.Pool.Runs

/-!
# Pools whose caller takes everything

A caller that takes all results that come has nothing left to collect: when it stops taking, either
all results have come or every sender is gone and has left nothing behind, and that stays so. So
what it collects after that is nothing, whether workers died or not.

A result that was made is in the hands of its thread, in the queue, or with the caller; none is
ever dropped as long as the caller is there.

Main results:

* `handled_move`     — the results that a pool handles grow by those that are made.
* `runFor_handled`   — what is true of all results that workers make is true of what a run handles.
* `lost_move`        — the indices that are lost grow by those of the workers that die.
* `Thorough.move`    — a caller that takes all results collects none.
* `Unharmed.turn`    — nobody dies if no worker dies by itself or is struck dead.
-/

namespace ProxyAudit

def Thread.sending? : Thread → Option WorkerResult
  | sending r => some r
  | _ => none

namespace Pool

variable {p q : Pool} {s : Step}

-- ---------------------------------------------------------------------------
-- What becomes of results
-- ---------------------------------------------------------------------------

/-- The results that were made and not dropped. -/
def handled (p : Pool) : List WorkerResult :=
  p.threads.filterMap Thread.sending? ++ p.queue ++ p.delivered

/-- The results that a step makes. -/
def Step.made : Step → List WorkerResult
  | finish _ r => [r]
  | _ => []

/-- The indices whose workers a step kills. -/
def falls (p : Pool) : Step → List UInt64
  | .crash t => (p.threads[t]?.bind Thread.held?).toList
  | _ => []

private theorem filterMap_setThread_perm {β : Type} [DecidableEq β] {t : Nat} {old new : Thread}
    {f : Thread → Option β} (h : p.threads[t]? = some old) (hSame : f new = f old) :
    ((p.threads.set t new).filterMap f).Perm (p.threads.filterMap f) := by
  rw [List.perm_iff_count]
  intro b
  have hCount := count_filterMap_setThread h new f b
  rw [hSame] at hCount
  omega

private theorem count_handled_setThread {t : Nat} {old : Thread} (h : p.threads[t]? = some old)
    (new : Thread) (counter : UInt64) (more : List WorkerResult) (r : WorkerResult) :
    (handled { p with
        threads := p.threads.set t new
        counter := counter
        queue := p.queue ++ more }).count r + (if old.sending? == some r then 1 else 0)
      = p.handled.count r + (if new.sending? == some r then 1 else 0) + more.count r := by
  have hSending := count_filterMap_setThread h new Thread.sending? r
  simp only [handled, delivered, List.count_append] at hSending ⊢
  omega

private theorem handled_of_threads
    (hThreads : (q.threads.filterMap Thread.sending?).Perm (p.threads.filterMap Thread.sending?))
    (hQueue : q.queue = p.queue) (hDelivered : q.delivered = p.delivered) :
    q.handled.Perm p.handled := by
  rw [handled, handled, hQueue, hDelivered]
  exact (hThreads.append_right _).append_right _

/-- Taking the oldest result from the queue leaves it among those that are handled. -/
private theorem handled_deliver {r : WorkerResult} {rest : List WorkerResult}
    (hThreads : q.threads = p.threads) (hBefore : p.queue = r :: rest) (hAfter : q.queue = rest)
    (hDelivered : q.delivered.Perm (r :: p.delivered)) : q.handled.Perm p.handled := by
  rw [List.perm_iff_count]
  intro x
  have hCount := hDelivered.count_eq x
  simp only [handled, hThreads, hBefore, hAfter, List.count_append, List.count_cons] at hCount ⊢
  omega

/-- A step other than the sending of a result to nobody drops none. -/
private theorem handled_move_of_send (h : Move p s q)
    (hCaller : ∀ t, s = .send t → p.caller ≠ .gone) : q.handled.Perm (s.made ++ p.handled) := by
  cases h with
  | start =>
    simp only [handled, delivered, Step.made, List.filterMap_append]
    exact .of_eq (by simp [Thread.sending?])
  | refuse | ready | takeNone | takeLast | collectNone | join | close | drop => exact .refl _
  | claim hThread | leave hThread | crash hThread =>
    exact handled_of_threads (filterMap_setThread_perm hThread rfl) rfl rfl
  | @finish t r hThread =>
    -- its result is one that was made just now
    rw [List.perm_iff_count]
    intro x
    have hCount := count_handled_setThread hThread (.sending r) p.counter [] x
    simp [Thread.sending?] at hCount
    simp only [Step.made, setThread, List.count_append, List.count_singleton, beq_iff_eq]
    omega
  | @send t r hThread =>
    -- the result goes from the thread into the queue, and both are handled
    rw [List.perm_iff_count]
    intro x
    have hCount := count_handled_setThread hThread .idle p.counter [r] x
    simp [Thread.sending?, List.count_singleton] at hCount
    simpa [Step.made, setThread] using hCount
  | discard _ hGone => exact absurd hGone (hCaller _ rfl)
  | take hTaking hMore hLeft hQueue =>
    -- the result goes from the queue to the caller
    refine handled_deliver ?_ hQueue ?_ ?_
    · rfl
    · rfl
    · simp only [delivered]
      exact (List.perm_append_singleton _ _).append_right _
  | collect hJoining hLeft hQueue =>
    refine handled_deliver ?_ hQueue ?_ ?_
    · rfl
    · rfl
    · simp only [delivered, ← List.append_assoc]
      exact List.perm_append_singleton _ _

/-- **No result is dropped.** As long as the caller is there, a pool handles what it handled
before and what the step has made. -/
theorem handled_move (h : Move p s q) (hCaller : p.caller ≠ .gone) :
    q.handled.Perm (s.made ++ p.handled) :=
  handled_move_of_send h fun _ _ => hCaller

/-- **No result comes from nowhere**, whether or not the caller is there. -/
theorem mem_handled_move (h : Move p s q) {r : WorkerResult} (hr : r ∈ q.handled) :
    r ∈ s.made ∨ r ∈ p.handled := by
  -- the one step that loses a result is a send to nobody
  by_cases hGone : p.caller = .gone ∧ ∃ t, s = .send t
  · obtain ⟨hCaller, t, rfl⟩ := hGone
    cases h with
    | send _ hStays => exact absurd hCaller hStays
    | discard hThread =>
      have hCount := count_handled_setThread hThread .left p.counter [] r
      -- what is handled after that was handled before it
      have hPos : 0 < (handled (p.setThread t .left)).count r := List.count_pos_iff.mpr hr
      simp only [Thread.sending?, List.append_nil, List.count_nil] at hCount
      refine .inr (List.count_pos_iff.mp ?_)
      rw [setThread] at hPos
      simp at hCount
      omega
  · have hKept := handled_move_of_send h fun t hSend hCaller => hGone ⟨hCaller, t, hSend⟩
    exact List.mem_append.mp (hKept.mem_iff.mp hr)

/-- **The lost stay lost.** They are those that were lost before and those that fall. -/
theorem lost_move (h : Move p s q) : q.lost.Perm (p.falls s ++ p.lost) := by
  cases h with
  | start =>
    simp only [lost, falls, List.filterMap_append]
    exact .of_eq (by simp [Thread.lost?])
  | refuse | ready | take | takeNone | takeLast | collect | collectNone | join | close | drop =>
    exact .refl _
  | claim hThread | leave hThread | finish hThread | send hThread | discard hThread =>
    exact filterMap_setThread_perm hThread rfl
  | @crash t j hThread =>
    rw [List.perm_iff_count]
    intro i
    -- the index in the hands of the thread becomes a lost one
    have hCount := count_filterMap_setThread hThread (.dead j) Thread.lost? i
    simp [Thread.lost?] at hCount
    simp only [lost, setThread, falls, hThread, Option.bind_some, Thread.held?, Option.toList_some,
      List.count_append, List.count_singleton, beq_iff_eq]
    omega

theorem lost_subperm_move (h : Move p s q) : p.lost.Subperm q.lost :=
  (List.sublist_append_right _ _).subperm.trans (lost_move h).symm.subperm

/-- In the end all that a pool handles has been delivered. -/
theorem handled_eq_delivered (hHeld : p.held = []) (hQueued : p.queued = []) :
    p.handled = p.delivered := by
  have hSending : p.threads.filterMap Thread.sending? = [] := by
    rw [held, List.filterMap_eq_nil_iff] at hHeld
    rw [List.filterMap_eq_nil_iff]
    intro th hth
    have := hHeld th hth
    cases th <;> simp_all [Thread.held?, Thread.sending?]
  have hQueue : p.queue = [] := List.map_eq_nil_iff.mp hQueued
  simp [handled, hSending, hQueue]

-- ---------------------------------------------------------------------------
-- A caller that takes everything
-- ---------------------------------------------------------------------------

/-- A caller that has taken, and will take, all results for itself. -/
structure Thorough (p : Pool) : Prop where
  wantsAll : p.demand = .all
  stays : p.caller ≠ .gone
  unbounded : ∀ k, p.caller ≠ .taking (some k)
  joinsDry : p.caller = .joining → p.IsDry
  joined_nil : p.joined = []

theorem Thorough.fresh (count : UInt64) (maxConcurrent : Option UInt64) :
    Thorough (fresh count maxConcurrent .all) where
  wantsAll := rfl
  stays := by simp [Pool.fresh]
  unbounded := by simp [Pool.fresh]
  joinsDry := by simp [Pool.fresh]
  joined_nil := rfl

/-- A step of a thread, which leaves the caller and its results alone. -/
private theorem Thorough.of_thread (hThorough : Thorough p) (h : Move p s q)
    (hDemand : q.demand = p.demand) (hCaller : q.caller = p.caller) (hJoined : q.joined = p.joined) :
    Thorough q where
  wantsAll := hDemand.trans hThorough.wantsAll
  stays := hCaller ▸ hThorough.stays
  unbounded k := hCaller ▸ hThorough.unbounded k
  joinsDry hJoining := by
    rw [hCaller] at hJoining
    exact (hThorough.joinsDry hJoining).move (by simp [hJoining]) h
  joined_nil := hJoined.trans hThorough.joined_nil

/-- **Nothing is left to collect** for a caller that takes all results and does not go away. -/
theorem Thorough.move (hThorough : Thorough p) (h : Move p s q) (hRefuse : s ≠ .refuse)
    (hDrop : s ≠ .drop) : Thorough q := by
  have hDemand := h.sameOrder.demand_eq
  cases h with
  | refuse => exact absurd rfl hRefuse
  | drop => exact absurd rfl hDrop
  | start hCaller hLength =>
    exact ⟨hThorough.wantsAll, hThorough.stays, hThorough.unbounded, by simp [hCaller],
      hThorough.joined_nil⟩
  | ready =>
    exact ⟨hThorough.wantsAll, by simp [hThorough.wantsAll, Caller.ofDemand],
      by simp [hThorough.wantsAll, Caller.ofDemand], by simp [hThorough.wantsAll, Caller.ofDemand],
      hThorough.joined_nil⟩
  | claim hThread hIndex => exact hThorough.of_thread (.claim hThread hIndex) hDemand rfl rfl
  | leave hThread hIndex => exact hThorough.of_thread (.leave hThread hIndex) hDemand rfl rfl
  | finish hThread => exact hThorough.of_thread (.finish hThread) hDemand rfl rfl
  | crash hThread => exact hThorough.of_thread (.crash hThread) hDemand rfl rfl
  | send hThread hStays => exact hThorough.of_thread (.send hThread hStays) hDemand rfl rfl
  | discard _ hGone => exact absurd hGone hThorough.stays
  | @take more r rest hCaller hMore hLeft hQueue =>
    have hUnbounded : more = none := by
      cases more with
      | none => rfl
      | some k => exact absurd hCaller (hThorough.unbounded k)
    exact ⟨hThorough.wantsAll, by simp, by simp [hUnbounded], by simp, hThorough.joined_nil⟩
  | takeNone hCaller => exact absurd hCaller (hThorough.unbounded _)
  | takeLast hCaller hDry =>
    exact ⟨hThorough.wantsAll, by simp, by simp, fun _ => hDry, hThorough.joined_nil⟩
  | collect hCaller hLeft hQueue =>
    -- a dry pool has nothing to collect
    rcases hThorough.joinsDry hCaller with hNone | ⟨hEmpty, -⟩
    · exact absurd hNone hLeft
    · rw [hQueue] at hEmpty
      contradiction
  | collectNone | close =>
    exact ⟨hThorough.wantsAll, by simp, by simp, by simp, hThorough.joined_nil⟩
  | join hCaller => exact absurd hCaller (hThorough.unbounded 0)

-- ---------------------------------------------------------------------------
-- Turns
-- ---------------------------------------------------------------------------

variable {σ : Type} {work : UInt64 → StateM σ (Option WorkerResult)}
  {onTake : WorkerResult → StateM σ Unit} {w w' : σ} {c : Choice}

/-- What may be chosen neither gives up a pool nor makes up a result. -/
theorem ne_of_mem_choices (h : Choice.step s ∈ p.choices ∨ Choice.step s ∈ p.deaths) :
    s ≠ .refuse ∧ s ≠ .drop ∧ s.made = [] := by
  rcases h with h | h
  · obtain ⟨-, h⟩ := mem_choices_iff.mp h
    cases s <;> simp [Step.made] at h ⊢
  · have h := (List.mem_filter.mp h).1
    cases s <;> simp [Step.made] at h ⊢

/-- An act makes up no result: what is handled after it was handled before, or a worker made it. -/
theorem Act.mem_handled (h : Act work onTake p w c q w') {r : WorkerResult} (hr : r ∈ q.handled) :
    r ∈ p.handled ∨ ∃ i, (work i).run w = (some r, w') := by
  cases h with
  | refuse hMove => exact .inl ((mem_handled_move hMove hr).resolve_left List.not_mem_nil)
  | turn h =>
    cases h with
    | quiet hMove _ hChoice =>
      obtain ⟨-, -, hMade⟩ := ne_of_mem_choices hChoice
      have hMem := mem_handled_move hMove hr
      rw [hMade] at hMem
      exact .inl (hMem.resolve_left List.not_mem_nil)
    | take hCaller hMore hLeft hQueue =>
      have hMove := Move.take hCaller hMore hLeft hQueue
      exact .inl ((mem_handled_move hMove hr).resolve_left List.not_mem_nil)
    | die hThread | ruin hThread =>
      exact .inl ((mem_handled_move (.crash hThread) hr).resolve_left List.not_mem_nil)
    | @work t i r' w' hThread hIndex hWork =>
      have hMove := Move.finish (r := r') (by rw [hThread, hIndex])
      rcases mem_handled_move hMove hr with hMade | hBefore
      · -- what is new was made by the worker that ran
        obtain rfl : r = r' := List.mem_singleton.mp hMade
        exact .inr ⟨i, hWork⟩
      · exact .inl hBefore

/-- **What is true of all results that workers make** is true of what a run handles. -/
theorem runFor_handled {schedule : Schedule} (hSchedule : schedule.Proceeds)
    {Q : WorkerResult → Prop}
    (hWork : ∀ i w r w', (work i).run w = (some r, w') → r.index = i ∧ Q r)
    (hStart : ∀ r ∈ p.handled, Q r) (fuel n : Nat) :
    ∀ r ∈ ((runFor schedule work onTake fuel n p).run w).1.handled, Q r := by
  refine runFor_act_induction (I := fun p _ => ∀ r ∈ p.handled, Q r) hSchedule
    (fun i w r w' h => (hWork i w r w' h).1) ?_ hStart
  intro _ p w _ q w' _ hAct hKept r hr
  rcases hAct.mem_handled hr with hBefore | ⟨i, hMade⟩
  · exact hKept r hBefore
  · exact (hWork i w r w' hMade).2

/-- All threads are there, unless the caller is still starting them. -/
def Manned (p : Pool) : Prop :=
  p.caller ≠ .starting → p.threads.length = p.threadLimit

theorem Manned.move (hManned : Manned p) (h : Move p s q) (hRefuse : s ≠ .refuse) : Manned q := by
  intro hStarted
  cases h with
  | refuse => exact absurd rfl hRefuse
  | start hCaller => exact absurd hCaller hStarted
  | ready _ hLength => exact hLength
  | claim | leave | finish | crash | send | discard => simpa [setThread] using hManned hStarted
  | take hCaller | takeNone hCaller | takeLast hCaller | collect hCaller | collectNone hCaller
  | join hCaller | close hCaller | drop hCaller => exact hManned (by simp [hCaller])

theorem falls_of_mem_choices (h : Choice.step s ∈ p.choices) : p.falls s = [] := by
  obtain ⟨-, h⟩ := mem_choices_iff.mp h
  cases s <;> simp [falls] at h ⊢

theorem Thorough.turn (hThorough : Thorough p) (h : Turn work onTake p w c q w') : Thorough q := by
  cases h with
  | quiet hMove _ hChoice =>
    obtain ⟨hRefuse, hDrop, -⟩ := ne_of_mem_choices hChoice
    exact hThorough.move hMove hRefuse hDrop
  | take hCaller hMore hLeft hQueue =>
    exact hThorough.move (.take hCaller hMore hLeft hQueue) (by simp) (by simp)
  | work hThread hIndex =>
    exact hThorough.move (.finish (by rw [hThread, hIndex])) (by simp) (by simp)
  | die hThread => exact hThorough.move (.crash hThread) (by simp) (by simp)
  | ruin hThread => exact hThorough.move (.crash hThread) (by simp) (by simp)

theorem Manned.turn (hManned : Manned p) (h : Turn work onTake p w c q w') : Manned q := by
  cases h with
  | quiet hMove _ hChoice => exact hManned.move hMove (ne_of_mem_choices hChoice).1
  | take hCaller hMore hLeft hQueue =>
    exact hManned.move (.take hCaller hMore hLeft hQueue) (by simp)
  | work hThread hIndex => exact hManned.move (.finish (by rw [hThread, hIndex])) (by simp)
  | die hThread => exact hManned.move (.crash hThread) (by simp)
  | ruin hThread => exact hManned.move (.crash hThread) (by simp)

def Unharmed (p : Pool) : Prop :=
  p.lost = []

theorem Unharmed.isDead_eq_false (h : Unharmed p) : ∀ th ∈ p.threads, th.isDead = false := by
  rw [Unharmed, lost, List.filterMap_eq_nil_iff] at h
  intro th hth
  have := h th hth
  cases th <;> simp_all [Thread.lost?, Thread.isDead]

private theorem Unharmed.move (hUnharmed : Unharmed p) (h : Move p s q) (hFalls : p.falls s = []) :
    Unharmed q := by
  have hLost := lost_move h
  rw [hFalls, hUnharmed] at hLost
  exact hLost.eq_nil

/-- **Peace.** Nobody dies where no worker dies by itself and none is struck dead. -/
theorem Unharmed.turn (hUnharmed : Unharmed p) (hChoice : c ∈ p.choices)
    (hLives : ∀ i w, ((work i).run w).1 ≠ none) (h : Turn work onTake p w c q w') :
    Unharmed q := by
  cases h with
  | quiet hMove => exact hUnharmed.move hMove (falls_of_mem_choices hChoice)
  | take hCaller hMore hLeft hQueue =>
    exact hUnharmed.move (.take hCaller hMore hLeft hQueue) rfl
  | work hThread hIndex => exact hUnharmed.move (.finish (by rw [hThread, hIndex])) rfl
  | @die t i w' hThread hWork => exact absurd (by rw [hWork]) (hLives i w)
  | ruin =>
    obtain ⟨-, h⟩ := mem_choices_iff.mp hChoice
    simp at h

end Pool

end ProxyAudit
