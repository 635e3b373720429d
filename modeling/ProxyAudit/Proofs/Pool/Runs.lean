import Mathlib
import ProxyAudit.Proofs.Pool.Progress

/-!
# Runs of a pool

A schedule runs a pool by one choice after the other. Workers and the taking of results act on a
state, so that what happens in what order can be seen from the state in the end.

A schedule proceeds if it makes choices that are open and stops only when nothing can happen. Workers
may die then, and a thread may not be there to be started, so that the caller gives up. A schedule
is complete if all threads can be started, and peaceful if, in addition, it strikes no worker dead.
Every order in which the threads of a pool and its caller can get their turns, up to its end, is the
run of a complete schedule.

Main results:

* `runFor_act_induction`      — what every turn and a giving up keep is kept by a run.
* `runFor_ends`               — a run comes to an end where every step lowers the measure.
* `runIn_ends`                — the run of a complete schedule ends with its caller finished or gone.
* `exists_schedule_of_turns`  — every order of turns is the run of a complete schedule.
-/

namespace ProxyAudit

/-! A state is threaded through what is done one after the other. -/

theorem StateM.run_bind {σ α β : Type} (x : StateM σ α) (f : α → StateM σ β) (w : σ) :
    (x >>= f).run w = (f (x.run w).1).run (x.run w).2 :=
  rfl

theorem StateM.run_pure {σ α : Type} (a : α) (w : σ) : (pure a : StateM σ α).run w = (a, w) :=
  rfl

namespace Pool

variable {σ : Type}

-- ---------------------------------------------------------------------------
-- Schedules
-- ---------------------------------------------------------------------------

/-- The deaths that can strike a pool now. -/
def deaths (p : Pool) : List Choice :=
  ((List.range p.threads.length).flatMap fun t =>
    [Choice.ruin t, .step (.crash t)]).filter p.isOpen

/-- A schedule that runs pools to their end, on a machine on which threads may fail to start. -/
structure Schedule.Proceeds (schedule : Schedule) : Prop where
  mem : ∀ n p c, schedule n p = some c →
    c ∈ p.choices ∨ c ∈ p.deaths ∨ (c = .step .refuse ∧ p.isOpen c = true)
  keepsOn : ∀ n p, schedule n p = none → p.choices = []

/-- A schedule that runs pools to their end. -/
structure Schedule.IsComplete (schedule : Schedule) : Prop where
  mem : ∀ n p c, schedule n p = some c → c ∈ p.choices ∨ c ∈ p.deaths
  keepsOn : ∀ n p, schedule n p = none → p.choices = []

/-- A schedule that runs pools to their end and strikes no worker dead. -/
structure Schedule.IsPeaceful (schedule : Schedule) : Prop where
  mem : ∀ n p c, schedule n p = some c → c ∈ p.choices
  keepsOn : ∀ n p, schedule n p = none → p.choices = []

theorem Schedule.IsPeaceful.isComplete {schedule : Schedule} (h : schedule.IsPeaceful) :
    schedule.IsComplete :=
  ⟨fun n p c hc => .inl (h.mem n p c hc), h.keepsOn⟩

theorem Schedule.IsComplete.proceeds {schedule : Schedule} (h : schedule.IsComplete) :
    schedule.Proceeds :=
  ⟨fun n p c hc => (h.mem n p c hc).imp_right .inl, h.keepsOn⟩

theorem refuse_not_mem (p : Pool) :
    ¬ (Choice.step .refuse ∈ p.choices ∨ Choice.step .refuse ∈ p.deaths) := by
  rintro (h | h)
  · have hKind := (mem_choices_iff.mp h).2
    simp at hKind
  · have hKind := (List.mem_filter.mp h).1
    simp at hKind

/-- A schedule that runs pools to their end on a machine that fails to start one thread: when so
many threads have been started, the next one is not to be had, and the caller gives up. -/
structure Schedule.FailsAt (t : Nat) (schedule : Schedule) : Prop extends schedule.Proceeds where
  start_ne : ∀ n p, schedule n p = some (.step .start) → p.threads.length ≠ t
  refuse_eq : ∀ n p, schedule n p = some (.step .refuse) → p.threads.length = t

/-- The schedule that does as another one until it comes to the start of the thread that fails. -/
def Schedule.failing (t : Nat) (schedule : Schedule) : Schedule := fun n p =>
  match schedule n p with
  | some (.step .start) =>
    if p.threads.length = t then some (.step .refuse) else some (.step .start)
  | choice => choice

theorem Schedule.failing_eq_some {schedule : Schedule} {t n : Nat} {p : Pool} {c : Choice}
    (h : schedule.failing t n p = some c) :
    (c = .step .refuse ∧ schedule n p = some (.step .start) ∧ p.threads.length = t) ∨
    (schedule n p = some c ∧ (c = .step .start → p.threads.length ≠ t)) := by
  unfold failing at h
  split at h
  · next hNext =>
    split at h
    · next hLength =>
      -- the start that is to fail, and the refusal in its place
      cases h
      exact .inl ⟨rfl, hNext, hLength⟩
    · next hLength =>
      cases h
      exact .inr ⟨hNext, fun _ => hLength⟩
  · next hOther =>
    refine .inr ⟨h, fun hStart => ?_⟩
    rw [hStart] at h
    exact absurd h hOther

/-- Where a thread can be started, its start can fail. -/
theorem isOpen_refuse_of_start (p : Pool) : p.isOpen (.step .refuse) = p.isOpen (.step .start) := by
  simp only [isOpen, step?]
  split <;> rfl

theorem Schedule.failing_failsAt {schedule : Schedule} (h : schedule.IsComplete) (t : Nat) :
    (schedule.failing t).FailsAt t where
  mem n p c hc := by
    -- a refusal is open wherever a start is
    rcases failing_eq_some hc with ⟨rfl, hStart, -⟩ | ⟨hNext, -⟩
    · refine .inr (.inr ⟨rfl, ?_⟩)
      rw [isOpen_refuse_of_start]
      rcases h.mem n p _ hStart with hChoice | hDeath
      · exact (mem_choices_iff.mp hChoice).1
      · exact (List.mem_filter.mp hDeath).2
    · exact (h.mem n p c hNext).imp_right .inl
  keepsOn n p hNone := by
    unfold failing at hNone
    split at hNone
    · split at hNone <;> contradiction
    · exact h.keepsOn n p hNone
  start_ne n p hc := by
    rcases failing_eq_some hc with ⟨hOther, -⟩ | ⟨-, hLength⟩
    · simp at hOther
    · exact hLength rfl
  refuse_eq n p hc := by
    rcases failing_eq_some hc with ⟨-, -, hLength⟩ | ⟨hNext, -⟩
    · exact hLength
    · exact absurd (h.mem n p _ hNext) (refuse_not_mem p)

theorem eager_isPeaceful : Schedule.IsPeaceful eager where
  mem _ p c hc := List.mem_of_mem_head? (by simpa [eager] using hc)
  keepsOn _ p hNone := by simpa [eager] using hNone

/-- The schedule that goes round the open choices. -/
def Schedule.rotating : Schedule := fun n p => p.choices[n % p.choices.length]?

theorem Schedule.rotating_isPeaceful : IsPeaceful rotating where
  mem _ _ _ hc := List.mem_of_getElem? hc
  keepsOn n p hNone := by
    rw [rotating, List.getElem?_eq_none_iff] at hNone
    by_contra hSome
    have hLt := Nat.mod_lt n (List.length_pos_iff.mpr hSome)
    omega

/-- The schedule that makes the given choices as long as they are open, and otherwise lets the
first open choice happen. -/
def Schedule.following (choices : List Choice) : Schedule := fun n p =>
  match choices[n]? with
  | some c => if c ∈ p.choices ∨ c ∈ p.deaths then some c else p.choices.head?
  | none => p.choices.head?

theorem Schedule.following_eq_some {choices : List Choice} {n : Nat} {p : Pool} {c : Choice}
    (h : choices[n]? = some c) (hOpen : c ∈ p.choices ∨ c ∈ p.deaths) :
    following choices n p = some c := by
  simp [following, h, hOpen]

theorem Schedule.following_isComplete (choices : List Choice) :
    (following choices).IsComplete where
  mem n p c hc := by
    -- with nothing left to follow, the first of the choices is made
    have hHead (h : p.choices.head? = some c) : c ∈ p.choices ∨ c ∈ p.deaths :=
      .inl (List.mem_of_head? h)
    unfold following at hc
    split at hc
    · split at hc
      · next hOpen =>
        cases hc
        exact hOpen
      · exact hHead hc
    · exact hHead hc
  keepsOn n p hNone := by
    unfold following at hNone
    split at hNone
    · split at hNone
      · contradiction
      · exact List.head?_eq_none_iff.mp hNone
    · exact List.head?_eq_none_iff.mp hNone

-- ---------------------------------------------------------------------------
-- Turns
-- ---------------------------------------------------------------------------

/-- What a choice makes of a pool and of the state that its workers and its caller act on. -/
inductive Turn (work : UInt64 → StateM σ (Option WorkerResult))
    (onTake : WorkerResult → StateM σ Unit) (p : Pool) (w : σ) : Choice → Pool → σ → Prop where
  /-- A step that no effect goes with. -/
  | quiet {s : Step} {q : Pool} (hMove : Move p s q) (hTaken : q.taken = p.taken)
      (hChoice : Choice.step s ∈ p.choices ∨ Choice.step s ∈ p.deaths) :
      Turn work onTake p w (.step s) q w
  /-- The caller takes a result for itself. -/
  | take {more : Option Nat} {r : WorkerResult} {rest : List WorkerResult}
      (hCaller : p.caller = .taking more) (hMore : more ≠ some 0) (hLeft : p.remaining ≠ 0)
      (hQueue : p.queue = r :: rest) :
      Turn work onTake p w (.step .take)
        { p with
          queue := rest
          remaining := p.remaining - 1
          taken := p.taken ++ [r]
          caller := .taking (more.map (· - 1)) }
        ((onTake r).run w).2
  /-- A worker runs to its end. -/
  | work {t : Nat} {i : UInt64} {r : WorkerResult} {w' : σ}
      (hThread : p.threads[t]? = some (.working i)) (hIndex : r.index = i)
      (hWork : (work i).run w = (some r, w')) :
      Turn work onTake p w (.work t) (p.setThread t (.sending r)) w'
  /-- A worker runs and dies by itself. -/
  | die {t : Nat} {i : UInt64} {w' : σ} (hThread : p.threads[t]? = some (.working i))
      (hWork : (work i).run w = (none, w')) :
      Turn work onTake p w (.work t) (p.setThread t (.dead i)) w'
  /-- A worker runs and is struck dead. -/
  | ruin {t : Nat} {i : UInt64} {result : Option WorkerResult} {w' : σ}
      (hThread : p.threads[t]? = some (.working i)) (hWork : (work i).run w = (result, w')) :
      Turn work onTake p w (.ruin t) (p.setThread t (.dead i)) w'

variable {work : UInt64 → StateM σ (Option WorkerResult)} {onTake : WorkerResult → StateM σ Unit}
variable {p q : Pool} {w w' : σ} {c : Choice}

theorem Turn.exists_move (h : Turn work onTake p w c q w') : ∃ s, Move p s q := by
  cases h with
  | quiet hMove => exact ⟨_, hMove⟩
  | take hCaller hMore hLeft hQueue => exact ⟨_, .take hCaller hMore hLeft hQueue⟩
  | work hThread hIndex => exact ⟨_, .finish (by rw [hThread, hIndex])⟩
  | die hThread => exact ⟨_, .crash hThread⟩
  | ruin hThread => exact ⟨_, .crash hThread⟩

theorem Turn.mem (h : Turn work onTake p w c q w') : c ∈ p.choices ∨ c ∈ p.deaths := by
  cases h with
  | quiet _ _ hChoice => exact hChoice
  | take hCaller hMore hLeft hQueue =>
    exact .inl (mem_choices_iff.mpr
      ⟨isOpen_step_of_move (.take hCaller hMore hLeft hQueue), .inl (by simp)⟩)
  | @work t _ _ _ hThread | @die t _ _ hThread =>
    obtain ⟨hLength, -⟩ := List.getElem?_eq_some_iff.mp hThread
    -- a thread at work can always be chosen, since its worker may die
    refine .inl (mem_choices_iff.mpr ⟨?_, .inr ⟨t, hLength, by simp⟩⟩)
    exact isOpen_step_of_move (.crash hThread)
  | @ruin t _ _ _ hThread =>
    obtain ⟨hLength, -⟩ := List.getElem?_eq_some_iff.mp hThread
    refine .inr (List.mem_filter.mpr ⟨List.mem_flatMap.mpr ⟨t, ?_, by simp⟩, ?_⟩)
    · exact List.mem_range.mpr hLength
    · exact isOpen_step_of_move (.crash hThread)

/-- What may happen next: a turn, or that a thread fails to start and the caller gives up. -/
inductive Act (work : UInt64 → StateM σ (Option WorkerResult))
    (onTake : WorkerResult → StateM σ Unit) (p : Pool) (w : σ) : Choice → Pool → σ → Prop where
  | turn {c : Choice} {q : Pool} {w' : σ} (h : Turn work onTake p w c q w') :
      Act work onTake p w c q w'
  | refuse {q : Pool} (hMove : Move p .refuse q) : Act work onTake p w (.step .refuse) q w

theorem Act.exists_move (h : Act work onTake p w c q w') : ∃ s, Move p s q := by
  cases h with
  | turn h => exact h.exists_move
  | refuse hMove => exact ⟨_, hMove⟩

/-- Only the choice to start a thread, or to give up, comes to that. -/
theorem Act.exists_move_of_choice (h : Act work onTake p w c q w') :
    ∃ s, Move p s q ∧ (s = .start ∨ s = .refuse → c = .step s) := by
  cases h with
  | refuse hMove => exact ⟨_, hMove, fun _ => rfl⟩
  | turn h =>
    cases h with
    | quiet hMove => exact ⟨_, hMove, fun _ => rfl⟩
    | take hCaller hMore hLeft hQueue => exact ⟨_, .take hCaller hMore hLeft hQueue, by simp⟩
    | work hThread hIndex => exact ⟨_, .finish (by rw [hThread, hIndex]), by simp⟩
    | die hThread => exact ⟨_, .crash hThread, by simp⟩
    | ruin hThread => exact ⟨_, .crash hThread, by simp⟩

theorem Act.turn_of_mem (h : Act work onTake p w c q w') (hMem : c ∈ p.choices ∨ c ∈ p.deaths) :
    Turn work onTake p w c q w' := by
  cases h with
  | turn h => exact h
  | refuse => exact absurd hMem (refuse_not_mem p)

theorem Reachable.move {start : Pool} {s : Step} (hStart : Reachable start p) (h : Move p s q) :
    Reachable start q := by
  obtain ⟨history, hHistory⟩ := hStart
  exact ⟨history ++ [s], after?_concat hHistory h⟩

theorem Turn.reachable {start : Pool} (h : Turn work onTake p w c q w')
    (hStart : Reachable start p) : Reachable start q := by
  obtain ⟨s, hMove⟩ := h.exists_move
  exact hStart.move hMove

private theorem exists_working_of_isOpen {t : Nat} (h : (p.step? (.crash t)).isSome = true) :
    ∃ i, p.threads[t]? = some (.working i) := by
  obtain ⟨q, hq⟩ := Option.isSome_iff_exists.mp h
  cases step?_eq_some_iff.mp hq with
  | crash hThread => exact ⟨_, hThread⟩

/-- **Every choice has its turn.** A worker has to report under its own index. -/
theorem exists_turn (onTake : WorkerResult → StateM σ Unit)
    (hWork : ∀ i w r w', (work i).run w = (some r, w') → r.index = i)
    (hChoice : c ∈ p.choices ∨ c ∈ p.deaths) (w : σ) :
    ∃ q w', Turn work onTake p w c q w' := by
  -- whatever may be chosen is open
  have hOpen : p.isOpen c = true := by
    rcases hChoice with hc | hc
    · exact (mem_choices_iff.mp hc).1
    · exact (List.mem_filter.mp hc).2
  cases c with
  | step s =>
    obtain ⟨q, hq⟩ := Option.isSome_iff_exists.mp hOpen
    have hMove := step?_eq_some_iff.mp hq
    cases hMove with
    | take hCaller hMore hLeft hQueue => exact ⟨_, _, .take hCaller hMore hLeft hQueue⟩
    | start | refuse | ready | claim | leave | finish | crash | send | discard | takeNone
    | takeLast | collect | collectNone | join | close | drop =>
      exact ⟨_, _, .quiet (step?_eq_some_iff.mp hq) rfl hChoice⟩
  | work t =>
    obtain ⟨i, hThread⟩ := exists_working_of_isOpen hOpen
    -- it depends on the work whether the worker dies of it
    rcases hRun : (work i).run w with ⟨_ | r, w'⟩
    · exact ⟨_, _, .die hThread hRun⟩
    · exact ⟨_, _, .work hThread (hWork i w r w' hRun) hRun⟩
  | ruin t =>
    obtain ⟨i, hThread⟩ := exists_working_of_isOpen hOpen
    exact ⟨_, _, .ruin hThread (Prod.eta _).symm⟩

theorem exists_act (onTake : WorkerResult → StateM σ Unit)
    (hWork : ∀ i w r w', (work i).run w = (some r, w') → r.index = i)
    (hChoice : c ∈ p.choices ∨ c ∈ p.deaths ∨ (c = .step .refuse ∧ p.isOpen c = true)) (w : σ) :
    ∃ q w', Act work onTake p w c q w' := by
  rcases or_assoc.mpr hChoice with hTurn | ⟨rfl, hOpen⟩
  · obtain ⟨q, w', h⟩ := exists_turn onTake hWork hTurn w
    exact ⟨q, w', .turn h⟩
  · obtain ⟨q, hq⟩ := Option.isSome_iff_exists.mp hOpen
    exact ⟨q, w, .refuse (step?_eq_some_iff.mp hq)⟩

-- ---------------------------------------------------------------------------
-- Runs are turns
-- ---------------------------------------------------------------------------

theorem handedOver_of_taken_eq (h : q.taken = p.taken) : handedOver p q = none := by
  simp [handedOver, h]

theorem handedOver_of_taken_append {r : WorkerResult} (h : q.taken = p.taken ++ [r]) :
    handedOver p q = some r := by
  simp [handedOver, h]

variable {schedule : Schedule} {fuel n : Nat}

theorem runFor_of_none (h : schedule n p = none) :
    (runFor schedule work onTake (fuel + 1) n p).run w = (p, w) := by
  simp only [runFor, h]
  rfl

/-- A run takes its turns one by one. -/
theorem runFor_of_turn (h : schedule n p = some c) (hTurn : Turn work onTake p w c q w') :
    (runFor schedule work onTake (fuel + 1) n p).run w
      = (runFor schedule work onTake fuel (n + 1) q).run w' := by
  cases hTurn with
  | quiet hMove hTaken =>
    simp only [runFor, h, play, StateM.run_bind, StateM.run_pure, hMove.step?_eq,
      handedOver_of_taken_eq hTaken]
  | @take more r rest hCaller hMore hLeft hQueue =>
    -- the result that is taken is handed over before the next turn
    have hStep := (Move.take hCaller hMore hLeft hQueue).step?_eq
    have hHanded : handedOver p { p with
        queue := rest
        remaining := p.remaining - 1
        taken := p.taken ++ [r]
        caller := .taking (more.map (· - 1)) } = some r := handedOver_of_taken_append rfl
    simp only [runFor, h, play, StateM.run_bind, StateM.run_pure, hStep, hHanded]
  | @work t i r w' hThread hIndex hWork =>
    have hStep := (Move.finish (r := r) (by rw [hThread, hIndex])).step?_eq
    simp only [runFor, h, play, hThread, StateM.run_bind, StateM.run_pure, hWork, hStep,
      handedOver_of_taken_eq, setThread]
  | die hThread hWork =>
    have hStep := (Move.crash hThread).step?_eq
    simp only [runFor, h, play, hThread, StateM.run_bind, StateM.run_pure, hWork, hStep,
      handedOver_of_taken_eq, setThread]
  | ruin hThread hWork =>
    have hStep := (Move.crash hThread).step?_eq
    simp only [runFor, h, play, hThread, StateM.run_bind, StateM.run_pure, hWork, hStep,
      handedOver_of_taken_eq, setThread]

theorem runFor_of_act (h : schedule n p = some c) (hAct : Act work onTake p w c q w') :
    (runFor schedule work onTake (fuel + 1) n p).run w
      = (runFor schedule work onTake fuel (n + 1) q).run w' := by
  cases hAct with
  | turn hTurn => exact runFor_of_turn h hTurn
  | refuse hMove =>
    have hTaken : q.taken = p.taken := by
      cases hMove
      rfl
    simp only [runFor, h, play, StateM.run_bind, StateM.run_pure, hMove.step?_eq,
      handedOver_of_taken_eq hTaken]

-- ---------------------------------------------------------------------------
-- Whole runs
-- ---------------------------------------------------------------------------

/-- **Runs, one act at a time.** What every act that the schedule chooses keeps is kept by a run. -/
theorem runFor_act_induction (hSchedule : schedule.Proceeds)
    (hWork : ∀ i w r w', (work i).run w = (some r, w') → r.index = i) {I : Pool → σ → Prop}
    (hAct : ∀ n p w c q w', schedule n p = some c → Act work onTake p w c q w' → I p w → I q w')
    (hStart : I p w) :
    I ((runFor schedule work onTake fuel n p).run w).1
      ((runFor schedule work onTake fuel n p).run w).2 := by
  induction fuel generalizing n p w with
  | zero => exact hStart
  | succ fuel ih =>
    cases hNext : schedule n p with
    | none =>
      rw [runFor_of_none hNext]
      exact hStart
    | some c =>
      obtain ⟨q, w', hActed⟩ := exists_act onTake hWork (hSchedule.mem n p c hNext) w
      rw [runFor_of_act hNext hActed]
      exact ih (hAct n p w c q w' hNext hActed hStart)

/-- **Runs, one turn at a time.** What every turn that the schedule chooses keeps is kept by a run
of a complete schedule. -/
theorem runFor_induction (hSchedule : schedule.IsComplete)
    (hWork : ∀ i w r w', (work i).run w = (some r, w') → r.index = i) {I : Pool → σ → Prop}
    (hTurn : ∀ n p w c q w', schedule n p = some c → Turn work onTake p w c q w' → I p w → I q w')
    (hStart : I p w) :
    I ((runFor schedule work onTake fuel n p).run w).1
      ((runFor schedule work onTake fuel n p).run w).2 :=
  runFor_act_induction hSchedule.proceeds hWork (fun n p w c q w' hNext hAct =>
    hTurn n p w c q w' hNext (hAct.turn_of_mem (hSchedule.mem n p c hNext))) hStart

/-- **Runs come to an end** where something that every act keeps lets every step lower the
measure. -/
theorem runFor_ends (hSchedule : schedule.Proceeds)
    (hWork : ∀ i w r w', (work i).run w = (some r, w') → r.index = i) {I : Pool → σ → Prop}
    (hAct : ∀ n p w c q w', schedule n p = some c → Act work onTake p w c q w' → I p w → I q w')
    (hFalls : ∀ p w s q, I p w → Move p s q → q.measure < p.measure) (hStart : I p w)
    (hMeasure : p.measure ≤ fuel) :
    ((runFor schedule work onTake fuel n p).run w).1.choices = [] := by
  induction fuel generalizing n p w with
  | zero =>
    -- nothing is left to do, so a choice that is open would go below zero
    by_contra hSome
    obtain ⟨c, hc⟩ := List.exists_mem_of_ne_nil _ hSome
    obtain ⟨q, w', hTurned⟩ := exists_turn onTake hWork (.inl hc) w
    obtain ⟨s, hMove⟩ := hTurned.exists_move
    have := hFalls p w s q hStart hMove
    omega
  | succ fuel ih =>
    cases hNext : schedule n p with
    | none =>
      rw [runFor_of_none hNext]
      exact hSchedule.keepsOn n p hNext
    | some c =>
      obtain ⟨q, w', hActed⟩ := exists_act onTake hWork (hSchedule.mem n p c hNext) w
      obtain ⟨s, hMove⟩ := hActed.exists_move
      have := hFalls p w s q hStart hMove
      rw [runFor_of_act hNext hActed]
      exact ih (hAct n p w c q w' hNext hActed hStart) (by omega)

/-- A pool whose workers and threads so far leave room in the words loses measure with every step.
-/
theorem measure_move_of_room {count : UInt64} {maxConcurrent : Option UInt64} {demand : Demand}
    {s : Step} (hFit : count.toNat + (threadCount count maxConcurrent).toNat ≤ 2 ^ 64)
    (hReach : Reachable (fresh count maxConcurrent demand) p)
    (hRoom : count.toNat + p.threads.length < 2 ^ 64) (h : Move p s q) :
    q.measure < p.measure := by
  obtain ⟨history, hHistory⟩ := hReach
  obtain ⟨⟨hCount, hLimit, -⟩, hStaffed, -, hTally⟩ := outline_of_after? hFit hHistory
  replace hCount : p.count = count := hCount
  replace hLimit : p.threadLimit = (threadCount count maxConcurrent).toNat := hLimit
  refine measure_move h fun hClaim => ?_
  obtain ⟨t, hThread⟩ := exists_idle_of_claim h hClaim
  rw [hTally.counter_eq_claims hStaffed (by rw [hCount, hLimit]; exact hFit) hThread]
  have hLeft := hTally.overshoot_le
  have hThreads := countP_hasLeft_lt hThread
  rw [hCount] at hLeft
  omega

/-- The pools that a start without room for a wrapped counter leads to lose measure with every
step. -/
theorem measure_move_of_reachable {count : UInt64} {maxConcurrent : Option UInt64}
    {demand : Demand} {s : Step}
    (hFit : count.toNat + (threadCount count maxConcurrent).toNat < 2 ^ 64)
    (hReach : Reachable (fresh count maxConcurrent demand) p) (h : Move p s q) :
    q.measure < p.measure := by
  refine measure_move_of_room (by omega) hReach ?_ h
  obtain ⟨history, hHistory⟩ := hReach
  have hLength := length_threads_le hHistory
  omega

/-- **Runs come to an end.** A complete schedule runs a pool until its caller has finished or is
gone. -/
theorem runIn_ends {count : UInt64} {maxConcurrent : Option UInt64} {demand : Demand}
    (hFit : count.toNat + (threadCount count maxConcurrent).toNat < 2 ^ 64)
    (hSchedule : schedule.IsComplete)
    (hWork : ∀ i w r w', (work i).run w = (some r, w') → r.index = i) (w : σ) :
    let q := (((fresh count maxConcurrent demand).runIn schedule work onTake).run w).1
    Reachable (fresh count maxConcurrent demand) q ∧ (q.caller = .finished ∨ q.caller = .gone) := by
  -- a pool that is left with nothing to choose has come to its end
  have hStops {p : Pool} (hReach : Reachable (fresh count maxConcurrent demand) p)
      (hNone : p.choices = []) : p.caller = .finished ∨ p.caller = .gone := by
    obtain ⟨history, hHistory⟩ := hReach
    have hStaffed := (outline_of_after? (by omega) hHistory).staffed
    by_contra hGoesOn
    rw [not_or] at hGoesOn
    exact choices_ne_nil hStaffed hGoesOn.1 hGoesOn.2 hNone
  have hKept : ∀ n p w c q w', schedule n p = some c → Act work onTake p w c q w' →
      Reachable (fresh count maxConcurrent demand) p →
      Reachable (fresh count maxConcurrent demand) q := by
    intro n p w c q w' _ hAct hReach
    obtain ⟨s, hMove⟩ := hAct.exists_move
    exact hReach.move hMove
  intro q
  have hReach : Reachable (fresh count maxConcurrent demand) q :=
    runFor_act_induction (I := fun p _ => Reachable (fresh count maxConcurrent demand) p)
      hSchedule.proceeds hWork hKept ⟨[], rfl⟩
  -- the fuel is the measure, and that is enough for the choices to run out
  have hNone : q.choices = [] :=
    runFor_ends (I := fun p _ => Reachable (fresh count maxConcurrent demand) p)
      hSchedule.proceeds hWork hKept (fun _ _ _ _ hReach hMove =>
        measure_move_of_reachable hFit hReach hMove) ⟨[], rfl⟩ (Nat.le_refl _)
  exact ⟨hReach, hStops hReach hNone⟩

-- ---------------------------------------------------------------------------
-- Every order
-- ---------------------------------------------------------------------------

inductive Turns (work : UInt64 → StateM σ (Option WorkerResult))
    (onTake : WorkerResult → StateM σ Unit) : Pool → σ → List Choice → Pool → σ → Prop where
  | nil {p : Pool} {w : σ} : Turns work onTake p w [] p w
  | cons {p q r : Pool} {w w' w'' : σ} {c : Choice} {cs : List Choice}
      (hTurn : Turn work onTake p w c q w') (hRest : Turns work onTake q w' cs r w'') :
      Turns work onTake p w (c :: cs) r w''

/-- The schedule that makes given choices leads where their turns lead. -/
theorem runFor_following {cs : List Choice} (h : Turns work onTake p w cs q w')
    (before : List Choice) (fuel : Nat) :
    (runFor (.following (before ++ cs)) work onTake (cs.length + fuel) before.length p).run w
      = (runFor (.following (before ++ cs)) work onTake fuel (before ++ cs).length q).run w' := by
  induction h generalizing before with
  | nil => simp
  | @cons p q r w w' w'' c cs hTurn hRest ih =>
    have hNext : Schedule.following (before ++ c :: cs) before.length p = some c :=
      Schedule.following_eq_some (by simp) hTurn.mem
    have hFuel : (c :: cs).length + fuel = (cs.length + fuel) + 1 := by
      rw [List.length_cons]
      omega
    rw [hFuel, runFor_of_turn hNext hTurn]
    simpa using ih (before ++ [c])

/-- The steps of a pool that starts without room for a wrapped counter are no more than its
measure. -/
theorem Turns.length_le {count : UInt64} {maxConcurrent : Option UInt64} {demand : Demand}
    {cs : List Choice} (hFit : count.toNat + (threadCount count maxConcurrent).toNat < 2 ^ 64)
    (hReach : Reachable (fresh count maxConcurrent demand) p)
    (h : Turns work onTake p w cs q w') : cs.length + q.measure ≤ p.measure := by
  induction h with
  | nil => simp
  | cons hTurn _ ih =>
    obtain ⟨s, hMove⟩ := hTurn.exists_move
    have hFalls := measure_move_of_reachable hFit hReach hMove
    have hRest := ih (hTurn.reachable hReach)
    rw [List.length_cons]
    omega

/-- **Every order is a run.** Wherever a pool can be led by one turn after the other, until nothing
is left to choose, a complete schedule leads it there. -/
theorem exists_schedule_of_turns {count : UInt64} {maxConcurrent : Option UInt64} {demand : Demand}
    {cs : List Choice} (hFit : count.toNat + (threadCount count maxConcurrent).toNat < 2 ^ 64)
    (h : Turns work onTake (fresh count maxConcurrent demand) w cs q w') (hEnd : q.choices = []) :
    ∃ schedule : Schedule, schedule.IsComplete ∧
      ((fresh count maxConcurrent demand).runIn schedule work onTake).run w = (q, w') := by
  refine ⟨.following cs, Schedule.following_isComplete cs, ?_⟩
  have hLength := h.length_le hFit ⟨[], rfl⟩
  obtain ⟨fuel, hFuel⟩ := Nat.le.dest (Nat.le_of_add_right_le hLength)
  have hRun := runFor_following h [] fuel
  rw [List.nil_append, List.length_nil, hFuel] at hRun
  rw [runIn, hRun]
  cases fuel with
  | zero => rfl
  | succ fuel =>
    refine runFor_of_none ?_
    simp [Schedule.following, hEnd]

end Pool

end ProxyAudit
