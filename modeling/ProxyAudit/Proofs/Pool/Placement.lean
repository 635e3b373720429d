import Mathlib
import ProxyAudit.Proofs.Pool.Moves

/-!
# Where the indices are

An index of a pool starts out unclaimed. A thread claims it and holds it while it runs its worker
and while it has the result to hand in; then the result is in the queue, and at last it is
delivered. A worker that dies takes its index with it.

`Pool.spread` lists the indices that have been claimed, wherever they are now. A claim adds the
counter to it, and no other step of a pool that still has its caller changes it except in order.
From this one fact comes the account of every history: no index is ever in two places, none is
forgotten, and what the caller has in the end is what no dead thread has taken along.

The counter is a word. How often it was advanced is read off the history (`claims`); the counter is
that number as long as it fits, and no thread ever claims with a counter that has wrapped if the
workers and the threads together do not exceed the words.

Main results:

* `spread_move`          — what one step does to the claimed indices.
* `outline_of_after?`    — the account of a history.
* `each_index_once`      — every index is in exactly one place, and what the caller gets.
-/

namespace ProxyAudit

-- ---------------------------------------------------------------------------
-- Indices
-- ---------------------------------------------------------------------------

/-- The index in the hands of a thread that is alive. -/
def Thread.held? : Thread → Option UInt64
  | working i => some i
  | sending r => some r.index
  | _ => none

/-- The index that died with its thread. -/
def Thread.lost? : Thread → Option UInt64
  | dead i => some i
  | _ => none

def Thread.hasLeft : Thread → Bool
  | left => true
  | _ => false

def Thread.isDead : Thread → Bool
  | dead _ => true
  | _ => false

namespace Pool

/-- The first so many indices, in order. -/
def indices (n : Nat) : List UInt64 :=
  (List.range n).map UInt64.ofNat

def held (p : Pool) : List UInt64 :=
  p.threads.filterMap Thread.held?

def lost (p : Pool) : List UInt64 :=
  p.threads.filterMap Thread.lost?

def queued (p : Pool) : List UInt64 :=
  p.queue.map (·.index)

def arrived (p : Pool) : List UInt64 :=
  p.delivered.map (·.index)

/-- The indices that are somewhere in the pool or have come out of it. -/
def spread (p : Pool) : List UInt64 :=
  p.held ++ p.lost ++ p.queued ++ p.arrived

/-- A step that advances the counter. -/
def Step.isClaim : Step → Bool
  | claim _ => true
  | _ => false

/-- How often the counter was advanced in a history. -/
def claims (history : List Step) : Nat :=
  history.countP Step.isClaim

/-- In how many places an index is, after so many claims: among the unclaimed, in the hands of a
live thread, lost with a dead one, in the queue, or among the delivered. -/
def places (p : Pool) (claims : Nat) (i : UInt64) : Nat :=
  (if claims ≤ i.toNat then 1 else 0) + p.held.count i + p.lost.count i + p.queued.count i
    + p.arrived.count i

theorem count_spread (p : Pool) (i : UInt64) :
    p.spread.count i
      = p.held.count i + p.lost.count i + p.queued.count i + p.arrived.count i := by
  simp only [spread, List.count_append]

theorem claims_append (past : List Step) (s : Step) :
    claims (past ++ [s]) = claims past + if s.isClaim then 1 else 0 := by
  simp [claims, List.countP_append, List.countP_singleton]

theorem count_indices {n : Nat} (hn : n ≤ 2 ^ 64) (i : UInt64) :
    (indices n).count i = if i.toNat < n then 1 else 0 := by
  -- below 2^64 the words are numbers
  have hMap : (indices n).count i = (List.range n).count i.toNat := by
    rw [indices, List.count, List.countP_map, List.count]
    apply List.countP_congr
    intro k hk
    have hk' : k < 2 ^ 64 := by
      have := List.mem_range.mp hk
      omega
    simp only [Function.comp_apply, beq_iff_eq]
    constructor
    · rintro rfl
      exact (UInt64.toNat_ofNat_of_lt' hk').symm
    · rintro rfl
      exact UInt64.ofNat_toNat
  rw [hMap, List.count_range]

theorem length_indices (n : Nat) : (indices n).length = n := by
  simp [indices]

theorem mem_indices_iff {n i : UInt64} : i ∈ indices n.toNat ↔ i < n := by
  have hWord := n.toNat_lt
  rw [← List.count_pos_iff, count_indices (by omega), UInt64.lt_iff_toNat_lt]
  split <;> simp_all

theorem pairwise_lt_indices {n : Nat} (hn : n ≤ 2 ^ 64) : (indices n).Pairwise (· < ·) := by
  rw [indices, List.pairwise_map]
  refine List.pairwise_lt_range.imp_of_mem fun {a b} ha hb hLt => ?_
  have ha := List.mem_range.mp ha
  have hb := List.mem_range.mp hb
  rw [UInt64.lt_iff_toNat_lt, UInt64.toNat_ofNat_of_lt' (Nat.lt_of_lt_of_le ha hn),
    UInt64.toNat_ofNat_of_lt' (Nat.lt_of_lt_of_le hb hn)]
  exact hLt

-- ---------------------------------------------------------------------------
-- One thread changes
-- ---------------------------------------------------------------------------

/-- When one thread changes, a count over the threads changes by what that thread counts. -/
theorem countP_setThread {p : Pool} {t : Nat} {old : Thread} (h : p.threads[t]? = some old)
    (new : Thread) (test : Thread → Bool) :
    (p.threads.set t new).countP test + (if test old then 1 else 0)
      = p.threads.countP test + if test new then 1 else 0 := by
  obtain ⟨ht, hOld⟩ := List.getElem?_eq_some_iff.mp h
  rw [List.countP_set ht, hOld]
  have hPos : (if test old = true then 1 else 0) ≤ p.threads.countP test := by
    split
    · next hTest => exact List.countP_pos_iff.mpr ⟨old, List.mem_of_getElem? h, hTest⟩
    · exact Nat.zero_le _
  omega

theorem count_filterMap_setThread {β : Type} [BEq β] [LawfulBEq β] {p : Pool} {t : Nat}
    {old : Thread} (h : p.threads[t]? = some old) (new : Thread) (f : Thread → Option β) (b : β) :
    ((p.threads.set t new).filterMap f).count b + (if f old == some b then 1 else 0)
      = (p.threads.filterMap f).count b + if f new == some b then 1 else 0 := by
  rw [List.count_filterMap, List.count_filterMap]
  exact countP_setThread h new fun th => f th == some b

/-- What a pool spreads after one of its threads has changed and the queue has grown. -/
private theorem count_spread_setThread {p : Pool} {t : Nat} {old : Thread}
    (h : p.threads[t]? = some old) (new : Thread) (counter : UInt64) (more : List WorkerResult)
    (i : UInt64) :
    (spread { p with
        threads := p.threads.set t new
        counter := counter
        queue := p.queue ++ more }).count i
        + (if old.held? = some i then 1 else 0) + (if old.lost? = some i then 1 else 0)
      = p.spread.count i + (if new.held? = some i then 1 else 0)
        + (if new.lost? = some i then 1 else 0) + (more.map (·.index)).count i := by
  have hHeld := count_filterMap_setThread h new Thread.held? i
  have hLost := count_filterMap_setThread h new Thread.lost? i
  simp only [beq_iff_eq, count_spread, held, lost, queued, arrived, delivered, List.map_append,
    List.count_append] at hHeld hLost ⊢
  omega

-- ---------------------------------------------------------------------------
-- What a step does to the indices
-- ---------------------------------------------------------------------------

/-- The index that a step claims, as a count. -/
def newly (p : Pool) (s : Step) (i : UInt64) : Nat :=
  if s.isClaim ∧ p.counter < p.count ∧ p.counter = i then 1 else 0

/-- A step that claims nothing has only to keep the claimed indices. -/
private theorem spread_kept {p q : Pool} {s : Step} {i : UInt64} (hClaim : s.isClaim = false)
    (h : q.spread.count i = p.spread.count i) :
    q.spread.count i ≤ p.spread.count i + p.newly s i ∧
      (p.caller ≠ .gone → q.spread.count i = p.spread.count i + p.newly s i) := by
  simp [newly, hClaim, h]

private theorem count_spread_deliver {p q : Pool} {r : WorkerResult} {rest : List WorkerResult}
    (hThreads : q.threads = p.threads) (hBefore : p.queue = r :: rest) (hAfter : q.queue = rest)
    (hDelivered : q.delivered.Perm (r :: p.delivered)) (i : UInt64) :
    q.spread.count i = p.spread.count i := by
  have hArrived := (hDelivered.map (·.index)).count_eq i
  simp only [count_spread, held, lost, queued, arrived, hThreads, hBefore, hAfter, List.map_cons,
    List.count_cons] at hArrived ⊢
  omega

/-- **One step.** A claim adds the counter to the claimed indices. No other step adds one, and none
is taken away unless the caller is gone. -/
theorem spread_move {p q : Pool} {s : Step} (h : Move p s q) (i : UInt64) :
    q.spread.count i ≤ p.spread.count i + p.newly s i ∧
      (p.caller ≠ .gone → q.spread.count i = p.spread.count i + p.newly s i) := by
  cases h with
  | start hCaller hLength =>
    -- a new thread holds no index and has lost none
    refine spread_kept rfl ?_
    simp only [count_spread, held, lost, queued, arrived, delivered, List.filterMap_append,
      List.count_append]
    rfl
  | refuse | ready | takeNone | takeLast | collectNone | join | close | drop =>
    exact spread_kept rfl rfl
  | @claim t hThread hIndex =>
    -- the counter goes into the hands of the thread, which is the index newly claimed
    have hCount := count_spread_setThread hThread (.working p.counter) (p.counter + 1) [] i
    simp only [Thread.held?, Thread.lost?, List.append_nil, List.map_nil, List.count_nil] at hCount
    simp [setThread, newly, Step.isClaim, hIndex] at hCount ⊢
    omega
  | @leave t hThread hIndex =>
    -- a claim in vain claims no index
    have hCount := count_spread_setThread hThread .left (p.counter + 1) [] i
    simp only [Thread.held?, Thread.lost?, List.append_nil, List.map_nil, List.count_nil] at hCount
    simp [setThread, newly, hIndex] at hCount ⊢
    omega
  | @finish t r hThread =>
    -- the index stays with its thread, from now on in a result
    have hCount := count_spread_setThread hThread (.sending r) p.counter [] i
    refine spread_kept rfl ?_
    simp [Thread.held?, Thread.lost?] at hCount
    exact hCount
  | @crash t j hThread =>
    -- the index stays with its thread, as lost
    have hCount := count_spread_setThread hThread (.dead j) p.counter [] i
    refine spread_kept rfl ?_
    simp [Thread.held?, Thread.lost?] at hCount
    exact hCount
  | @send t r hThread hCaller =>
    -- the index goes from the thread into the queue
    have hCount := count_spread_setThread hThread .idle p.counter [r] i
    refine spread_kept rfl ?_
    simp [Thread.held?, Thread.lost?, List.count_singleton] at hCount
    exact hCount
  | @discard t r hThread hCaller =>
    -- nobody listens: the index is gone, which is the only way to lose one without a death
    have hCount := count_spread_setThread hThread .left p.counter [] i
    simp [Thread.held?, Thread.lost?] at hCount
    refine ⟨?_, fun hListens => absurd hCaller hListens⟩
    simp only [setThread]
    omega
  | take hCaller hMore hLeft hQueue =>
    -- the result goes from the queue to the caller, to the front or to the back of what it has
    refine spread_kept rfl ?_
    refine count_spread_deliver ?_ hQueue ?_ ?_ i
    · rfl
    · rfl
    · simp only [delivered]
      exact (List.perm_append_singleton _ _).append_right _
  | collect hCaller hLeft hQueue =>
    refine spread_kept rfl ?_
    refine count_spread_deliver ?_ hQueue ?_ ?_ i
    · rfl
    · rfl
    · simp only [delivered, ← List.append_assoc]
      exact List.perm_append_singleton _ _

-- ---------------------------------------------------------------------------
-- The account of a history
-- ---------------------------------------------------------------------------

/-- What a pool owes to the number of claims that were made. -/
structure Tally (claims : Nat) (p : Pool) : Prop where
  counter_eq : p.counter.toNat = claims % 2 ^ 64
  /-- Each claim beyond the workers made a thread leave. -/
  overshoot_le : claims - p.count.toNat ≤ p.threads.countP Thread.hasLeft
  overshoot_eq : p.caller ≠ .gone → claims - p.count.toNat = p.threads.countP Thread.hasLeft
  /-- No index that was claimed is in two places. -/
  spread_le : ∀ i, p.spread.count i ≤ if i.toNat < min claims p.count.toNat then 1 else 0
  /-- As long as the caller is there, each of them is in one. -/
  spread_eq : p.caller ≠ .gone →
    ∀ i, p.spread.count i = if i.toNat < min claims p.count.toNat then 1 else 0
  remaining_eq : p.remaining.toNat + p.delivered.length = p.count.toNat

theorem Tally.fresh (count : UInt64) (maxConcurrent : Option UInt64) (demand : Demand) :
    Tally 0 (fresh count maxConcurrent demand) where
  counter_eq := rfl
  overshoot_le := by simp [Pool.fresh]
  overshoot_eq := by simp [Pool.fresh]
  spread_le := by simp [Pool.fresh, count_spread, held, lost, queued, arrived, delivered]
  spread_eq := by simp [Pool.fresh, count_spread, held, lost, queued, arrived, delivered]
  remaining_eq := by simp [Pool.fresh, delivered]

theorem countP_hasLeft_lt {p : Pool} {t : Nat} (h : p.threads[t]? = some .idle) :
    p.threads.countP Thread.hasLeft < p.threads.length := by
  have hCount := countP_setThread h .left Thread.hasLeft
  have hLe := List.countP_le_length (p := Thread.hasLeft) (l := p.threads.set t .left)
  simp only [Thread.hasLeft, List.length_set] at hCount hLe
  simp at hCount
  omega

/-- **No claim with a wrapped counter.** If the workers and the threads fit the words together, a
thread that is about to claim finds the number of claims made before. -/
theorem Tally.counter_eq_claims {p : Pool} {claims t : Nat} (hTally : Tally claims p)
    (hStaffed : Staffed p) (hFit : p.count.toNat + p.threadLimit ≤ 2 ^ 64)
    (hThread : p.threads[t]? = some .idle) : p.counter.toNat = claims := by
  have hLeft := countP_hasLeft_lt hThread
  have hOver := hTally.overshoot_le
  have hLength := hStaffed.length_le
  rw [hTally.counter_eq]
  exact Nat.mod_eq_of_lt (by omega)

theorem counter_move {p q : Pool} {s : Step} (h : Move p s q) :
    q.counter.toNat = (p.counter.toNat + if s.isClaim then 1 else 0) % 2 ^ 64 := by
  have hWord := p.counter.toNat_lt
  cases h with
  | claim | leave => simp [Step.isClaim, UInt64.toNat_add]
  | start | refuse | ready | finish | crash | send | discard | take | takeNone | takeLast | collect
  | collectNone | join | close | drop =>
    simp only [Step.isClaim, setThread, Bool.false_eq_true, if_false, Nat.add_zero]
    omega

theorem exists_idle_of_claim {p q : Pool} {s : Step} (h : Move p s q) (hClaim : s.isClaim = true) :
    ∃ t : Nat, p.threads[t]? = some Thread.idle := by
  cases h with
  | claim hThread => exact ⟨_, hThread⟩
  | leave hThread => exact ⟨_, hThread⟩
  | start | refuse | ready | finish | crash | send | discard | take | takeNone | takeLast | collect
  | collectNone | join | close | drop => simp [Step.isClaim] at hClaim

/-- A thread leaves when it claims in vain, or when the caller is gone. -/
theorem countP_hasLeft_move {p q : Pool} {s : Step} (h : Move p s q) :
    p.threads.countP Thread.hasLeft + (if s.isClaim ∧ ¬ p.counter < p.count then 1 else 0)
        ≤ q.threads.countP Thread.hasLeft ∧
      (p.caller ≠ .gone → q.threads.countP Thread.hasLeft = p.threads.countP Thread.hasLeft
        + if s.isClaim ∧ ¬ p.counter < p.count then 1 else 0) := by
  cases h with
  | start => simp [Step.isClaim, Thread.hasLeft]
  | refuse | ready | take | takeNone | takeLast | collect | collectNone | join | close | drop =>
    simp [Step.isClaim]
  | claim hThread hIndex =>
    have hCount := countP_setThread hThread (.working p.counter) Thread.hasLeft
    simp [Thread.hasLeft] at hCount
    simp [Step.isClaim, setThread, hIndex, hCount]
  | leave hThread hIndex =>
    have hCount := countP_setThread hThread .left Thread.hasLeft
    simp [Thread.hasLeft] at hCount
    simp [Step.isClaim, setThread, hIndex, hCount]
  | @finish t r hThread =>
    have hCount := countP_setThread hThread (.sending r) Thread.hasLeft
    simp [Thread.hasLeft] at hCount
    simp [Step.isClaim, setThread, hCount]
  | @crash t i hThread =>
    have hCount := countP_setThread hThread (.dead i) Thread.hasLeft
    simp [Thread.hasLeft] at hCount
    simp [Step.isClaim, setThread, hCount]
  | send hThread hCaller =>
    have hCount := countP_setThread hThread .idle Thread.hasLeft
    simp [Thread.hasLeft] at hCount
    simp [Step.isClaim, setThread, hCount]
  | discard hThread hCaller =>
    have hCount := countP_setThread hThread .left Thread.hasLeft
    simp [Thread.hasLeft] at hCount
    simp [Step.isClaim, setThread, hCaller, hCount]

/-- Each result that is delivered is one less to expect. -/
theorem remaining_move {p q : Pool} {s : Step} (h : Move p s q) :
    q.remaining.toNat + q.delivered.length = p.remaining.toNat + p.delivered.length := by
  -- the word of what is left does not fall below zero
  have hOne (hLeft : p.remaining ≠ 0) :
      (p.remaining - 1).toNat + 1 = p.remaining.toNat := by
    have hPos : p.remaining.toNat ≠ 0 := fun hZero => hLeft (UInt64.toNat_inj.mp hZero)
    have hLe : (1 : UInt64) ≤ p.remaining := by
      rw [UInt64.le_iff_toNat_le]
      simpa using Nat.one_le_iff_ne_zero.mpr hPos
    rw [UInt64.toNat_sub_of_le _ _ hLe]
    simp only [UInt64.toNat_one]
    omega
  cases h with
  | take hCaller hMore hLeft hQueue =>
    have := hOne hLeft
    simp only [delivered, List.length_append, List.length_singleton]
    omega
  | collect hCaller hLeft hQueue =>
    have := hOne hLeft
    simp only [delivered, List.length_append, List.length_singleton]
    omega
  | start | refuse | ready | claim | leave | finish | crash | send | discard | takeNone | takeLast
  | collectNone | join | close | drop => rfl

/-- A claim that finds the number of claims made before extends the claimed indices by one. -/
private theorem newly_eq {p : Pool} {s : Step} {claims : Nat}
    (hCounter : s.isClaim = true → p.counter.toNat = claims) (i : UInt64) :
    (if i.toNat < min claims p.count.toNat then 1 else 0) + p.newly s i
      = if i.toNat < min (claims + if s.isClaim then 1 else 0) p.count.toNat then 1 else 0 := by
  unfold newly
  by_cases hClaim : s.isClaim = true
  · have hClaims := hCounter hClaim
    simp only [hClaim, UInt64.lt_iff_toNat_lt, ← UInt64.toNat_inj, hClaims, if_true, true_and]
    split_ifs <;> omega
  · simp [hClaim]

/-- **The account of a step.** -/
theorem Tally.move {p q : Pool} {s : Step} {claims : Nat} (hTally : Tally claims p)
    (hStaffed : Staffed p) (hFit : p.count.toNat + p.threadLimit ≤ 2 ^ 64) (h : Move p s q) :
    Tally (claims + if s.isClaim then 1 else 0) q := by
  have hCount : q.count = p.count := h.sameOrder.count_eq
  have hCounter : s.isClaim = true → p.counter.toNat = claims := fun hClaim => by
    obtain ⟨t, hThread⟩ := exists_idle_of_claim h hClaim
    -- a thread is about to claim, and the counter has not wrapped as long as one is
    exact hTally.counter_eq_claims hStaffed hFit hThread
  -- a claim is in vain exactly if the claims have used up the workers
  have hVain : (claims + if s.isClaim then 1 else 0) - p.count.toNat
      = claims - p.count.toNat + if s.isClaim ∧ ¬ p.counter < p.count then 1 else 0 := by
    by_cases hClaim : s.isClaim = true
    · simp only [hClaim, UInt64.lt_iff_toNat_lt, hCounter hClaim, if_true, true_and]
      split_ifs <;> omega
    · simp [hClaim]
  obtain ⟨hLeftLe, hLeftEq⟩ := countP_hasLeft_move h
  refine ⟨?counter, ?overLe, ?overEq, ?spreadLe, ?spreadEq, ?remaining⟩
  case counter =>
    rw [counter_move h, hTally.counter_eq]
    omega
  case overLe =>
    have := hTally.overshoot_le
    -- the threads that have left make up for the claims in vain
    rw [hCount, hVain]
    omega
  case overEq =>
    intro hCaller
    have := hTally.overshoot_eq (h.listened hCaller)
    have := hLeftEq (h.listened hCaller)
    rw [hCount, hVain]
    omega
  case spreadLe =>
    intro i
    have := (spread_move h i).1
    have := hTally.spread_le i
    -- the claimed indices grow as what is spread does
    rw [hCount, ← newly_eq hCounter]
    omega
  case spreadEq =>
    intro hCaller i
    have := (spread_move h i).2 (h.listened hCaller)
    have := hTally.spread_eq (h.listened hCaller) i
    rw [hCount, ← newly_eq hCounter]
    omega
  case remaining =>
    rw [remaining_move h, hCount]
    exact hTally.remaining_eq

/-- What a history leaves behind. -/
structure Outline (start : Pool) (history : List Step) (p : Pool) : Prop where
  order : SameOrder start p
  staffed : Staffed p
  spent : Spent p
  tally : Tally (claims history) p

/-- **The account of a history.** -/
theorem outline_of_after? {count : UInt64} {maxConcurrent : Option UInt64} {demand : Demand}
    {history : List Step} {p : Pool}
    (hFit : count.toNat + (threadCount count maxConcurrent).toNat ≤ 2 ^ 64)
    (hHistory : (fresh count maxConcurrent demand).after? history = some p) :
    Outline (fresh count maxConcurrent demand) history p := by
  refine after?_induction hHistory ?start ?step
  case start =>
    exact ⟨.refl _, ⟨Nat.zero_le _, by simp [fresh]⟩, ⟨by simp [fresh], by simp [fresh]⟩,
      .fresh count maxConcurrent demand⟩
  case step =>
    intro past s q r hPast hMove
    have hRoom : q.count.toNat + q.threadLimit ≤ 2 ^ 64 := by
      rw [hPast.order.count_eq, hPast.order.limit_eq]
      exact hFit
    refine ⟨hPast.order.trans hMove.sameOrder, hPast.staffed.move hMove, hPast.spent.move hMove, ?_⟩
    rw [claims_append]
    exact hPast.tally.move hPast.staffed hRoom hMove

-- ---------------------------------------------------------------------------
-- What the caller gets
-- ---------------------------------------------------------------------------

variable {p : Pool} {n : Nat}

/-- As long as the caller is there, the indices claimed so far are exactly those in the pool. -/
theorem Tally.spread_perm (hTally : Tally n p) (hCaller : p.caller ≠ .gone) :
    p.spread.Perm (indices (min n p.count.toNat)) := by
  rw [List.perm_iff_count]
  intro i
  have hWord := p.count.toNat_lt
  rw [hTally.spread_eq hCaller i, count_indices (by omega) i]

/-- A pool that is over has nothing in its queue and no index in the hands of a thread. -/
theorem Tally.nothing_pending (hTally : Tally n p) (hSpent : Spent p)
    (hCaller : p.caller = .finished) : p.held = [] ∧ p.queued = [] := by
  have hOver := hSpent.allOver hCaller
  constructor
  · rw [held, List.filterMap_eq_nil_iff]
    intro th hth
    have := List.all_eq_true.mp hOver th hth
    cases th <;> simp_all [Thread.isOver, Thread.held?]
  · rcases hSpent.isDry (.inr hCaller) with hNone | ⟨hEmpty, -⟩
    · -- everything was delivered, so there is no index left for the queue
      have hLength := (hTally.spread_perm (by simp [hCaller])).length_eq
      have hDelivered := hTally.remaining_eq
      simp only [hNone, UInt64.toNat_zero, length_indices, spread, arrived, List.length_append,
        List.length_map] at hLength hDelivered
      rw [← List.length_eq_zero_iff]
      omega
    · simp [queued, hEmpty]

/-- What is missing in the end was lost with a thread or never claimed. -/
theorem Tally.not_mem_arrived_iff (hTally : Tally n p) (hSpent : Spent p)
    (hCaller : p.caller = .finished) {i : UInt64} (hi : i < p.count) :
    i ∉ p.arrived ↔ i ∈ p.lost ∨ n ≤ i.toNat := by
  obtain ⟨hHeld, hQueued⟩ := hTally.nothing_pending hSpent hCaller
  have hCount := hTally.spread_eq (by simp [hCaller]) i
  rw [count_spread, hHeld, hQueued] at hCount
  rw [UInt64.lt_iff_toNat_lt] at hi
  rw [← List.count_eq_zero, ← List.count_pos_iff]
  split_ifs at hCount <;> simp only [List.count_nil] at hCount <;> omega

/-- If a thread of a pool that is over is not dead, the indices have been used up. -/
theorem Tally.count_lt (hTally : Tally n p) (hSpent : Spent p) (hCaller : p.caller = .finished)
    {th : Thread} (hth : th ∈ p.threads) (hAlive : th.isDead = false) : p.count.toNat < n := by
  have hOver := List.all_eq_true.mp (hSpent.allOver hCaller) th hth
  have hLeft : 0 < p.threads.countP Thread.hasLeft := by
    refine List.countP_pos_iff.mpr ⟨th, hth, ?_⟩
    cases th <;> simp_all [Thread.isOver, Thread.isDead, Thread.hasLeft]
  have := hTally.overshoot_eq (by simp [hCaller])
  omega

theorem nodup_spread (hTally : Tally n p) : p.spread.Nodup := by
  rw [List.nodup_iff_count_le_one]
  intro i
  have hLe := hTally.spread_le i
  split_ifs at hLe <;> omega

theorem lt_count_of_mem_spread (hTally : Tally n p) {i : UInt64} (hi : i ∈ p.spread) :
    i < p.count := by
  have hLe := hTally.spread_le i
  have hPos := List.count_pos_iff.mpr hi
  rw [UInt64.lt_iff_toNat_lt]
  split_ifs at hLe <;> omega

theorem nodup_arrived (hTally : Tally n p) : p.arrived.Nodup :=
  (nodup_spread hTally).sublist (List.sublist_append_right _ _)

theorem lt_count_of_mem_arrived (hTally : Tally n p) {i : UInt64} (hi : i ∈ p.arrived) :
    i < p.count :=
  lt_count_of_mem_spread hTally (List.mem_append_right _ hi)

theorem toNat_threadCount (count : UInt64) (maxConcurrent : Option UInt64) :
    (threadCount count maxConcurrent).toNat
      = min (max (maxConcurrent.getD count).toNat 1) count.toNat := by
  rw [threadCount, UInt64.toNat_min, UInt64.toNat_max, UInt64.toNat_one]

/-- A pool with workers that is over has had threads. -/
theorem exists_thread {count : UInt64} {maxConcurrent : Option UInt64} {demand : Demand}
    {history : List Step} (hOutline : Outline (fresh count maxConcurrent demand) history p)
    (hCaller : p.caller = .finished) (hPos : 0 < count.toNat) : ∃ th, th ∈ p.threads := by
  have hLength := hOutline.staffed.length_eq (by simp [hCaller]) (by simp [hCaller])
  have hLimit : p.threadLimit = (threadCount count maxConcurrent).toNat := hOutline.order.limit_eq
  rw [hLimit, toNat_threadCount] at hLength
  exact List.exists_mem_of_length_pos (by omega)

/-- If no thread has died, all indices have arrived in the end. -/
theorem arrived_perm_of_alive {count : UInt64} {maxConcurrent : Option UInt64} {demand : Demand}
    {history : List Step} (hOutline : Outline (fresh count maxConcurrent demand) history p)
    (hCaller : p.caller = .finished) (hAlive : ∀ th ∈ p.threads, th.isDead = false) :
    p.arrived.Perm (indices p.count.toNat) := by
  have hCount : p.count = count := hOutline.order.count_eq
  -- what is lost is lost with a dead thread
  have hLost : p.lost = [] := by
    rw [lost, List.filterMap_eq_nil_iff]
    intro th hth
    have := hAlive th hth
    cases th <;> simp_all [Thread.isDead, Thread.lost?]
  obtain ⟨hHeld, hQueued⟩ := hOutline.tally.nothing_pending hOutline.spent hCaller
  have hPerm := hOutline.tally.spread_perm (by simp [hCaller])
  -- so all that is spread has arrived
  simp only [spread, hHeld, hLost, hQueued, List.nil_append] at hPerm
  rcases Nat.eq_zero_or_pos p.count.toNat with hZero | hPos
  · rw [hZero, Nat.min_zero] at hPerm
    rw [hZero]
    exact hPerm
  · -- a thread that is not dead left because there was no index for it
    obtain ⟨th, hth⟩ := exists_thread hOutline hCaller (by rw [← hCount]; exact hPos)
    have := hOutline.tally.count_lt hOutline.spent hCaller hth (hAlive th hth)
    rwa [Nat.min_eq_right (by omega)] at hPerm

/--
**Each index once.** Whatever the threads and the caller of a pool do, in whatever order, and
however many workers die: as long as the caller has not dropped the pool, every index of a worker
is in exactly one place, no other index is anywhere, and the caller still expects what it has not
got. So when the caller is done, be it that it took so many results first and collected the rest:

* no index came twice, and none that is no worker's;
* if no worker died, every worker's index came;
* if some thread did not die, exactly the indices lost with dead threads are missing;
* if all threads died, the indices that nobody claimed are missing too.

The counter is the number of claims as long as that fits a word, and in any case as long as there
is a thread left to claim.
-/
theorem each_index_once {count : UInt64} {maxConcurrent : Option UInt64} {demand : Demand}
    {history : List Step}
    (hFit : count.toNat + (threadCount count maxConcurrent).toNat ≤ 2 ^ 64)
    (hHistory : (fresh count maxConcurrent demand).after? history = some p)
    (hCaller : p.caller ≠ .gone) :
    (∀ i < count, p.places (claims history) i = 1) ∧
    (∀ i ∈ p.spread, i < count) ∧
    claims history ≤ count.toNat + (threadCount count maxConcurrent).toNat ∧
    p.counter.toNat = claims history % 2 ^ 64 ∧
    (.idle ∈ p.threads → p.counter.toNat = claims history) ∧
    p.delivered.length ≤ count.toNat ∧
    p.remaining.toNat = count.toNat - p.delivered.length ∧
    (p.caller = .finished →
      p.arrived.Nodup ∧
      (∀ i ∈ p.arrived, i < count) ∧
      ((∀ th ∈ p.threads, th.isDead = false) → p.arrived.Perm (indices count.toNat)) ∧
      ((∃ th ∈ p.threads, th.isDead = false) → ∀ i < count, i ∉ p.arrived ↔ i ∈ p.lost) ∧
      ((∀ th ∈ p.threads, th.isDead = true) →
        ∀ i < count, i ∉ p.arrived ↔ i ∈ p.lost ∨ claims history ≤ i.toNat)) := by
  have hOutline := outline_of_after? hFit hHistory
  obtain ⟨⟨hCount, hLimit, -⟩, hStaffed, hSpent, hTally⟩ := hOutline
  replace hCount : p.count = count := hCount
  replace hLimit : p.threadLimit = (threadCount count maxConcurrent).toNat := hLimit
  have hRemaining := hTally.remaining_eq
  rw [hCount] at hRemaining
  refine ⟨?place, fun i hi => hCount ▸ lt_count_of_mem_spread hTally hi, ?few, hTally.counter_eq,
    ?idle, by omega, by omega, ?done⟩
  case place =>
    intro i hi
    -- places and what is spread differ in the indices that nobody has claimed yet
    have hSpread := hTally.spread_eq hCaller i
    rw [count_spread, hCount] at hSpread
    rw [UInt64.lt_iff_toNat_lt] at hi
    unfold places
    split_ifs at hSpread ⊢ <;> omega
  case few =>
    -- claims beyond the workers made threads leave, and there are no more of these than threads
    have hLeft := hTally.overshoot_le
    have hThreads := List.countP_le_length (p := Thread.hasLeft) (l := p.threads)
    have hLength := hStaffed.length_le
    rw [hCount] at hLeft
    omega
  case idle =>
    intro hIdle
    obtain ⟨t, ht⟩ := List.getElem?_of_mem hIdle
    exact hTally.counter_eq_claims hStaffed (by rw [hCount, hLimit]; exact hFit) ht
  case done =>
    intro hDone
    -- nothing is pending, so an index is missing if it is lost or was never claimed
    have hMissing {i : UInt64} (hi : i < count) :=
      hTally.not_mem_arrived_iff hSpent hDone (i := i) (by rw [hCount]; exact hi)
    have hUsed {th : Thread} (hth : th ∈ p.threads) (hAlive : th.isDead = false) :=
      hTally.count_lt hSpent hDone hth hAlive
    refine ⟨nodup_arrived hTally, fun i hi => hCount ▸ lt_count_of_mem_arrived hTally hi, ?whole,
      ?some, ?none⟩
    case whole =>
      intro hAlive
      rw [← hCount]
      exact arrived_perm_of_alive (outline_of_after? hFit hHistory) hDone hAlive
    case some =>
      -- a thread that is not dead has left, and that needs a claim in vain
      rintro ⟨th, hth, hAlive⟩ i hi
      have := hUsed hth hAlive
      rw [hCount] at this
      rw [hMissing hi]
      rw [UInt64.lt_iff_toNat_lt] at hi
      constructor
      · rintro (hLost | hLate)
        · exact hLost
        · omega
      · exact .inl
    case none =>
      intro _ i hi
      exact hMissing hi

/-- One thread that dies at its second worker, and a caller that takes one result before it
collects: the first index is delivered, the second is lost. -/
theorem each_index_once_of_crash :
    let r : WorkerResult := ⟨0, .matched 11, 0, 1⟩
    let history : List Step := [.start, .ready, .claim 0, .finish 0 r, .send 0, .take, .join,
      .claim 0, .crash 0, .take, .close]
    ∃ p, (fresh 2 (some 1) (.first 1)).after? history = some p ∧ p.caller = .finished ∧
      p.arrived = [0] ∧ p.lost = [1] ∧ p.places (claims history) 0 = 1 ∧
      p.places (claims history) 1 = 1 ∧ p.arrived.Nodup := by
  intro r history
  have hFit : (2 : UInt64).toNat + (threadCount 2 (some 1)).toNat ≤ 2 ^ 64 := by decide
  obtain ⟨p, hp⟩ : ∃ p, (fresh 2 (some 1) (.first 1)).after? history = some p :=
    Option.isSome_iff_exists.mp (by decide +kernel)
  have hEnd : ((fresh 2 (some 1) (.first 1)).after? history).map
      (fun p => (p.caller, p.arrived, p.lost)) = some (.finished, [0], [1]) := by decide +kernel
  rw [hp] at hEnd
  simp only [Option.map_some, Option.some.injEq, Prod.mk.injEq] at hEnd
  obtain ⟨hDone, hArrived, hLost⟩ := hEnd
  have h := each_index_once hFit hp (by simp [hDone])
  refine ⟨p, hp, hDone, hArrived, hLost, h.1 0 (by decide), h.1 1 (by decide), ?_⟩
  exact (h.2.2.2.2.2.2.2 hDone).1

end Pool

end ProxyAudit
