import Mathlib
import ProxyAudit.Proofs.Pool.Records

/-!
# Counters that wrap

Every claim advances the counter, also the last claim of each thread, which finds no index left. So
a pool that is run to its end claims as often as it has workers and threads together. If these do
not fit the words, the counter comes back to zero before the last threads have left, and they begin
with the first workers again. A thread that had a share in the work before then hands in the first
index after all others.

Main results:

* `canReach_leaving`  — the claims that a pool can come to.
* `exists_wrapped`    — a history in which the last thread works alone, and begins again.
* `begun_twice_iff`   — the pools that can begin a worker twice.
-/

namespace ProxyAudit.Pool

variable {count : UInt64} {maxConcurrent : Option UInt64} {demand : Demand}

-- ---------------------------------------------------------------------------
-- What a pool can come to
-- ---------------------------------------------------------------------------

/-- The indices that are handed in in a history, each with the thread that did it. -/
def handed (start : Pool) (history : List Step) : List (Nat × UInt64) :=
  (start.sent history).map fun x => (x.1, x.2.index)

theorem ofThread_handed (start : Pool) (history : List Step) (t : Nat) :
    ofThread t (start.handed history) = (ofThread t (start.sent history)).map (·.index) := by
  simp [handed, ofThread, List.filter_map, Function.comp_def]

/-- A pool can come to so many claims, to such threads, and to such indices handed in, while its
caller still starts threads. -/
def CanReach (start : Pool) (n : Nat) (threads : List Thread) (record : List (Nat × UInt64)) :
    Prop :=
  ∃ history p, start.after? history = some p ∧ claims history = n ∧ p.caller = .starting ∧
    p.threads = threads ∧ start.handed history = record

namespace CanReach

theorem of_move {start p q : Pool} {history : List Step} {s : Step}
    (h : start.after? history = some p) (hMove : Move p s q) (hCaller : q.caller = .starting) :
    CanReach start (claims history + if s.isClaim then 1 else 0) q.threads
      (start.handed history ++ (handsIn (p, s)).toList.map fun x => (x.1, x.2.index)) := by
  refine ⟨history ++ [s], q, after?_concat h hMove, claims_append history s, hCaller, rfl, ?_⟩
  rw [handed, sent_append h, sent_singleton, List.map_append]
  rfl

variable {n t : Nat} {threads : List Thread} {record : List (Nat × UInt64)}
  (h : CanReach (fresh count maxConcurrent demand) n threads record)
include h

/-- A thread is started. -/
theorem start (hLength : threads.length < (threadCount count maxConcurrent).toNat) :
    CanReach (fresh count maxConcurrent demand) n (threads ++ [.idle]) record := by
  obtain ⟨history, p, hHistory, rfl, hCaller, rfl, rfl⟩ := h
  have hMore : p.threads.length < p.threadLimit := by
    rw [threadLimit_of_after? hHistory]
    exact hLength
  simpa [Step.isClaim, handsIn] using of_move hHistory (.start hCaller hMore) hCaller

/-- A thread claims an index, or leaves if there is none. -/
theorem claim (hThread : threads[t]? = some .idle) :
    CanReach (fresh count maxConcurrent demand) (n + 1)
      (threads.set t (if .ofNat n < count then .working (.ofNat n) else .left)) record := by
  obtain ⟨history, p, hHistory, rfl, hCaller, rfl, rfl⟩ := h
  have hCount : p.count = count := (sameOrder_of_after? hHistory).count_eq
  rw [← counter_of_after? hHistory]
  by_cases hIndex : p.counter < count
  · rw [if_pos hIndex]
    have hMoved := of_move hHistory (.claim hThread (hCount ▸ hIndex)) hCaller
    simpa [Step.isClaim, handsIn, setThread] using hMoved
  · rw [if_neg hIndex]
    have hMoved := of_move hHistory (.leave hThread (hCount ▸ hIndex)) hCaller
    simpa [Step.isClaim, handsIn, setThread] using hMoved

/-- A worker is done, and its result is handed in. -/
theorem handIn {i : UInt64} (hThread : threads[t]? = some (.working i)) :
    CanReach (fresh count maxConcurrent demand) n (threads.set t .idle) (record ++ [(t, i)]) := by
  obtain ⟨history, p, hHistory, rfl, hCaller, rfl, rfl⟩ := h
  let r : WorkerResult := ⟨i, .matched 0, 0, 0⟩
  have hFinish : Move p (.finish t r) (p.setThread t (.sending r)) := .finish hThread
  have hSending : (p.setThread t (.sending r)).threads[t]? = some (.sending r) := by
    have hLength : t < p.threads.length := (List.getElem?_eq_some_iff.mp hThread).1
    simp [setThread, hLength]
  have hListens : (p.setThread t (.sending r)).caller ≠ .gone := by
    show p.caller ≠ .gone
    simp [hCaller]
  have hDone := after?_concat hHistory hFinish
  -- to be done with the work hands nothing in yet
  have hNothing : (fresh count maxConcurrent demand).handed (history ++ [.finish t r])
      = (fresh count maxConcurrent demand).handed history := by
    rw [handed, sent_append hHistory, sent_singleton]
    simp [handsIn, handed]
  have hSent := of_move hDone (.send hSending hListens) hCaller
  rw [claims_append, handsIn_send hSending hListens, hNothing] at hSent
  simpa [setThread, Step.isClaim] using hSent

end CanReach

-- ---------------------------------------------------------------------------
-- Running to the end
-- ---------------------------------------------------------------------------

/-- All threads can be started before any of them claims an index. -/
theorem canReach_started {k : Nat} (hk : k ≤ (threadCount count maxConcurrent).toNat) :
    CanReach (fresh count maxConcurrent demand) 0 (List.replicate k .idle) [] := by
  induction k with
  | zero => exact ⟨[], _, rfl, rfl, rfl, rfl, rfl⟩
  | succ k ih =>
    rw [List.replicate_succ']
    exact (ih (by omega)).start (by simpa using hk)

theorem indices_succ (n : Nat) : indices (n + 1) = indices n ++ [.ofNat n] := by
  simp [indices, List.range_succ]

/-- One thread can run every worker. -/
theorem canReach_working {n t : Nat} (hn : n ≤ count.toNat)
    (ht : t < (threadCount count maxConcurrent).toNat) :
    CanReach (fresh count maxConcurrent demand) n
      (List.replicate (threadCount count maxConcurrent).toNat .idle)
      ((indices n).map fun i => (t, i)) := by
  induction n with
  | zero => exact canReach_started le_rfl
  | succ n ih =>
    have hIdle : (List.replicate (threadCount count maxConcurrent).toNat Thread.idle)[t]?
        = some .idle := by
      rw [List.getElem?_replicate, if_pos ht]
    -- the counter is the number of claims, and the bound is not reached yet
    have hIndex : UInt64.ofNat n < count := by
      rw [UInt64.lt_iff_toNat_lt, UInt64.toNat_ofNat']
      have := Nat.mod_le n (2 ^ 64)
      omega
    have hClaimed := (ih (by omega)).claim hIdle
    rw [if_pos hIndex] at hClaimed
    have hDone := hClaimed.handIn (t := t) (i := .ofNat n) (by simp [ht])
    rw [indices_succ, List.map_append]
    simpa using hDone

theorem getElem?_leaving {k m j : Nat} (hk : k ≤ j) (hj : j < m) :
    (List.replicate k Thread.left ++ List.replicate (m - k) .idle)[j]? = some .idle := by
  rw [List.getElem?_append_right (by simpa using hk), List.length_replicate,
    List.getElem?_replicate, if_pos (by omega)]

/-- When all workers have been run, the threads leave one after the other. -/
theorem canReach_leaving {k t : Nat} (hk : k ≤ (threadCount count maxConcurrent).toNat)
    (ht : t < (threadCount count maxConcurrent).toNat) (hWord : count.toNat + k ≤ 2 ^ 64) :
    CanReach (fresh count maxConcurrent demand) (count.toNat + k)
      (List.replicate k .left ++
        List.replicate ((threadCount count maxConcurrent).toNat - k) .idle)
      ((indices count.toNat).map fun i => (t, i)) := by
  induction k with
  | zero => simpa using canReach_working le_rfl ht
  | succ k ih =>
    -- the counter has passed the workers, and the words have still room for it
    have hNoIndex : ¬ UInt64.ofNat (count.toNat + k) < count := by
      rw [UInt64.lt_iff_toNat_lt, UInt64.toNat_ofNat']
      omega
    have hLeft := (ih (by omega) (by omega)).claim (getElem?_leaving le_rfl (by omega))
    rw [if_neg hNoIndex] at hLeft
    -- one idle thread less, one more that has left
    have hRest : (threadCount count maxConcurrent).toNat - k
        = ((threadCount count maxConcurrent).toNat - (k + 1)) + 1 := by omega
    rw [hRest, List.replicate_succ] at hLeft
    rw [List.replicate_succ', List.append_assoc, ← Nat.add_assoc]
    simpa using hLeft

-- ---------------------------------------------------------------------------
-- Wrapping
-- ---------------------------------------------------------------------------

/-- Where the workers and the threads do not fit the words together, there are workers. -/
theorem count_pos_of_over
    (hOver : 2 ^ 64 < count.toNat + (threadCount count maxConcurrent).toNat) : 0 < count := by
  have hThreads := Pool.threadCount_le count maxConcurrent
  rw [UInt64.le_iff_toNat_le] at hThreads
  rw [UInt64.lt_iff_toNat_lt, UInt64.toNat_zero]
  omega

/-- **A pool that begins again.** The last thread runs all workers. The others leave until the
counter is back at zero, and then the last thread runs the first worker once more. -/
theorem exists_wrapped (hOver : 2 ^ 64 < count.toNat + (threadCount count maxConcurrent).toNat) :
    ∃ history p, (fresh count maxConcurrent demand).after? history = some p ∧
      p.caller ≠ .gone ∧ claims history = 2 ^ 64 + 1 ∧
      (ofThread ((threadCount count maxConcurrent).toNat - 1)
        ((fresh count maxConcurrent demand).sent history)).map (·.index)
          = indices count.toNat ++ [0] := by
  set last := (threadCount count maxConcurrent).toNat - 1
  have hCount := count.toNat_lt
  -- the counter is back at zero, and the last thread is still there to claim
  have hLast : CanReach (fresh count maxConcurrent demand)
      (count.toNat + (2 ^ 64 - count.toNat)) _ ((indices count.toNat).map fun i => (last, i)) :=
    canReach_leaving (by omega) (by omega) (by omega)
  rw [show count.toNat + (2 ^ 64 - count.toNat) = 2 ^ 64 by omega] at hLast
  have hIdle := getElem?_leaving (k := 2 ^ 64 - count.toNat) (j := last)
    (m := (threadCount count maxConcurrent).toNat) (by omega) (by omega)
  have hZero : UInt64.ofNat (2 ^ 64) < count := count_pos_of_over hOver
  have hAgain := hLast.claim hIdle
  rw [if_pos hZero] at hAgain
  have hLength := (List.getElem?_eq_some_iff.mp hIdle).1
  have hSent := hAgain.handIn (t := last) (i := .ofNat (2 ^ 64))
    (List.getElem?_set_self hLength)
  -- all that was handed in is of the last thread
  obtain ⟨history, p, hHistory, hClaims, hCaller, -, hHanded⟩ := hSent
  refine ⟨history, p, hHistory, by simp [hCaller], hClaims, ?_⟩
  rw [← ofThread_handed, hHanded, ofThread_append]
  simp [ofThread, List.filter_map, Function.comp_def]

/-- **The pools that can begin a worker twice** are those whose workers and threads together do not
fit the words. -/
theorem begun_twice_iff :
    (∃ history p, (fresh count maxConcurrent demand).after? history = some p ∧
        ¬ ((fresh count maxConcurrent demand).begunIndices history).Nodup) ↔
      2 ^ 64 < count.toNat + (threadCount count maxConcurrent).toNat := by
  constructor
  · rintro ⟨history, p, hHistory, hTwice⟩
    by_contra hFit
    have hClaims := claims_le hHistory (Nat.le_of_not_lt hFit)
    exact hTwice ((pairwise_begunIndices hHistory (by omega)).imp UInt64.ne_of_lt)
  · intro hOver
    obtain ⟨history, p, hHistory, -, hClaims, -⟩ := exists_wrapped hOver
    have hZero := count_pos_of_over hOver
    -- the first claim and the one after all words have the same index
    have hFirst : (0 : UInt64) ∈ (indices (2 ^ 64)).filter (· < count) :=
      List.mem_filter.mpr ⟨List.mem_map.mpr ⟨0, List.mem_range.mpr (by norm_num), rfl⟩,
        decide_eq_true hZero⟩
    have hAgain : (0 : UInt64) ∈ [UInt64.ofNat (2 ^ 64)].filter (· < count) :=
      List.mem_filter.mpr ⟨List.mem_singleton.mpr rfl, decide_eq_true hZero⟩
    refine ⟨history, p, hHistory, ?_⟩
    rw [begunIndices_eq hHistory, hClaims, indices_succ, List.filter_append]
    intro hNodup
    exact (List.nodup_append.mp hNodup).2.2 0 hFirst 0 hAgain rfl

end ProxyAudit.Pool
