import Mathlib
import ProxyAudit.Proofs.Pool.Records
import ProxyAudit.Proofs.Pool.Wrapping

/-!
# Bounded reordering

Results come out of a pool in the order in which the workers are done, not in that of the indices.
But they are never far apart. When a worker is begun, all before it have been, and what is missing
of these is at the other threads, or died with them: fewer than there are threads. From then on the
missing ones only become fewer.

The results of one thread come in the order of its claims. That is the order of the indices as long
as the counter does not wrap, so one thread alone delivers the results in the order of the indices.
But where the workers and the threads together do not fit the words, a thread can go on with the
first indices after the last ones.

Main results:

* `gaps_lt_of_begun`         — what is missing below an index is less than the threads.
* `exists_claims`            — the results of one thread come in the order of its claims.
* `arrived_prefix_of_alone`  — one thread alone delivers the indices in order.
* `disordered_iff`           — the pools in which the indices of one thread can go back.
* `reordering_bounded`       — how far results are out of order, in every history.
-/

namespace ProxyAudit.Pool

variable {count : UInt64} {maxConcurrent : Option UInt64} {demand : Demand}
variable {history : List Step} {p q : Pool}

-- ---------------------------------------------------------------------------
-- Gaps
-- ---------------------------------------------------------------------------

/-- The indices below one that are not among some indices. -/
def gaps (among : List UInt64) (i : UInt64) : List UInt64 :=
  (indices i.toNat).filter (· ∉ among)

theorem mem_gaps_iff {among : List UInt64} {i j : UInt64} :
    j ∈ gaps among i ↔ j < i ∧ j ∉ among := by
  simp [gaps, mem_indices_iff]

theorem nodup_gaps (among : List UInt64) (i : UInt64) : (gaps among i).Nodup := by
  have hWord := i.toNat_lt
  exact ((pairwise_lt_indices (by omega)).imp UInt64.ne_of_lt).filter _

theorem length_gaps_append_le (among more : List UInt64) (i : UInt64) :
    (gaps (among ++ more) i).length ≤ (gaps among i).length := by
  refine (nodup_gaps _ i).subperm (fun j hj => ?_) |>.length_le
  rw [mem_gaps_iff, List.mem_append, not_or] at hj
  exact mem_gaps_iff.mpr ⟨hj.1, hj.2.1⟩

/-- The first indices are the beginning of more of them. -/
theorem indices_prefix_of_le {m n : Nat} (h : m ≤ n) : indices m <+: indices n := by
  have hTake : indices m = (indices n).take m := by
    simp [indices, ← List.map_take, List.take_range, Nat.min_eq_left h]
  rw [hTake]
  exact List.take_prefix m _

theorem threadCount_le_one (count : UInt64)
    (hAlone : maxConcurrent = some 0 ∨ maxConcurrent = some 1) :
    (threadCount count maxConcurrent).toNat ≤ 1 := by
  rw [toNat_threadCount]
  rcases hAlone with rfl | rfl
  · rw [Option.getD_some, UInt64.toNat_zero]
    omega
  · rw [Option.getD_some, UInt64.toNat_one]
    omega

section Attended

variable (h : (fresh count maxConcurrent demand).after? history = some p)
variable (hCaller : p.caller ≠ .gone)
include h hCaller

/-- When a worker is about to be begun, what is missing below it is at the other threads. -/
private theorem length_gaps_counter_lt {t : Nat} (hThread : p.threads[t]? = some .idle)
    (hIndex : p.counter < count) :
    (gaps ((fresh count maxConcurrent demand).sentIndices history) p.counter).length
      < p.threads.length := by
  -- all that is missing below the counter was begun, so it is held or lost
  have hHeld : (gaps ((fresh count maxConcurrent demand).sentIndices history) p.counter).length
      ≤ (p.held ++ p.lost).length := by
    refine ((nodup_gaps _ _).subperm fun j hj => ?_).length_le
    obtain ⟨hBelow, hMissing⟩ := mem_gaps_iff.mp hj
    have hBegun : j ∈ (fresh count maxConcurrent demand).begunIndices history := by
      refine mem_begunIndices h (UInt64.lt_trans hBelow hIndex) ?_
      rw [counter_of_after? h, UInt64.lt_iff_toNat_lt, UInt64.toNat_ofNat'] at hBelow
      have := Nat.mod_le (claims history) (2 ^ 64)
      omega
    exact (List.mem_append.mp ((begun_perm h hCaller).mem_iff.mp hBegun)).resolve_right hMissing
  -- one thread holds nothing, the one that is about to claim
  have hIdle : 0 < p.threads.countP (· == .idle) :=
    List.countP_pos_iff.mpr ⟨_, List.mem_of_getElem? hThread, by simp⟩
  have hThreads := length_threads p
  rw [List.length_append] at hHeld
  omega

/-- **What is missing below an index** that was begun is less than the threads. -/
theorem gaps_lt_of_begun {i : UInt64}
    (hi : i ∈ (fresh count maxConcurrent demand).begunIndices history) :
    (gaps ((fresh count maxConcurrent demand).sentIndices history) i).length
      < (threadCount count maxConcurrent).toNat := by
  refine history_induction (P := fun past q => q.caller ≠ .gone →
    i ∈ (fresh count maxConcurrent demand).begunIndices past →
    (gaps ((fresh count maxConcurrent demand).sentIndices past) i).length
      < (threadCount count maxConcurrent).toNat) h (fun _ hNone => ?_) ?_ hCaller hi
  · simp [begunIndices, begun, trace] at hNone
  intro past s q r hPast hKept hMove hStays hBegun
  have hListened := hMove.listened hStays
  -- later results only fill gaps
  have hFewer : (gaps ((fresh count maxConcurrent demand).sentIndices (past ++ [s])) i).length
      ≤ (gaps ((fresh count maxConcurrent demand).sentIndices past) i).length := by
    unfold sentIndices
    rw [sent_append hPast, List.map_append]
    exact length_gaps_append_le _ _ i
  refine Nat.lt_of_le_of_lt hFewer ?_
  unfold begunIndices at hBegun
  rw [begun_append hPast, List.map_append, begun_singleton, map_snd_begins] at hBegun
  rcases List.mem_append.mp hBegun with hOld | hNew
  · exact hKept hListened hOld
  · split at hNew
    · -- the index is the counter of now, so the gaps are counted by the threads at work
      next hBegins =>
      obtain ⟨hClaim, hIndex⟩ := hBegins
      obtain rfl := List.mem_singleton.mp hNew
      obtain ⟨t, hThread⟩ := exists_idle_of_claim hMove hClaim
      have hCount : q.count = count := (sameOrder_of_after? hPast).count_eq
      rw [hCount] at hIndex
      exact Nat.lt_of_lt_of_le (length_gaps_counter_lt hPast hListened hThread hIndex)
        (length_threads_le hPast)
    · contradiction

/-- What was handed in was begun. -/
theorem begun_of_sent {i : UInt64}
    (hi : i ∈ (fresh count maxConcurrent demand).sentIndices history) :
    i ∈ (fresh count maxConcurrent demand).begunIndices history :=
  (begun_perm h hCaller).mem_iff.mpr (List.mem_append_right _ hi)

-- ---------------------------------------------------------------------------
-- One thread
-- ---------------------------------------------------------------------------

/-- What a thread has handed in, in order, is part of what was begun, in order. -/
theorem ofThread_sent_sublist (t : Nat) :
    ((ofThread t ((fresh count maxConcurrent demand).sent history)).map (·.index)).Sublist
      ((fresh count maxConcurrent demand).begunIndices history) := by
  have hBegun := ofThread_begun h hCaller t
  have hPrefix := List.sublist_append_left
    ((ofThread t ((fresh count maxConcurrent demand).sent history)).map (·.index))
    (claimed? p.threads t).toList
  rw [← hBegun] at hPrefix
  exact hPrefix.trans (ofThread_sublist t _)

/-- **The results of a thread come in the order of its claims.** Each has the number of its claim as
index, as a word. -/
theorem exists_claims (t : Nat) :
    ∃ ns : List Nat, ns.Pairwise (· < ·) ∧ (∀ n ∈ ns, n < claims history) ∧
      (ofThread t ((fresh count maxConcurrent demand).sent history)).map (·.index)
        = ns.map .ofNat := by
  have hAll := (ofThread_sent_sublist h hCaller t).trans
    (begunIndices_eq h ▸ List.filter_sublist (l := indices (claims history)))
  obtain ⟨ns, hSublist, hClaims⟩ := List.sublist_map_iff.mp hAll
  exact ⟨ns, List.pairwise_lt_range.sublist hSublist,
    fun n hn => List.mem_range.mp (hSublist.subset hn), hClaims⟩

theorem pairwise_ofThread_sent (hWord : claims history ≤ 2 ^ 64) (t : Nat) :
    ((ofThread t ((fresh count maxConcurrent demand).sent history)).map (·.index)).Pairwise
      (· < ·) :=
  (pairwise_begunIndices h hWord).sublist (ofThread_sent_sublist h hCaller t)

/-- **One thread alone delivers the indices in order.** -/
theorem arrived_prefix_of_alone (hAlone : (threadCount count maxConcurrent).toNat ≤ 1) :
    p.arrived <+: indices count.toNat := by
  have hCount := count.toNat_lt
  have hWord : claims history ≤ 2 ^ 64 := by
    have := claims_le h (by omega)
    omega
  -- all records are of the first thread
  have hLength := length_threads_le h
  obtain ⟨hBegun, hSent⟩ := lt_length_of_records h
  have hFirst {n : Nat} (hn : n < p.threads.length) : n = 0 := by omega
  have hOrder := ofThread_begun h hCaller 0
  rw [ofThread_eq_map fun x hx => hFirst (hBegun x hx),
    ofThread_eq_map fun x hx => hFirst (hSent x hx), List.map_map] at hOrder
  have hPrefix : (fresh count maxConcurrent demand).sentIndices history
      <+: (fresh count maxConcurrent demand).begunIndices history := ⟨_, hOrder.symm⟩
  rw [begunIndices_of_claims_le h hWord, sentIndices_eq h] at hPrefix
  exact (List.prefix_append _ _).trans
    (hPrefix.trans (indices_prefix_of_le (Nat.min_le_right _ _)))

end Attended

/-- One thread that did not die delivers all. -/
theorem arrived_eq_indices (h : (fresh count maxConcurrent demand).after? history = some p)
    (hCaller : p.caller = .finished) (hAlone : (threadCount count maxConcurrent).toNat ≤ 1)
    (hAlive : ∀ th ∈ p.threads, th.isDead = false) : p.arrived = indices count.toNat := by
  have hCount : p.count = count := (sameOrder_of_after? h).count_eq
  have hWord := count.toNat_lt
  have hAll := arrived_perm_of_alive (outline_of_after? (by omega) h) hCaller hAlive
  rw [hCount] at hAll
  exact (arrived_prefix_of_alone h (by simp [hCaller]) hAlone).eq_of_length hAll.length_eq

/-- **The pools in which the indices of one thread can go back** are those whose workers and threads
together do not fit the words. -/
theorem disordered_iff :
    (∃ history p t, (fresh count maxConcurrent demand).after? history = some p ∧
        p.caller ≠ .gone ∧
        ¬ ((ofThread t ((fresh count maxConcurrent demand).sent history)).map (·.index)).Pairwise
          (· < ·)) ↔
      2 ^ 64 < count.toNat + (threadCount count maxConcurrent).toNat := by
  constructor
  · rintro ⟨history, p, t, hHistory, hCaller, hBack⟩
    by_contra hFit
    have hClaims := claims_le hHistory (Nat.le_of_not_lt hFit)
    exact hBack (pairwise_ofThread_sent hHistory hCaller (by omega) t)
  · intro hOver
    obtain ⟨history, p, hHistory, hCaller, -, hLast⟩ := exists_wrapped hOver
    refine ⟨history, p, (threadCount count maxConcurrent).toNat - 1, hHistory, hCaller, ?_⟩
    intro hOrder
    rw [hLast] at hOrder
    -- the first index stands behind itself
    have hFirst : 0 ∈ indices count.toNat := mem_indices_iff.mpr (count_pos_of_over hOver)
    have hBefore := (List.pairwise_append.mp hOrder).2.2 0 hFirst 0 (List.mem_singleton.mpr rfl)
    exact absurd hBefore (by decide)

/--
**Reordering is bounded.** Take a pool of any number of workers, with any bound on the threads.
Wherever a history has led it, whoever had the next turn and whichever workers died, as long as the
caller is there:

* below an index whose result was handed in, all have been claimed, and fewer than there are threads
  are not handed in yet;
* results come out in the order in which they were handed in;
* a thread hands in what it has begun, in that order, except for what it is at or died with; its
  results have the numbers of its claims, as words, so their indices grow until the counter wraps;
* if the workers and the threads fit the words together, the counter never wraps, and the indices of
  each thread grow all the time;
* one thread alone delivers the first indices, in order, and all of them if it does not die.
-/
theorem reordering_bounded
    (hHistory : (fresh count maxConcurrent demand).after? history = some p)
    (hCaller : p.caller ≠ .gone) :
    let start := fresh count maxConcurrent demand
    let limit := (threadCount count maxConcurrent).toNat
    (∀ i ∈ start.sentIndices history, (∀ j < i, j ∈ start.begunIndices history) ∧
      (gaps (start.sentIndices history) i).length < limit) ∧
    (start.sent history).map Prod.snd = p.delivered ++ p.queue ∧
    (∀ t, ofThread t (start.begun history)
        = (ofThread t (start.sent history)).map (·.index) ++ (claimed? p.threads t).toList ∧
      (∃ ns : List Nat, ns.Pairwise (· < ·) ∧ (∀ n ∈ ns, n < claims history) ∧
        (ofThread t (start.sent history)).map (·.index) = ns.map .ofNat) ∧
      (claims history ≤ 2 ^ 64 →
        ((ofThread t (start.sent history)).map (·.index)).Pairwise (· < ·))) ∧
    (count.toNat + limit ≤ 2 ^ 64 → claims history ≤ 2 ^ 64 ∧
      ∀ t, ((ofThread t (start.sent history)).map (·.index)).Pairwise (· < ·)) ∧
    (maxConcurrent = some 0 ∨ maxConcurrent = some 1 → p.arrived <+: indices count.toNat ∧
      (p.caller = .finished → (∀ th ∈ p.threads, th.isDead = false) →
        p.arrived = indices count.toNat)) := by
  intro start limit
  refine ⟨?gaps, map_snd_sent hHistory, ?threads, ?fit, ?alone⟩
  case gaps =>
    -- an index that was sent was begun, and the invariant is about all of these
    intro i hi
    have hBegun := begun_of_sent hHistory hCaller hi
    exact ⟨fun j => begun_below hHistory hBegun, gaps_lt_of_begun hHistory hCaller hBegun⟩
  case threads =>
    intro t
    exact ⟨ofThread_begun hHistory hCaller t, exists_claims hHistory hCaller t,
      fun hWord => pairwise_ofThread_sent hHistory hCaller hWord t⟩
  case fit =>
    intro hFit
    have hWord := (claims_le hHistory hFit).trans hFit
    exact ⟨hWord, pairwise_ofThread_sent hHistory hCaller hWord⟩
  case alone =>
    intro hAlone
    have hOne := threadCount_le_one count hAlone
    exact ⟨arrived_prefix_of_alone hHistory hCaller hOne, fun hDone hAlive =>
      arrived_eq_indices hHistory hDone hOne hAlive⟩

/-- Of two threads, one overtakes the other, which dies: one index is missing below those that were
handed in, and these grow. One thread alone delivers both of two results, in order. -/
theorem reordering_bounded_of_overtaking :
    let r : UInt64 → WorkerResult := fun i => ⟨i, .matched 11, 0, 1⟩
    let overtaking : List Step := [.start, .start, .ready, .claim 0, .claim 1, .finish 1 (r 1),
      .send 1, .take, .claim 1, .finish 1 (r 2), .send 1, .crash 0]
    let alone : List Step := [.start, .ready, .claim 0, .finish 0 (r 0), .send 0, .claim 0,
      .finish 0 (r 1), .take, .send 0, .claim 0, .take, .take, .take, .close]
    (∃ p, (fresh 3 (some 2) .all).after? overtaking = some p ∧
      (fresh 3 (some 2) .all).sentIndices overtaking = [1, 2] ∧ gaps [1, 2] 1 = [0] ∧
      (gaps [1, 2] 1).length < 2 ∧ 0 ∈ (fresh 3 (some 2) .all).begunIndices overtaking ∧
      p.delivered ++ p.queue = [r 1, r 2] ∧
      ((ofThread 1 ((fresh 3 (some 2) .all).sent overtaking)).map (·.index)).Pairwise (· < ·)) ∧
    ∃ p, (fresh 2 (some 0) .all).after? alone = some p ∧ p.arrived = [0, 1] := by
  intro r overtaking alone
  constructor
  · obtain ⟨p, hp, hCaller⟩ := Option.map_eq_some_iff.mp
      (show ((fresh 3 (some 2) .all).after? overtaking).map (·.caller) = some (.taking none) by
        decide +kernel)
    have hSent : (fresh 3 (some 2) .all).sentIndices overtaking = [1, 2] := by decide +kernel
    have hResults : ((fresh 3 (some 2) .all).sent overtaking).map Prod.snd = [r 1, r 2] := by
      decide +kernel
    obtain ⟨hBelow, hOrder, -, hFit, -⟩ := reordering_bounded hp (by simp [hCaller])
    obtain ⟨hBegun, hGaps⟩ := hBelow 1 (by simp [hSent])
    rw [hSent] at hGaps
    exact ⟨p, hp, hSent, by decide +kernel, hGaps, hBegun 0 (by decide), hOrder.symm.trans hResults,
      (hFit (by decide)).2 1⟩
  · obtain ⟨p, hp, hEnd⟩ := Option.map_eq_some_iff.mp
      (show ((fresh 2 (some 0) .all).after? alone).map (fun p => (p.caller, p.threads))
        = some (.finished, [.left]) by decide +kernel)
    simp only [Prod.mk.injEq] at hEnd
    obtain ⟨hCaller, hThreads⟩ := hEnd
    obtain ⟨-, -, -, -, hAlone⟩ := reordering_bounded hp (by simp [hCaller])
    exact ⟨p, hp, (hAlone (.inl rfl)).2 hCaller (by simp [hThreads, Thread.isDead])⟩

/-- Of as many workers as a word can count, on two threads, the second thread runs all. When the
first one has left, it hands in the first index after the last one. -/
theorem exists_sent_after_wrap :
    let start := fresh 18446744073709551615 (some 2) .all
    ∃ history p, start.after? history = some p ∧ p.caller ≠ .gone ∧
      [18446744073709551614, 0].Sublist ((ofThread 1 (start.sent history)).map (·.index)) ∧
      ¬ ((ofThread 1 (start.sent history)).map (·.index)).Pairwise (· < ·) := by
  intro start
  have hThreads : (threadCount 18446744073709551615 (some 2)).toNat = 2 := by decide
  have hCount : (18446744073709551615 : UInt64).toNat = 18446744073709551614 + 1 := by decide
  obtain ⟨history, p, hHistory, hCaller, -, hOrder⟩ :=
    @exists_wrapped 18446744073709551615 (some 2) .all (by rw [hThreads, hCount]; norm_num)
  rw [hThreads, hCount, indices_succ, List.append_assoc] at hOrder
  have hBack : [18446744073709551614, 0].Sublist
      ((ofThread 1 (start.sent history)).map (·.index)) :=
    hOrder ▸ List.sublist_append_right _ _
  refine ⟨history, p, hHistory, hCaller, hBack, fun hGrow => ?_⟩
  exact absurd (hGrow.sublist hBack) (by decide)

end ProxyAudit.Pool
