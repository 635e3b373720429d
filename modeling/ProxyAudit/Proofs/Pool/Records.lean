import Mathlib
import ProxyAudit.Proofs.Pool.Ending

/-!
# What a history records

A history names the steps of a pool. With the pools in which they are taken (`trace`) they tell
which thread has begun which worker (`begun`), and which thread has handed in which result (`sent`).

The workers are begun in the order of the claims; as long as the counter has not wrapped, this is
the order of the indices. Results come out of a pool in the order in which they were handed in. And
as long as the caller is there, a thread has handed in all that it has begun, in that order, except
for the worker that it is at, or that it died with.

Nothing here depends on how the workers and the threads fit the words. Where the counter may have
wrapped, an index can have been begun more than once.

Main results:

* `begunIndices_eq`   — the workers are begun in the order of the claims.
* `map_snd_sent`      — results come out in the order in which they were handed in.
* `ofThread_begun`    — a thread hands in what it begins.
* `begun_perm`        — what was begun was handed in, is in the hands of a thread, or is lost.
-/

namespace ProxyAudit

/-- The index that a thread has claimed and not handed in, if it is alive or not. -/
def Thread.claimed? : Thread → Option UInt64
  | working i | dead i => some i
  | sending r => some r.index
  | idle | left => none

namespace Pool

variable {start p q : Pool} {s : Step} {past history : List Step}

-- ---------------------------------------------------------------------------
-- Records
-- ---------------------------------------------------------------------------

/-- The steps of a history, each with the pool that it is taken in. -/
def trace (p : Pool) : List Step → List (Pool × Step)
  | [] => []
  | s :: history =>
    (p, s) ::
      match p.step? s with
      | some q => q.trace history
      | none => []

theorem trace_append (h : p.after? past = some q) (later : List Step) :
    p.trace (past ++ later) = p.trace past ++ q.trace later := by
  induction past generalizing p with
  | nil =>
    cases h
    rfl
  | cons s past ih =>
    obtain ⟨r, hStep, hRest⟩ := Option.bind_eq_some_iff.mp h
    simp only [List.cons_append, trace, hStep, ih hRest]

/-- The worker that a step begins, with the thread that runs it. -/
def begins : Pool × Step → Option (Nat × UInt64)
  | (p, .claim t) => if p.counter < p.count then some (t, p.counter) else none
  | _ => none

/-- The result that a step hands in where somebody may take it, with the thread that made it. -/
def handsIn : Pool × Step → Option (Nat × WorkerResult)
  | (p, .send t) =>
    match p.threads[t]? with
    | some (.sending r) => if p.caller.isListening then some (t, r) else none
    | _ => none
  | _ => none

/-- The workers that are begun in a history. -/
def begun (start : Pool) (history : List Step) : List (Nat × UInt64) :=
  (start.trace history).filterMap begins

/-- The results that are handed in in a history. -/
def sent (start : Pool) (history : List Step) : List (Nat × WorkerResult) :=
  (start.trace history).filterMap handsIn

def begunIndices (start : Pool) (history : List Step) : List UInt64 :=
  (start.begun history).map Prod.snd

def sentIndices (start : Pool) (history : List Step) : List UInt64 :=
  (start.sent history).map (·.2.index)

/-- What a record says of one thread. -/
def ofThread {β : Type} (t : Nat) (record : List (Nat × β)) : List β :=
  (record.filter (·.1 == t)).map Prod.snd

theorem ofThread_append {β : Type} (t : Nat) (xs ys : List (Nat × β)) :
    ofThread t (xs ++ ys) = ofThread t xs ++ ofThread t ys := by
  simp [ofThread]

theorem begun_append (h : start.after? past = some q) (later : List Step) :
    start.begun (past ++ later) = start.begun past ++ q.begun later := by
  rw [begun, trace_append h, List.filterMap_append]
  rfl

theorem sent_append (h : start.after? past = some q) (later : List Step) :
    start.sent (past ++ later) = start.sent past ++ q.sent later := by
  rw [sent, trace_append h, List.filterMap_append]
  rfl

theorem trace_singleton (p : Pool) (s : Step) : p.trace [s] = [(p, s)] := by
  unfold trace
  split <;> rfl

theorem begun_singleton (p : Pool) (s : Step) : p.begun [s] = (begins (p, s)).toList := by
  rw [begun, trace_singleton]
  cases h : begins (p, s) <;> simp [h]

theorem sent_singleton (p : Pool) (s : Step) : p.sent [s] = (handsIn (p, s)).toList := by
  rw [sent, trace_singleton]
  cases h : handsIn (p, s) <;> simp [h]

theorem handsIn_send {t : Nat} {r : WorkerResult} (hThread : p.threads[t]? = some (.sending r))
    (hCaller : p.caller ≠ .gone) : handsIn (p, .send t) = some (t, r) := by
  simp [handsIn, hThread, (isListening_eq_true_iff p.caller).mpr hCaller]

theorem handsIn_of_gone (hCaller : p.caller = .gone) : handsIn (p, s) = none := by
  cases s with
  | send t =>
    simp only [handsIn, hCaller, Caller.isListening]
    split <;> rfl
  | start | refuse | ready | claim | finish | crash | take | join | close | drop => rfl

theorem map_snd_begins (p : Pool) (s : Step) :
    (begins (p, s)).toList.map Prod.snd
      = if s.isClaim = true ∧ p.counter < p.count then [p.counter] else [] := by
  cases s with
  | claim t =>
    by_cases hIndex : p.counter < p.count <;> simp [begins, Step.isClaim, hIndex]
  | start | refuse | ready | finish | crash | send | take | join | close | drop => rfl

-- ---------------------------------------------------------------------------
-- Workers are begun in order
-- ---------------------------------------------------------------------------

variable {count : UInt64} {maxConcurrent : Option UInt64} {demand : Demand}

section Claims

variable (h : (fresh count maxConcurrent demand).after? history = some p)
include h

/-- The counter is the number of claims, as a word. -/
theorem counter_of_after? : p.counter = .ofNat (claims history) := by
  have hMod : p.counter.toNat = claims history % 2 ^ 64 := by
    refine after?_induction (P := fun past q => q.counter.toNat = claims past % 2 ^ 64) h rfl ?_
    intro past s q r hPast hMove
    rw [counter_move hMove, hPast, claims_append]
    omega
  rw [← UInt64.toNat_inj, hMod, UInt64.toNat_ofNat']

/-- **Workers are begun in order.** They are the claims one after the other, those in vain left
out. -/
theorem begunIndices_eq : (fresh count maxConcurrent demand).begunIndices history
    = (indices (claims history)).filter (· < count) := by
  refine history_induction (P := fun past _ => (fresh count maxConcurrent demand).begunIndices past
    = (indices (claims past)).filter (· < count)) h rfl ?_
  intro past s q r hPast hBegun hMove
  have hCount : q.count = count := (sameOrder_of_after? hPast).count_eq
  have hCounter := counter_of_after? hPast
  unfold begunIndices at hBegun ⊢
  rw [begun_append hPast, List.map_append, hBegun, begun_singleton, map_snd_begins, claims_append,
    hCount, hCounter]
  by_cases hClaim : s.isClaim = true
  · simp only [hClaim, true_and, if_true, indices, List.range_succ, List.map_append,
      List.filter_append, List.map_singleton, List.filter_singleton, Bool.cond_decide]
  · simp [hClaim]

theorem mem_begunIndices_iff {i : UInt64} :
    i ∈ (fresh count maxConcurrent demand).begunIndices history ↔
      (∃ n < claims history, .ofNat n = i) ∧ i < count := by
  simp [begunIndices_eq h, indices]

/-- So many claims have begun every worker below. -/
theorem mem_begunIndices {i : UInt64} (hi : i < count) (hClaims : i.toNat < claims history) :
    i ∈ (fresh count maxConcurrent demand).begunIndices history :=
  (mem_begunIndices_iff h).mpr ⟨⟨i.toNat, hClaims, UInt64.ofNat_toNat⟩, hi⟩

/-- Below an index that was begun, all have been. -/
theorem begun_below {i j : UInt64}
    (hi : i ∈ (fresh count maxConcurrent demand).begunIndices history) (hj : j < i) :
    j ∈ (fresh count maxConcurrent demand).begunIndices history := by
  obtain ⟨⟨n, hn, rfl⟩, hi⟩ := (mem_begunIndices_iff h).mp hi
  refine mem_begunIndices h (UInt64.lt_trans hj hi) ?_
  rw [UInt64.lt_iff_toNat_lt, UInt64.toNat_ofNat'] at hj
  have := Nat.mod_le n (2 ^ 64)
  omega

/-- Where the counter has not wrapped, each index is begun once, the smaller ones first. -/
theorem pairwise_begunIndices (hWord : claims history ≤ 2 ^ 64) :
    ((fresh count maxConcurrent demand).begunIndices history).Pairwise (· < ·) := by
  rw [begunIndices_eq h]
  exact (pairwise_lt_indices hWord).filter _

/-- **No wrapped counter.** If the workers and the threads fit the words together, so do the
claims. -/
theorem claims_le (hFit : count.toNat + (threadCount count maxConcurrent).toNat ≤ 2 ^ 64) :
    claims history ≤ count.toNat + (threadCount count maxConcurrent).toNat := by
  obtain ⟨hOrder, hStaffed, -, hTally⟩ := outline_of_after? hFit h
  have hCount : p.count = count := hOrder.count_eq
  have hLimit : p.threadLimit = (threadCount count maxConcurrent).toNat := hOrder.limit_eq
  have hLeft := hTally.overshoot_le
  have hThreads := List.countP_le_length (p := Thread.hasLeft) (l := p.threads)
  have hLength := hStaffed.length_le
  rw [hCount] at hLeft
  omega

theorem begunIndices_of_claims_le (hWord : claims history ≤ 2 ^ 64) :
    (fresh count maxConcurrent demand).begunIndices history
      = indices (min (claims history) count.toNat) := by
  have hCount := count.toNat_lt
  -- both lists are ordered, so it is enough that they have the same members
  refine List.Perm.eq_of_pairwise (fun i j _ _ hij hji => absurd hji (UInt64.lt_asymm hij))
    (pairwise_begunIndices h hWord) (pairwise_lt_indices (by omega)) ?_
  rw [begunIndices_eq h, List.perm_iff_count]
  intro i
  rw [count_indices (by omega)]
  by_cases hi : i < count
  · rw [List.count_filter (by simpa using hi), count_indices hWord]
    rw [UInt64.lt_iff_toNat_lt] at hi
    split_ifs <;> omega
  · -- beyond the workers nothing is begun
    have hOut : i ∉ (indices (claims history)).filter (· < count) := by simp [hi]
    rw [List.count_eq_zero_of_not_mem hOut, if_neg]
    rw [UInt64.lt_iff_toNat_lt] at hi
    omega

/-- As long as the caller is there, a thread leaves only when all workers have been begun. -/
theorem count_le_claims_of_left (hCaller : p.caller ≠ .gone) (hLeft : .left ∈ p.threads) :
    count.toNat ≤ claims history := by
  suffices hKept : p.caller ≠ .gone → 0 < p.threads.countP Thread.hasLeft →
      count.toNat ≤ claims history from
    hKept hCaller (List.countP_pos_iff.mpr ⟨_, hLeft, rfl⟩)
  refine history_induction (P := fun past q => q.caller ≠ .gone →
    0 < q.threads.countP Thread.hasLeft → count.toNat ≤ claims past) h
    (fun _ hSome => by simp [fresh] at hSome) ?_
  intro past s q r hPast hKept hMove hStays hSome
  have hListened := hMove.listened hStays
  rw [claims_append]
  by_cases hBefore : 0 < q.threads.countP Thread.hasLeft
  · have := hKept hListened hBefore
    omega
  · -- this is the first to leave, so it has found the counter used up
    have hNow := (countP_hasLeft_move hMove).2 hListened
    split at hNow
    · next hVain =>
      have hCount : q.count = count := (sameOrder_of_after? hPast).count_eq
      have hBeyond := hVain.2
      rw [hCount, counter_of_after? hPast, UInt64.lt_iff_toNat_lt, UInt64.toNat_ofNat'] at hBeyond
      have := Nat.mod_le (claims past) (2 ^ 64)
      omega
    · omega

end Claims

-- ---------------------------------------------------------------------------
-- Results come out in order
-- ---------------------------------------------------------------------------

/-- **First in, first out.** What the caller got is what was handed in first, in that order, and
the queue holds the rest. -/
theorem map_snd_sent (h : (fresh count maxConcurrent demand).after? history = some p) :
    ((fresh count maxConcurrent demand).sent history).map Prod.snd = p.delivered ++ p.queue := by
  refine history_induction (P := fun past q => ((fresh count maxConcurrent demand).sent past).map
    Prod.snd = q.delivered ++ q.queue) h rfl ?_
  intro past s q r hPast hSent hMove
  rw [sent_append hPast, List.map_append, hSent, sent_singleton]
  cases hMove with
  | send hThread hCaller => simp [handsIn_send hThread hCaller, setThread, delivered]
  | discard hThread hCaller => simp [handsIn_of_gone hCaller, setThread, delivered]
  | take hCaller _ _ hQueue =>
    -- nothing is collected yet, so what is taken comes last
    have hJoined := (heeded_of_after? hPast).joined_nil (.inr ⟨_, hCaller⟩)
    simp [handsIn, delivered, hQueue, hJoined]
  | collect _ _ hQueue => simp [handsIn, delivered, hQueue]
  | start | refuse | ready | claim | leave | finish | crash | takeNone | takeLast | collectNone
  | join | close | drop => simp [handsIn, setThread, delivered]

theorem sentIndices_eq (h : (fresh count maxConcurrent demand).after? history = some p) :
    (fresh count maxConcurrent demand).sentIndices history = p.arrived ++ p.queued := by
  have hSent := congrArg (List.map WorkerResult.index) (map_snd_sent h)
  rw [List.map_map, List.map_append] at hSent
  exact hSent

-- ---------------------------------------------------------------------------
-- Threads hand in what they begin
-- ---------------------------------------------------------------------------

/-- The index that one of some threads has claimed and not handed in. -/
def claimed? (threads : List Thread) (t : Nat) : Option UInt64 :=
  threads[t]?.bind Thread.claimed?

section

variable {threads : List Thread} {t u : Nat} {old : Thread}

theorem claimed?_set (h : threads[t]? = some old) (new : Thread) :
    claimed? (threads.set t new) u = if t = u then new.claimed? else claimed? threads u := by
  obtain ⟨ht, -⟩ := List.getElem?_eq_some_iff.mp h
  unfold claimed?
  by_cases hSame : t = u
  · subst hSame
    simp [List.getElem?_set_self ht]
  · simp [List.getElem?_set_ne hSame, hSame]

/-- A thread that goes on with the same index, or with none. -/
theorem claimed?_set_same (h : threads[t]? = some old) (new : Thread)
    (hSame : new.claimed? = old.claimed?) :
    claimed? (threads.set t new) u = claimed? threads u := by
  rw [claimed?_set h]
  split
  · next hThread => rw [← hThread, claimed?, h, Option.bind_some, hSame]
  · rfl

theorem claimed?_start : claimed? (threads ++ [.idle]) t = claimed? threads t := by
  unfold claimed?
  rcases Nat.lt_trichotomy t threads.length with hLess | hNew | hBeyond
  · rw [List.getElem?_append_left hLess]
  · simp [hNew, Thread.claimed?]
  · have hAll : (threads ++ [Thread.idle]).length ≤ t := by
      rw [List.length_append, List.length_singleton]
      omega
    rw [List.getElem?_eq_none hAll, List.getElem?_eq_none (by omega)]

end

theorem ofThread_sublist {β : Type} (t : Nat) (record : List (Nat × β)) :
    (ofThread t record).Sublist (record.map Prod.snd) :=
  List.filter_sublist.map _

/-- A record of one thread alone. -/
theorem ofThread_eq_map {β : Type} {t : Nat} {record : List (Nat × β)} (h : ∀ x ∈ record, x.1 = t) :
    ofThread t record = record.map Prod.snd := by
  rw [ofThread, List.filter_eq_self.mpr fun x hx => by simp [h x hx]]

/-- What a step adds to the records is of a thread that is there. -/
theorem lt_length_of_begins {x : Nat × UInt64} (h : Move p s q) (hx : begins (p, s) = some x) :
    x.1 < p.threads.length := by
  cases h with
  | claim hThread hIndex =>
    obtain ⟨hLength, -⟩ := List.getElem?_eq_some_iff.mp hThread
    simp only [begins, hIndex, if_true, Option.some.injEq] at hx
    rwa [← hx]
  | leave _ hIndex => simp [begins, hIndex] at hx
  | start | refuse | ready | finish | crash | send | discard | take | takeNone | takeLast | collect
  | collectNone | join | close | drop => simp [begins] at hx

theorem lt_length_of_handsIn {x : Nat × WorkerResult} (h : Move p s q)
    (hx : handsIn (p, s) = some x) : x.1 < p.threads.length := by
  cases h with
  | send hThread hCaller =>
    obtain ⟨hLength, -⟩ := List.getElem?_eq_some_iff.mp hThread
    rw [handsIn_send hThread hCaller, Option.some.injEq] at hx
    rwa [← hx]
  | discard _ hCaller => simp [handsIn_of_gone hCaller] at hx
  | start | refuse | ready | claim | leave | finish | crash | take | takeNone | takeLast | collect
  | collectNone | join | close | drop => simp [handsIn] at hx

theorem lt_length_of_records (h : start.after? history = some p) :
    (∀ x ∈ start.begun history, x.1 < p.threads.length) ∧
      ∀ x ∈ start.sent history, x.1 < p.threads.length := by
  refine history_induction (P := fun past q =>
    (∀ x ∈ start.begun past, x.1 < q.threads.length) ∧
      ∀ x ∈ start.sent past, x.1 < q.threads.length) h
    ⟨by simp [begun, trace], by simp [sent, trace]⟩ ?_
  rintro past s q r hPast ⟨hBegun, hSent⟩ hMove
  -- threads are never taken away, so old records stay within the bound
  have hGrows := (length_threads_step hMove.step?_eq).1
  rw [begun_append hPast, sent_append hPast, begun_singleton, sent_singleton]
  refine ⟨fun x hx => ?_, fun x hx => ?_⟩
  · rcases List.mem_append.mp hx with hOld | hNew
    · exact Nat.lt_of_lt_of_le (hBegun x hOld) hGrows
    · exact Nat.lt_of_lt_of_le (lt_length_of_begins hMove (Option.mem_toList.mp hNew)) hGrows
  · rcases List.mem_append.mp hx with hOld | hNew
    · exact Nat.lt_of_lt_of_le (hSent x hOld) hGrows
    · exact Nat.lt_of_lt_of_le (lt_length_of_handsIn hMove (Option.mem_toList.mp hNew)) hGrows

/-- **A thread hands in what it begins,** in that order, except for what it is at or died with. -/
theorem ofThread_begun (h : (fresh count maxConcurrent demand).after? history = some p)
    (hCaller : p.caller ≠ .gone) (t : Nat) :
    ofThread t ((fresh count maxConcurrent demand).begun history)
      = (ofThread t ((fresh count maxConcurrent demand).sent history)).map (·.index)
        ++ (claimed? p.threads t).toList := by
  refine history_induction (P := fun past q => q.caller ≠ .gone →
    ofThread t ((fresh count maxConcurrent demand).begun past)
      = (ofThread t ((fresh count maxConcurrent demand).sent past)).map (·.index)
        ++ (claimed? q.threads t).toList) h (fun _ => rfl) ?_ hCaller
  intro past s q r hPast hKept hMove hStays
  -- the caller that is there now was there before
  have hListened := hMove.listened hStays
  rw [begun_append hPast, sent_append hPast, ofThread_append, ofThread_append, List.map_append,
    hKept hListened, begun_singleton, sent_singleton]
  cases hMove with
  | @claim u hThread hIndex =>
    simp only [setThread, claimed?_set hThread]
    split
    · -- it is the thread itself that claims, and it had nothing in its hands
      next hSame =>
      subst hSame
      simp [begins, handsIn, hIndex, ofThread, claimed?, hThread, Thread.claimed?]
    · next hOther => simp [begins, handsIn, hIndex, ofThread, hOther]
  | leave hThread hIndex =>
    simp [begins, handsIn, hIndex, ofThread, setThread,
      claimed?_set_same hThread Thread.left rfl]
  | @finish u x hThread =>
    simp [begins, handsIn, ofThread, setThread, claimed?_set_same hThread (Thread.sending x) rfl]
  | @crash u i hThread =>
    simp [begins, handsIn, ofThread, setThread, claimed?_set_same hThread (Thread.dead i) rfl]
  | @send u x hThread hCaller =>
    simp only [setThread, claimed?_set hThread, handsIn_send hThread hCaller]
    split
    · -- it hands in what it had claimed
      next hSame =>
      subst hSame
      simp [begins, ofThread, claimed?, hThread, Thread.claimed?]
    · next hOther => simp [begins, ofThread, hOther]
  | discard _ hGone => exact absurd hGone hListened
  | start => simp [begins, handsIn, ofThread, claimed?_start]
  | refuse | ready | take | takeNone | takeLast | collect | collectNone | join | close | drop =>
    simp [begins, handsIn, ofThread]

-- ---------------------------------------------------------------------------
-- Nothing is forgotten
-- ---------------------------------------------------------------------------

/-- **Nothing is forgotten.** As long as the caller is there, what was begun is in the hands of a
thread, lost with one, or handed in. -/
theorem begun_perm (h : (fresh count maxConcurrent demand).after? history = some p)
    (hCaller : p.caller ≠ .gone) :
    ((fresh count maxConcurrent demand).begunIndices history).Perm
      (p.held ++ p.lost ++ (fresh count maxConcurrent demand).sentIndices history) := by
  -- one count for both, by what a step begins and what it adds to the spread
  have hSpread : ∀ i, ((fresh count maxConcurrent demand).begunIndices history).count i
      = p.spread.count i := by
    intro i
    refine history_induction (P := fun past q => q.caller ≠ .gone →
      ((fresh count maxConcurrent demand).begunIndices past).count i = q.spread.count i) h
      (fun _ => rfl) ?_ hCaller
    intro past s q r hPast hKept hMove hStays
    have hListened := hMove.listened hStays
    have hBefore := hKept hListened
    unfold begunIndices at hBefore ⊢
    rw [(spread_move hMove i).2 hListened, begun_append hPast, List.map_append, List.count_append,
      hBefore, begun_singleton, map_snd_begins, newly]
    by_cases hBegins : s.isClaim = true ∧ q.counter < q.count
    · simp [hBegins, List.count_singleton, beq_iff_eq]
    · rw [if_neg hBegins, if_neg (by tauto)]
      simp
  rw [List.perm_iff_count]
  intro i
  rw [hSpread, sentIndices_eq h, count_spread]
  simp only [List.count_append]
  omega

/-- The threads of a pool: those at an index, those that died with one, and the others. -/
theorem length_threads (p : Pool) :
    p.held.length + p.lost.length + p.threads.countP (· == .idle)
      + p.threads.countP Thread.hasLeft = p.threads.length := by
  unfold held lost
  induction p.threads with
  | nil => rfl
  | cons th threads ih =>
    cases th <;>
      simp [List.filterMap_cons, List.countP_cons, Thread.held?, Thread.lost?, Thread.hasLeft]
        at ih ⊢ <;>
      omega

end Pool

end ProxyAudit
