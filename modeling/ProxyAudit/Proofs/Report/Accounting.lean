import Mathlib
import ProxyAudit.Verify.Report

/-!
# The numbers of a report

The numbers of a report are words. No list of results that fits the memory is long enough to make
them wrap, so they are the numbers that they stand for. They depend on the outcomes of a run alone,
in any order.

Main results:

* `toNat_failures`        — a worker fails that did not match, or did not report.
* `passed_ofResults_iff`  — a run passes if all workers have reported a match.
* `sameNumbers_of_perm`   — the order of the outcomes does not matter.
* `accounts_balance`      — the numbers of every report, and that no word wraps.
-/

namespace ProxyAudit

-- ---------------------------------------------------------------------------
-- Outcomes
-- ---------------------------------------------------------------------------

/-- The worker saw the reference digest. -/
def Outcome.IsMatch (o : Outcome) : Prop :=
  ∃ bytes, o = .matched bytes

/-- The worker's time ran out. -/
def Outcome.IsTimedOut (o : Outcome) : Prop :=
  ∃ message, o = .fetchFailed (.timeout message)

theorem Outcome.isSuccess_iff (o : Outcome) : o.isSuccess = true ↔ o.IsMatch := by
  cases o <;> simp [isSuccess, IsMatch]

theorem Outcome.isTimeout_iff (o : Outcome) : o.isTimeout = true ↔ o.IsTimedOut := by
  cases o with
  | fetchFailed e => cases e <;> simp [isTimeout, FetchError.isTimeout, IsTimedOut]
  | _ => simp [isTimeout, IsTimedOut]

instance : DecidablePred Outcome.IsMatch :=
  fun o => decidable_of_iff _ o.isSuccess_iff

instance : DecidablePred Outcome.IsTimedOut :=
  fun o => decidable_of_iff _ o.isTimeout_iff

namespace Report

variable (targetUrl proxy : String) (reference : Digest) (expected : UInt64)
variable {results results' : List WorkerResult}

-- ---------------------------------------------------------------------------
-- Words that do not wrap
-- ---------------------------------------------------------------------------

theorem toNat_count (hLength : results.length < 2 ^ 64) (test : Outcome → Bool) :
    (count results test).toNat = results.countP fun r => test r.outcome := by
  have hLe := List.countP_le_length (p := fun r => test r.outcome) (l := results)
  exact UInt64.toNat_ofNat_of_lt' (Nat.lt_of_le_of_lt hLe hLength)

theorem toNat_missing (hLength : results.length < 2 ^ 64) :
    (ofResults targetUrl proxy reference expected results).missing.toNat
      = expected.toNat - results.length := by
  have hReported : (UInt64.ofNat results.length).toNat = results.length :=
    UInt64.toNat_ofNat_of_lt' hLength
  simp only [ofResults]
  split
  · next hLe => rw [UInt64.toNat_sub_of_le _ _ hLe, hReported]
  · next hMore =>
    rw [UInt64.le_iff_toNat_le, hReported] at hMore
    rw [UInt64.toNat_zero]
    omega

theorem toNat_failures (hLength : results.length < 2 ^ 64) :
    (ofResults targetUrl proxy reference expected results).failures.toNat
      = max expected.toNat results.length - results.countP fun r => r.outcome.isSuccess := by
  have hReported : (UInt64.ofNat results.length).toNat = results.length :=
    UInt64.toNat_ofNat_of_lt' hLength
  have hSuccesses := toNat_count hLength Outcome.isSuccess
  have hMissing := toNat_missing targetUrl proxy reference expected hLength
  have hFew := List.countP_le_length (p := fun r => r.outcome.isSuccess) (l := results)
  -- there are no more successes than results, so nothing wraps below zero
  have hSub : (UInt64.ofNat results.length - count results Outcome.isSuccess).toNat
      = results.length - results.countP fun r => r.outcome.isSuccess := by
    rw [UInt64.toNat_sub_of_le, hReported, hSuccesses]
    rw [UInt64.le_iff_toNat_le, hReported, hSuccesses]
    exact hFew
  have hFailures : (ofResults targetUrl proxy reference expected results).failures
      = UInt64.ofNat results.length - count results Outcome.isSuccess
        + (ofResults targetUrl proxy reference expected results).missing := rfl
  -- and nothing wraps above: the failures are at most the larger of the two words
  have hWord := expected.toNat_lt
  rw [hFailures, UInt64.toNat_add, hSub, hMissing, Nat.mod_eq_of_lt (by omega)]
  omega

theorem toNat_successes (hLength : results.length < 2 ^ 64) :
    (ofResults targetUrl proxy reference expected results).successes.toNat
      = results.countP fun r => r.outcome.IsMatch := by
  have hCount := toNat_count hLength Outcome.isSuccess
  rw [ofResults, hCount]
  refine List.countP_congr fun r _ => ?_
  rw [decide_eq_true_iff, Outcome.isSuccess_iff]

theorem toNat_timeouts (hLength : results.length < 2 ^ 64) :
    (ofResults targetUrl proxy reference expected results).timeouts.toNat
      = results.countP fun r => r.outcome.IsTimedOut := by
  have hCount := toNat_count hLength Outcome.isTimeout
  rw [ofResults, hCount]
  refine List.countP_congr fun r _ => ?_
  rw [decide_eq_true_iff, Outcome.isTimeout_iff]

/-- A result that timed out is no match. -/
theorem countP_isTimedOut_le (results : List WorkerResult) :
    (results.countP fun r => r.outcome.IsTimedOut)
      ≤ results.countP fun r => ¬r.outcome.IsMatch := by
  refine List.countP_mono_left fun r _ hTimedOut => ?_
  rw [decide_eq_true_iff] at hTimedOut ⊢
  obtain ⟨message, hOutcome⟩ := hTimedOut
  rintro ⟨bytes, hMatched⟩
  rw [hOutcome] at hMatched
  contradiction

-- ---------------------------------------------------------------------------
-- What the numbers say
-- ---------------------------------------------------------------------------

/-- **A run passes** exactly if no worker is missing and every result is a match. -/
theorem passed_ofResults_iff (hLength : results.length < 2 ^ 64) :
    (ofResults targetUrl proxy reference expected results).passed = true ↔
      expected.toNat ≤ results.length ∧ ∀ r ∈ results, r.outcome.isSuccess = true := by
  have hFailures := toNat_failures targetUrl proxy reference expected hLength
  have hFew := List.countP_le_length (p := fun r => r.outcome.isSuccess) (l := results)
  have hNone : (ofResults targetUrl proxy reference expected results).passed = true ↔
      max expected.toNat results.length - (results.countP fun r => r.outcome.isSuccess) = 0 := by
    rw [passed, beq_iff_eq, ← UInt64.toNat_inj, hFailures, UInt64.toNat_zero]
  rw [hNone, ← List.countP_eq_length]
  omega

structure SameNumbers (a b : Report) : Prop where
  successes_eq : a.successes = b.successes
  failures_eq : a.failures = b.failures
  timeouts_eq : a.timeouts = b.timeouts
  missing_eq : a.missing = b.missing
  passed_eq : a.passed = b.passed

theorem count_of_perm (h : (results.map (·.outcome)).Perm (results'.map (·.outcome)))
    (test : Outcome → Bool) : count results test = count results' test := by
  have hCount := h.countP_eq test
  rw [List.countP_map, List.countP_map] at hCount
  exact congrArg UInt64.ofNat hCount

/-- **The order does not matter.** Reports of the same outcomes have the same numbers. -/
theorem sameNumbers_of_perm (h : (results.map (·.outcome)).Perm (results'.map (·.outcome))) :
    SameNumbers (ofResults targetUrl proxy reference expected results)
      (ofResults targetUrl proxy reference expected results') := by
  have hSuccesses := count_of_perm h Outcome.isSuccess
  have hTimeouts := count_of_perm h Outcome.isTimeout
  have hLength : results.length = results'.length := by simpa using h.length_eq
  constructor <;> simp only [ofResults, passed, hSuccesses, hTimeouts, hLength]

/-- Reports of the same results in another order differ in that order alone. -/
theorem ofResults_of_perm (h : results'.Perm results) :
    ofResults targetUrl proxy reference expected results'
      = { ofResults targetUrl proxy reference expected results with results := results' } := by
  have hOutcomes : (results'.map (·.outcome)).Perm (results.map (·.outcome)) := h.map _
  have hSuccesses := count_of_perm hOutcomes Outcome.isSuccess
  have hTimeouts := count_of_perm hOutcomes Outcome.isTimeout
  simp only [ofResults, hSuccesses, hTimeouts, h.length_eq]

/--
**The accounts of a report balance.** For any number of expected workers and any list of results
that has a length in words:

* no word wraps: what is subtracted is no more than what it is subtracted from, and what is added
  fits a word;
* the workers that are missing are those that were expected beyond the results, and whatever is
  missing or no match has failed;
* successes and failures make up the workers, or the results if there are more of these, and what
  timed out or is missing is among the failures;
* a run passes exactly if nothing is missing and every result is a match;
* the order of the results shows in their list alone.
-/
theorem accounts_balance (targetUrl proxy : String) (reference : Digest) (expected : UInt64)
    {results : List WorkerResult} (hLength : results.length < 2 ^ 64) :
    let report := ofResults targetUrl proxy reference expected results
    report.successes.toNat ≤ results.length ∧
    results.length - report.successes.toNat + report.missing.toNat < 2 ^ 64 ∧
    (report.missing.toNat : Int) = max (expected.toNat - results.length : Int) 0 ∧
    report.successes.toNat = (results.countP fun r => r.outcome.IsMatch) ∧
    report.failures.toNat
      = report.missing.toNat + (results.countP fun r => ¬r.outcome.IsMatch) ∧
    report.timeouts.toNat = (results.countP fun r => r.outcome.IsTimedOut) ∧
    report.successes.toNat + report.failures.toNat = max expected.toNat results.length ∧
    report.timeouts.toNat + report.missing.toNat ≤ report.failures.toNat ∧
    (report.passed = true ↔
      expected.toNat ≤ results.length ∧ ∀ r ∈ results, r.outcome.IsMatch) ∧
    ∀ results', results'.Perm results →
      ofResults targetUrl proxy reference expected results'
        = { report with results := results' } := by
  intro report
  have hWord := expected.toNat_lt
  have hSuccesses : report.successes.toNat = results.countP fun r => r.outcome.IsMatch :=
    toNat_successes targetUrl proxy reference expected hLength
  have hTimeouts : report.timeouts.toNat = results.countP fun r => r.outcome.IsTimedOut :=
    toNat_timeouts targetUrl proxy reference expected hLength
  have hMissing : report.missing.toNat = expected.toNat - results.length :=
    toNat_missing targetUrl proxy reference expected hLength
  have hFailures : report.failures.toNat
      = max expected.toNat results.length - report.successes.toNat := by
    rw [show report.successes = count results Outcome.isSuccess from rfl, toNat_count hLength]
    exact toNat_failures targetUrl proxy reference expected hLength
  -- a result is a match or not, and what timed out is none
  have hSplit := List.length_eq_countP_add_countP (fun r => decide r.outcome.IsMatch)
    (l := results)
  have hTimedOut := countP_isTimedOut_le results
  simp only [decide_eq_true_eq] at hSplit
  refine ⟨by omega, by omega, by omega, hSuccesses, by omega, hTimeouts, by omega, by omega,
    ?passed, fun results' => ofResults_of_perm targetUrl proxy reference expected⟩
  case passed =>
    simp only [← Outcome.isSuccess_iff]
    exact passed_ofResults_iff targetUrl proxy reference expected hLength

/-- A match, a timeout and another body where five workers were expected, in two orders. -/
theorem accounts_balance_of_few :
    let d : Digest := ⟨List.replicate 32 0, by decide⟩
    let d' : Digest := ⟨List.replicate 32 1, by decide⟩
    let r : WorkerResult := ⟨0, .matched 11, 0, 1⟩
    let r' : WorkerResult := ⟨3, .fetchFailed (.timeout "late"), 20, 5000⟩
    let r'' : WorkerResult := ⟨1, .mismatch d d' 0, 0, 2⟩
    let report := ofResults "http://t/" "p:1" d 5 [r, r', r'']
    report.missing.toNat = 2 ∧ report.failures.toNat = 4 ∧ report.timeouts.toNat = 1 ∧
      report.passed = false ∧
      ofResults "http://t/" "p:1" d 5 [r'', r, r'] = { report with results := [r'', r, r'] } := by
  intro d d' r r' r'' report
  obtain ⟨-, -, hMissing, -, hFailures, hTimeouts, -, -, hPassed, hPerm⟩ :=
    @accounts_balance "http://t/" "p:1" d 5 [r, r', r''] (by decide)
  replace hMissing : (report.missing.toNat : Int) = 2 := hMissing
  replace hFailures : report.failures.toNat = report.missing.toNat + 2 := hFailures
  refine ⟨by omega, by omega, hTimeouts, ?_, hPerm _ ?_⟩
  · rw [← Bool.not_eq_true, hPassed]
    decide
  · decide

end Report

end ProxyAudit
