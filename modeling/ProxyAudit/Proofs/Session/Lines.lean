import Mathlib
import ProxyAudit.CommandLine.Session
import ProxyAudit.Proofs.Audit.Verdict

/-!
# The lines of a run

A run may show its results in three ways: a word for each worker, a line for each worker with a
summary, or the report alone. Whichever way, the lines say the same of the results, and so does the
status that the report leads to.

Main results:

* `filter_isMarked`      — a worker's number marks one line.
* `numbers_ofResults`    — the numbers of the report are those of the words.
* `console_ofResults`    — the three ways of showing the results of a run.
* `passed_iff_success`   — a run passes if every worker shows success.
-/

namespace ProxyAudit.Session

-- ---------------------------------------------------------------------------
-- The lines of a run
-- ---------------------------------------------------------------------------

/-- The lines that are printed while a run goes on. -/
def shownLines (o : RunOptions) (reference : Digest) (results : List WorkerResult) : List String :=
  if o.json then [] else reference.text :: results.map (·.line o.verboseOutcomes)

/-- The lines that are printed when a run is over. -/
def closingLines (o : RunOptions) (report : Report) : List String :=
  if o.json then [report.toJson.pretty] else if o.verboseOutcomes then [report.summary] else []

-- ---------------------------------------------------------------------------
-- What the lines say
-- ---------------------------------------------------------------------------

/-- The words that plain lines consist of. -/
def labels (results : List WorkerResult) : List String :=
  results.map (·.outcome.label)

/-- What the verbose line of a worker starts with. -/
def workerMark (index : UInt64) : String :=
  "worker " ++ Decimal.text index.toNat ++ ": "

def isMarked (mark line : String) : Bool :=
  mark.toList.isPrefixOf line.toList

/-- The lines of a run with these results, in each of the three ways of showing them. -/
structure Console (c : Config) (reference : Digest) (results : List WorkerResult) (o : RunOptions)
    (lines : List String) : Prop where
  /-- The reference, and a word for each worker. -/
  plain : o.json = false → o.verboseOutcomes = false →
    lines = reference.text :: labels results ∧ (labels results).length = c.workers.toNat ∧
    ∀ label ∈ labels results, label = "Success" ∨ label = "Failure"
  /-- The reference, a line for each worker with its word behind its number, and a summary. -/
  verbose : o.json = false → o.verboseOutcomes = true →
    ∃ told, told.length = c.workers.toNat ∧
      (∀ i < c.workers, ∃ r ∈ results, ∃ reason, r.index = i ∧
        told.filter (isMarked (workerMark i)) = [workerMark i ++ r.outcome.label ++ reason]) ∧
      lines = [reference.text] ++ told ++
        [Decimal.text ((labels results).count "Success") ++ " succeeded, "
          ++ Decimal.text ((labels results).count "Failure") ++ " failed ("
          ++ Decimal.text (results.countP (·.outcome.isTimeout)) ++ " timed out, "
          ++ Decimal.text 0 ++ " never reported)"]
  /-- Nothing but the report, with the numbers of its results. -/
  json : o.json = true →
    ∃ report : Report, lines = [report.toJson.pretty] ∧ report.targetUrl = c.targetUrl ∧
      report.proxy = c.proxy ∧ report.reference = reference ∧ report.results = results ∧
      report.successes.toNat = (labels results).count "Success" ∧
      report.failures.toNat = (labels results).count "Failure" ∧
      report.timeouts.toNat = results.countP (·.outcome.isTimeout) ∧ report.missing = 0

theorem label_eq_success_iff (outcome : Outcome) :
    outcome.label = "Success" ↔ outcome.isSuccess = true := by
  cases hSuccess : outcome.isSuccess <;> simp [Outcome.label, hSuccess]

theorem label_eq_failure_iff (outcome : Outcome) :
    outcome.label = "Failure" ↔ outcome.isSuccess = false := by
  cases hSuccess : outcome.isSuccess <;> simp [Outcome.label, hSuccess]

theorem count_success (results : List WorkerResult) :
    (labels results).count "Success" = results.countP (·.outcome.isSuccess) := by
  rw [labels, List.count, List.countP_map]
  refine List.countP_congr fun r _ => ?_
  simp [label_eq_success_iff]

theorem count_failure (results : List WorkerResult) :
    (labels results).count "Failure" = results.countP (!·.outcome.isSuccess) := by
  rw [labels, List.count, List.countP_map]
  refine List.countP_congr fun r _ => ?_
  simp [label_eq_failure_iff]

-- ---------------------------------------------------------------------------
-- Marked lines
-- ---------------------------------------------------------------------------

theorem line_verbose (r : WorkerResult) :
    r.line true = workerMark r.index ++ r.outcome.label
      ++ (" (" ++ Outcome.describe.reason r.outcome ++ ")") := by
  simp [WorkerResult.line, workerMark, Outcome.describe, String.append_assoc]

/-- **A mark tells workers apart**: where a number ends it is followed by a colon. -/
theorem isMarked_line (i : UInt64) (r : WorkerResult) :
    isMarked (workerMark i) (r.line true) = (r.index == i) := by
  -- a colon is no digit, so the number of a line ends where it stands
  have hColon (rest : List Char) : ∀ c ∈ (':' :: rest).head?, Decimal.isDigit c = false := by
    simp [Decimal.isDigit, Decimal.value?]
  rw [Bool.eq_iff_iff, isMarked, List.isPrefixOf_iff_prefix, beq_iff_eq]
  constructor
  · rintro ⟨rest, hLine⟩
    -- the two numbers are followed by a colon each, so they are the same
    have hDigits : Decimal.ofNat i.toNat ++ ':' :: (' ' :: rest)
        = Decimal.ofNat r.index.toNat ++ ':' :: (' ' :: (r.outcome.label
          ++ (" (" ++ Outcome.describe.reason r.outcome ++ ")")).toList) := by
      rw [line_verbose] at hLine
      simpa [workerMark, Decimal.text] using hLine
    exact UInt64.toNat_inj.mp (Decimal.ofNat_append_inj (hColon _) (hColon _) hDigits).symm
  · rintro rfl
    rw [line_verbose, String.append_assoc, String.toList_append]
    exact List.prefix_append _ _

/-- **Every worker has one marked line**, in which its word stands behind the mark. -/
theorem filter_isMarked {results : List WorkerResult} (hNodup : (results.map (·.index)).Nodup)
    {r : WorkerResult} (hr : r ∈ results) :
    (results.map (·.line true)).filter (isMarked (workerMark r.index)) = [r.line true] := by
  have hOne : ((results.map fun r => (r.index, r.line true)).filter (·.1 == r.index)).map Prod.snd
      = [r.line true] :=
    map_snd_filter_of_nodup (by simpa [Function.comp_def] using hNodup)
      (List.mem_map.mpr ⟨r, hr, rfl⟩)
  rw [← hOne, List.filter_map, List.filter_map, List.map_map]
  refine congrArg (List.map _) (List.filter_congr fun r' _ => ?_)
  exact isMarked_line r.index r'

-- ---------------------------------------------------------------------------
-- Runs that report on every worker
-- ---------------------------------------------------------------------------

section Reported

variable {c : Config} {results : List WorkerResult} (reference : Digest)
variable (hAll : (results.map (·.index)).Perm (Pool.indices c.workers.toNat))
include hAll

theorem length_eq_workers : results.length = c.workers.toNat := by
  simpa [Pool.length_indices] using hAll.length_eq

theorem exists_result {i : UInt64} (hi : i < c.workers) : ∃ r ∈ results, r.index = i :=
  List.mem_map.mp (hAll.mem_iff.mpr (Pool.mem_indices_iff.mpr hi))

theorem nodup_results : (results.map (·.index)).Nodup := by
  have hWord := c.workers.toNat_lt
  rw [hAll.nodup_iff, List.nodup_iff_count_le_one]
  intro i
  rw [Pool.count_indices (by omega)]
  split <;> omega

/-- **The numbers of the report** are those of the words. -/
theorem numbers_ofResults :
    let report := Report.ofResults c.targetUrl c.proxy reference c.workers results
    report.successes.toNat = (labels results).count "Success" ∧
    report.failures.toNat = (labels results).count "Failure" ∧
    report.timeouts.toNat = results.countP (·.outcome.isTimeout) ∧ report.missing = 0 := by
  intro report
  have hLength := length_eq_workers hAll
  have hWord : results.length < 2 ^ 64 := hLength ▸ c.workers.toNat_lt
  -- every result is a success or a failure
  have hSplit : results.length
      = results.countP (·.outcome.isSuccess) + results.countP (!·.outcome.isSuccess) := by
    simpa using List.length_eq_countP_add_countP fun r : WorkerResult => r.outcome.isSuccess
  have hFailures : report.failures.toNat
      = max c.workers.toNat results.length - results.countP (·.outcome.isSuccess) :=
    Report.toNat_failures _ _ _ _ hWord
  have hMissing : report.missing.toNat = c.workers.toNat - results.length :=
    Report.toNat_missing _ _ _ _ hWord
  refine ⟨?_, ?_, Report.toNat_count hWord Outcome.isTimeout, ?_⟩
  · rw [count_success]
    exact Report.toNat_count hWord Outcome.isSuccess
  · rw [count_failure]
    -- no worker is missing, so the failures are those that were reported
    omega
  · rw [← UInt64.toNat_inj, hMissing, hLength, Nat.sub_self]
    rfl

theorem passed_eq_all :
    (Report.ofResults c.targetUrl c.proxy reference c.workers results).passed
      = results.all (·.outcome.isSuccess) := by
  have hLength := length_eq_workers hAll
  have hWord : results.length < 2 ^ 64 := hLength ▸ c.workers.toNat_lt
  rw [Bool.eq_iff_iff, Report.passed_ofResults_iff _ _ _ _ hWord, List.all_eq_true]
  exact and_iff_right hLength.ge

/-- **A run passes** exactly if every worker shows success. -/
theorem passed_iff_success :
    (Report.ofResults c.targetUrl c.proxy reference c.workers results).passed = true ↔
      ∀ i < c.workers, ∃ r ∈ results, r.index = i ∧ r.outcome.label = "Success" := by
  rw [passed_eq_all reference hAll, List.all_eq_true]
  constructor
  · intro hEach i hi
    obtain ⟨r, hr, hIndex⟩ := exists_result hAll hi
    exact ⟨r, hr, hIndex, (label_eq_success_iff _).mpr (hEach r hr)⟩
  · intro hEach r hr
    have hi : r.index < c.workers :=
      Pool.mem_indices_iff.mp (hAll.mem_iff.mp (List.mem_map_of_mem hr))
    obtain ⟨r', hr', hIndex, hLabel⟩ := hEach r.index hi
    -- nobody reports twice
    rw [List.inj_on_of_nodup_map (nodup_results hAll) hr' hr hIndex] at hLabel
    exact (label_eq_success_iff _).mp hLabel

/-- **The lines of a run** say the same of its results in each of the three ways. -/
theorem console_ofResults (o : RunOptions) :
    Console c reference results o (shownLines o reference results ++ closingLines o
      (.ofResults c.targetUrl c.proxy reference c.workers results)) := by
  have hLength := length_eq_workers hAll
  obtain ⟨hSuccesses, hFailures, hTimeouts, hMissing⟩ := numbers_ofResults reference hAll
  constructor
  case plain =>
    intro hJson hPlain
    refine ⟨?_, by rw [labels, List.length_map, hLength], fun label hLabel => ?_⟩
    · simp [shownLines, closingLines, hJson, hPlain, labels, WorkerResult.line]
    · obtain ⟨r, -, rfl⟩ := List.mem_map.mp hLabel
      rw [label_eq_success_iff, label_eq_failure_iff]
      exact (Bool.eq_false_or_eq_true r.outcome.isSuccess)
  case verbose =>
    intro hJson hVerbose
    refine ⟨results.map (·.line true), by rw [List.length_map, hLength], fun i hi => ?_, ?_⟩
    · obtain ⟨r, hr, rfl⟩ := exists_result hAll hi
      -- one line of the report is about this worker, and no other has its mark
      have hLine := filter_isMarked (nodup_results hAll) hr
      rw [line_verbose] at hLine
      exact ⟨r, hr, _, rfl, hLine⟩
    · simp only [shownLines, closingLines, hJson, hVerbose, Report.summary, hSuccesses, hFailures,
        hTimeouts, hMissing]
      rfl
  case json =>
    intro hJson
    refine ⟨.ofResults c.targetUrl c.proxy reference c.workers results, ?_, rfl, rfl, rfl, rfl,
      hSuccesses, hFailures, hTimeouts, hMissing⟩
    simp [shownLines, closingLines, hJson]

end Reported

end ProxyAudit.Session
