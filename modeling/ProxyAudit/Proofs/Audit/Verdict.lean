import Mathlib
import ProxyAudit.Proofs.Audit.Order
import ProxyAudit.Proofs.Digest.Stream
import ProxyAudit.Proofs.Report.Accounting

/-!
# The verdict of an audit

An audit promises that a worker reports a match exactly if the proxy brought it, in full, a body
with the digest of the reference. What a worker hears of a body are its pieces, cut in any way; what
it hears of a transfer that broke off is the fault. So bodies of the same bytes match however they
arrive, bodies of other bytes match only if they collide with the reference, and a transfer that
broke off never has a body to compare.

Main results:

* `isVerdict_ofFetch`       — what a worker makes of its transfer.
* `verdict_sound_complete`  — what the report of an audit says about the transfers of its workers.
-/

namespace ProxyAudit

-- ---------------------------------------------------------------------------
-- What a transfer brought
-- ---------------------------------------------------------------------------

/-- The body that a transfer brought: all its pieces, if it was completed with a success. -/
def Delivery.body? : Delivery → Option Bytes
  | whole status pieces => if 200 ≤ status ∧ status < 300 then some pieces.flatten else none
  | broken _ => none

theorem Delivery.body?_eq_some_iff {d : Delivery} {b : Bytes} :
    d.body? = some b ↔ ∃ status pieces, d = .whole status pieces ∧ 200 ≤ status ∧ status < 300 ∧
      pieces.flatten = b := by
  cases d with
  | broken f => simp [body?]
  | whole status pieces =>
    by_cases hStatus : 200 ≤ status ∧ status < 300
    · simp [body?, hStatus]
    · simp only [body?, if_neg hStatus, reduceCtorEq, false_iff]
      rintro ⟨status', pieces', hWhole, hLow, hHigh, -⟩
      cases hWhole
      exact hStatus ⟨hLow, hHigh⟩

theorem Delivery.result_of_body? {d : Delivery} {b : Bytes} (h : d.body? = some b) :
    d.result = .ok ⟨Digest.ofBytes b, UInt64.ofNat b.length⟩ := by
  obtain ⟨status, pieces, rfl, hLow, hHigh, rfl⟩ := body?_eq_some_iff.mp h
  simp [result, FetchResult.ofReply, FetchError.ofStatus?, hLow, hHigh, FetchedBody.ofPieces_eq]

/-- Where no body was brought there is an error. -/
theorem Delivery.exists_error_of_body? {d : Delivery} (h : d.body? = none) :
    ∃ e, d.result = .error e := by
  cases d with
  | broken f => exact ⟨_, rfl⟩
  | whole status pieces =>
    by_cases hStatus : 200 ≤ status ∧ status < 300
    · simp [body?, hStatus] at h
    · exact ⟨.http status, by simp [result, FetchResult.ofReply, FetchError.ofStatus?, hStatus]⟩

/-- What an outcome has to say about the transfer of a worker. -/
structure IsVerdict (reference : Digest) (d : Delivery) (outcome : Outcome) : Prop where
  matched_iff : ∀ n, outcome = .matched n ↔
    ∃ b, d.body? = some b ∧ Digest.ofBytes b = reference ∧ n = UInt64.ofNat b.length
  mismatch_iff : ∀ expected actual n, outcome = .mismatch expected actual n ↔
    ∃ b, d.body? = some b ∧ expected = reference ∧ actual = Digest.ofBytes b ∧
      expected ≠ actual ∧ n = UInt64.ofNat b.length
  fetchFailed_iff : (∃ e, outcome = .fetchFailed e) ↔ d.body? = none
  /-- A transfer that broke off is reported with its fault. -/
  of_broken : ∀ f, d = .broken f → outcome = .fetchFailed (.ofFault f)

/-- **One verdict.** What a worker makes of its transfer says what came of it. -/
theorem isVerdict_ofFetch (reference : Digest) (d : Delivery) :
    IsVerdict reference d (.ofFetch reference d.result) := by
  -- a fault is an outcome whatever the reference is, so it needs no case
  have hBroken (f : Fault) (h : d = .broken f) :
      Outcome.ofFetch reference d.result = .fetchFailed (.ofFault f) := by
    rw [h]
    rfl
  cases hBody : d.body? with
  | none =>
    obtain ⟨e, he⟩ := Delivery.exists_error_of_body? hBody
    -- no body: neither of the two verdicts on a body can be meant
    exact ⟨by simp [he, Outcome.ofFetch, hBody], by simp [he, Outcome.ofFetch, hBody],
      by simp [he, Outcome.ofFetch, hBody], hBroken⟩
  | some b =>
    have hResult := Delivery.result_of_body? hBody
    by_cases hSame : Digest.ofBytes b = reference
    · have hOutcome : Outcome.ofFetch reference d.result = .matched (UInt64.ofNat b.length) := by
        simp [hResult, Outcome.ofFetch, Outcome.compare, hSame]
      -- a match excludes a mismatch, which speaks of two different digests
      refine ⟨?_, ?_, by simp [hOutcome, hBody], hBroken⟩
      · intro n
        simp [hOutcome, hBody, hSame, eq_comm]
      · intro expected actual n
        simp only [hOutcome, hBody, reduceCtorEq, false_iff]
        rintro ⟨b', hb, rfl, rfl, hOther, -⟩
        cases hb
        exact hOther hSame.symm
    · have hOutcome : Outcome.ofFetch reference d.result
          = .mismatch reference (Digest.ofBytes b) (UInt64.ofNat b.length) := by
        simp [hResult, Outcome.ofFetch, Outcome.compare, hSame]
      refine ⟨?_, ?_, by simp [hOutcome, hBody], hBroken⟩
      · intro n
        simp [hOutcome, hBody, hSame]
      · intro expected actual n
        simp only [hOutcome, hBody, Outcome.mismatch.injEq, Option.some.injEq]
        constructor
        · rintro ⟨rfl, rfl, rfl⟩
          exact ⟨b, rfl, rfl, rfl, fun h => hSame h.symm, rfl⟩
        · rintro ⟨b', rfl, rfl, rfl, -, rfl⟩
          exact ⟨rfl, rfl, rfl⟩

-- ---------------------------------------------------------------------------
-- The transfers of one worker
-- ---------------------------------------------------------------------------

/-- What came of the fetches of one worker, in order. -/
def transfersOf {α : Type} (seen : List (Sighting α)) (index : UInt64) : List α :=
  ((fetchesIn seen).filter (·.1 == index)).map Prod.snd

theorem map_snd_filter_of_nodup {α : Type} {entries : List (UInt64 × α)}
    (hNodup : (entries.map Prod.fst).Nodup) {i : UInt64} {a : α} (h : (i, a) ∈ entries) :
    (entries.filter (·.1 == i)).map Prod.snd = [a] := by
  induction entries with
  | nil => cases h
  | cons x rest ih =>
    rw [List.map_cons, List.nodup_cons] at hNodup
    rcases List.mem_cons.mp h with rfl | hRest
    · -- the first entry, and no other has its key
      have hNone : rest.filter (·.1 == i) = [] := by
        rw [List.filter_eq_nil_iff]
        intro y hy hKey
        exact hNodup.1 (List.mem_map.mpr ⟨y, hy, beq_iff_eq.mp hKey⟩)
      simp [hNone]
    · have hOther : x.1 ≠ i := by
        rintro rfl
        exact hNodup.1 (List.mem_map.mpr ⟨_, hRest, rfl⟩)
      simpa [hOther] using ih hNodup.2 hRest

/-- In a run in which everybody reports, each result is about a fetch of its worker. -/
theorem IsWhole.exists_fetch {α : Type} {a : Assignment} {result : α → FetchResult}
    {workers : UInt64} {results : List WorkerResult} {seen : List (Sighting α)}
    (hWhole : IsWhole a result workers results seen) {r : WorkerResult} (hr : r ∈ results) :
    ∃ came, (r.index, came) ∈ fetchesIn seen ∧
      r.outcome = .ofFetch a.reference (result came) := by
  have hMem : r.verdict ∈ (fetchesIn seen).map (verdictOn a.reference result) :=
    hWhole.verdicts_perm.mem_iff.mpr (List.mem_map_of_mem hr)
  obtain ⟨⟨i, came⟩, hFetch, hVerdict⟩ := List.mem_map.mp hMem
  simp only [verdictOn, WorkerResult.verdict, Prod.mk.injEq] at hVerdict
  obtain ⟨rfl, hOutcome⟩ := hVerdict
  exact ⟨came, hFetch, hOutcome.symm⟩

/-- In a run in which everybody reports, each result is about the one transfer of its worker. -/
theorem IsWhole.transfersOf_eq {α : Type} {a : Assignment} {result : α → FetchResult}
    {workers : UInt64} {results : List WorkerResult} {seen : List (Sighting α)}
    (hWhole : IsWhole a result workers results seen)
    (hCourse : Course a result workers results seen) {r : WorkerResult} (hr : r ∈ results) :
    ∃ came, transfersOf seen r.index = [came] ∧
      r.outcome = .ofFetch a.reference (result came) := by
  obtain ⟨came, hFetch, hOutcome⟩ := hWhole.exists_fetch hr
  exact ⟨came, map_snd_filter_of_nodup hCourse.fetchers_nodup hFetch, hOutcome⟩

/-- A run in which everybody reports passes exactly if everybody reports a match. -/
theorem passed_iff_of_perm {workers : UInt64} {results : List WorkerResult}
    (hAll : (results.map (·.index)).Perm (Pool.indices workers.toNat)) (targetUrl proxy : String)
    (reference : Digest) :
    (Report.ofResults targetUrl proxy reference workers results).passed = true ↔
      ∀ r ∈ results, ∃ n, r.outcome = .matched n := by
  have hWord := workers.toNat_lt
  have hLength : results.length = workers.toNat := by
    simpa [Pool.length_indices] using hAll.length_eq
  rw [Report.passed_ofResults_iff _ _ _ _ (by omega)]
  have hSuccess (o : Outcome) : o.isSuccess = true ↔ ∃ n, o = .matched n := by
    cases o <;> simp [Outcome.isSuccess]
  simp only [hSuccess, hLength, le_refl, true_and]

-- ---------------------------------------------------------------------------
-- All audits
-- ---------------------------------------------------------------------------

/--
**The verdict is sound and complete.** Whatever a world answers, however many workers there are and
whoever gets the next turn, a report on workers none of which dies says of each of them what came
of its one transfer through the proxy. With the body that the direct transfer brought:

* the reference is the digest of that body, and each worker reports once;
* a worker reports a match, a mismatch or a failed fetch by `IsVerdict`;
* a worker whose transfer brought the same body matches, in whatever pieces it arrived, and one
  that matches on another body has found two bodies with one digest;
* the audit passes exactly if every worker matches, so it passes with no workers, and if every
  worker was brought the same body.
-/
theorem verdict_sound_complete {σ : Type} (c : Config) (s : Surroundings σ)
    (onReference : Digest → StateM (World σ) Unit) (onResult : WorkerResult → StateM (World σ) Unit)
    (hPeace : s.schedule.IsPeaceful)
    (hDraws : ∀ n lo hi, lo.nanos < hi.nanos → (s.draw n lo hi).isSome = true)
    (w : World σ) {report : Report}
    (hReport : ((c.audit s.machine onReference onResult).run w).1 = .ok report) :
    let seen := ((c.observe s.setting onReference onResult).run (.fresh w)).2.seen
    ∃ origin body, seen.head? = some (.fetched none c.targetUrl .direct c.timeouts origin) ∧
      origin.body? = some body ∧ report.reference = Digest.ofBytes body ∧
      (report.results.map (·.index)).Perm (Pool.indices c.workers.toNat) ∧
      (∀ r ∈ report.results, ∃ d, transfersOf seen r.index = [d] ∧
        IsVerdict report.reference d r.outcome ∧
        (d.body? = some body → r.outcome = .matched (UInt64.ofNat body.length)) ∧
        (∀ other n, d.body? = some other → other ≠ body → r.outcome = .matched n →
          Digest.ofBytes other = Digest.ofBytes body)) ∧
      (report.passed = true ↔
        ∀ i < c.workers, ∃ r ∈ report.results, r.index = i ∧ ∃ n, r.outcome = .matched n) ∧
      ((∀ i < c.workers, ∀ d ∈ transfersOf seen i, d.body? = some body) →
        report.passed = true) := by
  intro seen
  have hErases := c.observe_world s.setting onReference onResult (.fresh w)
  have hObserved : ((c.observe s.setting onReference onResult).run (.fresh w)).1 = .ok report :=
    hErases.1.trans hReport
  obtain ⟨origin, fetched, rest, hOrigin, hReportEq, hSeen, hCourse, hAll⟩ :=
    Config.observe_of_report onReference onResult hPeace.isComplete hObserved
  have hWhole := hAll hPeace fun w lo hi hRoom => hDraws w.ticks lo hi hRoom
  replace hSeen : seen = .fetched none c.targetUrl .direct c.timeouts origin
    :: .told fetched.digest :: rest := hSeen
  -- the body that the reference is about
  obtain ⟨body, hBody⟩ : ∃ body, origin.body? = some body := by
    cases hNone : origin.body? with
    | some body => exact ⟨body, rfl⟩
    | none =>
      obtain ⟨e, he⟩ := Delivery.exists_error_of_body? hNone
      have hError : s.setting.result origin = .error e := he
      rw [hOrigin] at hError
      contradiction
  -- the reference is the digest of that body, as what the direct fetch was turned into
  have hDigest : fetched.digest = Digest.ofBytes body := by
    have hResult : s.setting.result origin = .ok ⟨Digest.ofBytes body, _⟩ :=
      Delivery.result_of_body? hBody
    rw [hOrigin] at hResult
    cases hResult
    rfl
  have hReference : report.reference = Digest.ofBytes body := by
    rw [hReportEq, ← hDigest]
    rfl
  -- the direct transfer comes before all workers and is no transfer of any of them
  have hTransfers (i : UInt64) : transfersOf seen i = transfersOf rest i := by
    rw [hSeen]
    rfl
  -- the verdicts of the workers
  have hVerdicts : ∀ r ∈ report.results, ∃ d, transfersOf seen r.index = [d] ∧
      IsVerdict report.reference d r.outcome := by
    intro r hr
    obtain ⟨d, hTransfer, hOutcome⟩ := hWhole.transfersOf_eq hCourse hr
    refine ⟨d, (hTransfers _).trans hTransfer, ?_⟩
    rw [hOutcome, hReference, ← hDigest]
    exact isVerdict_ofFetch fetched.digest d
  have hMatched {r : WorkerResult} {d : Delivery} (hVerdict : IsVerdict report.reference d r.outcome)
      (hSame : d.body? = some body) : r.outcome = .matched (UInt64.ofNat body.length) :=
    (hVerdict.matched_iff _).mpr ⟨body, hSame, hReference.symm, rfl⟩
  have hPassed : report.passed = true ↔ ∀ r ∈ report.results, ∃ n, r.outcome = .matched n := by
    have := passed_iff_of_perm hWhole.results_perm c.targetUrl c.proxy fetched.digest
    rwa [← hReportEq] at this
  refine ⟨origin, body, by rw [hSeen]; rfl, hBody, hReference, hWhole.results_perm, ?worker, ?passed,
    ?same⟩
  case worker =>
    intro r hr
    obtain ⟨d, hTransfer, hVerdict⟩ := hVerdicts r hr
    refine ⟨d, hTransfer, hVerdict, hMatched hVerdict, ?_⟩
    -- the body of a match is the one body of the transfer, so its digest is the reference
    intro other n hOther _ hMatch
    obtain ⟨b, hb, hCollides, -⟩ := (hVerdict.matched_iff n).mp hMatch
    rw [hOther] at hb
    cases hb
    rw [hCollides, hReference]
  case passed =>
    rw [hPassed]
    constructor
    · -- each index has a result, and each result has an index: one report a worker
      intro hEach i hi
      have hMem : i ∈ report.results.map (·.index) :=
        hWhole.results_perm.mem_iff.mpr (Pool.mem_indices_iff.mpr hi)
      obtain ⟨r, hr, rfl⟩ := List.mem_map.mp hMem
      exact ⟨r, hr, rfl, hEach r hr⟩
    · intro hEach r hr
      have hi : r.index < c.workers := Pool.mem_indices_iff.mp
        (hWhole.results_perm.mem_iff.mp (List.mem_map_of_mem hr))
      obtain ⟨r', hr', hIndex, hMatch⟩ := hEach r.index hi
      -- nobody reports twice
      rwa [List.inj_on_of_nodup_map hCourse.results_nodup hr' hr hIndex] at hMatch
  case same =>
    intro hSame
    rw [hPassed]
    intro r hr
    obtain ⟨d, hTransfer, hVerdict⟩ := hVerdicts r hr
    have hi : r.index < c.workers := Pool.mem_indices_iff.mp
      (hWhole.results_perm.mem_iff.mp (List.mem_map_of_mem hr))
    exact ⟨_, hMatched hVerdict (hSame r.index hi d (by simp [hTransfer]))⟩

/-- Surroundings that answer every request in full; the pieces depend on how many came before. -/
def Surroundings.replying (pieces : Nat → List Bytes) : Surroundings Nat where
  isWatchable := true
  answer _ _ := modifyGet fun n => (.complete 200 none (pieces n), n + 1)
  environment _ := none
  current := "/"
  draw := Draw.ofNumber
  clock := id
  schedule := Pool.eager

/-- Two workers. The first is brought the body of the reference in other pieces, and the second is
brought another body. -/
theorem verdict_of_damage :
    let c : Config := { Config.default with targetUrl := "http://[::1]/", workers := 2 }
    let s : Surroundings Nat := .replying fun
      | 0 => [[1], [2]]
      | 1 => [[1, 2], []]
      | _ => [[9]]
    let w : World Nat := .fresh 0 .empty
    let seen := ((c.observe s.setting (fun _ => pure ()) (fun _ => pure ())).run (.fresh w)).2.seen
    ∃ report, ((c.audit s.machine (fun _ => pure ()) (fun _ => pure ())).run w).1 = .ok report ∧
      (report.results.map fun r => r.outcome.isSuccess) = [true, false] ∧
      (∀ r ∈ report.results, ∃ d, transfersOf seen r.index = [d] ∧
        IsVerdict report.reference d r.outcome) ∧
      ¬ ∀ i < c.workers, ∃ r ∈ report.results, r.index = i ∧ ∃ n, r.outcome = .matched n := by
  intro c s w seen
  have hRun : (((c.audit s.machine (fun _ => pure ()) (fun _ => pure ())).run w).1.map
      fun report => (report.passed, report.results.map fun r => r.outcome.isSuccess))
        = .ok (false, [true, false]) := by decide +kernel
  cases hReport : ((c.audit s.machine (fun _ => pure ()) (fun _ => pure ())).run w).1 with
  | error e =>
    rw [hReport] at hRun
    contradiction
  | ok report =>
    rw [hReport] at hRun
    simp only [Except.map, Except.ok.injEq, Prod.mk.injEq] at hRun
    obtain ⟨_, _, -, -, -, -, hWorkers, hPassed, -⟩ := verdict_sound_complete c s
      (fun _ => pure ()) (fun _ => pure ()) Pool.eager_isPeaceful
      (fun n _ _ hRoom => Draw.isSome_ofNumber n hRoom) w hReport
    refine ⟨report, rfl, hRun.2, fun r hr => ?_, fun hEach => ?_⟩
    · obtain ⟨d, hTransfer, hVerdict, -⟩ := hWorkers r hr
      exact ⟨d, hTransfer, hVerdict⟩
    · have hFailed := hPassed.mpr hEach
      rw [hRun.1] at hFailed
      contradiction

end ProxyAudit
