import Mathlib
import ProxyAudit.Proofs.Audit.Provenance
import ProxyAudit.Proofs.CommandLine.Commands
import ProxyAudit.Proofs.Fetch.Steady
import ProxyAudit.Proofs.Session.Console
import ProxyAudit.Proofs.Session.Gate

/-!
# The three commands agree

In a steady world a target has one body on the direct route and one on the route through the
proxy, or none. A reference shows the digest of the first, a single fetch shows the second, and a
run compares the two, once for each worker. So a run says nothing that the other two commands do
not say.

Main results:

* `fetch_ends`, `reference_ends`, `run_ends`  — what each command shows of the two bodies.
* `commands_agree`  — a run succeeds exactly if the reference agrees with what a fetch prints.
-/

namespace ProxyAudit.Session

open World CommandLine

variable {σ : Type}

/-- The line that a single fetch prints. -/
def fetchLine (body : FetchedBody) : String :=
  body.digest.text ++ "  " ++ Decimal.text body.bytes.toNat ++ " bytes"

/-- A printed line starts with the digest, and a blank follows. -/
theorem toList_fetchLine (body : FetchedBody) : ∃ rest,
    (fetchLine body).toList = body.digest.hex ++ ' ' :: rest := by
  refine ⟨' ' :: (Decimal.text body.bytes.toNat ++ " bytes").toList, ?_⟩
  simp [fetchLine, Digest.text, String.toList_append]

/-- What a command has to show: the body of its route, if its configuration passes the gate. -/
def gated (verdict : Except Config.Fault Unit) (body? : Option FetchedBody) : Option FetchedBody :=
  match verdict with
  | .ok () => body?
  | .error _ => none

theorem gated_eq_some_iff {verdict : Except Config.Fault Unit} {body? : Option FetchedBody}
    {body : FetchedBody} :
    gated verdict body? = some body ↔ verdict = .ok () ∧ body? = some body := by
  cases verdict <;> simp [gated]

/-- What passes the whole check passes that of its target. -/
theorem gated_checkTarget {c : Config} {body? : Option FetchedBody} {body : FetchedBody}
    (h : gated c.check body? = some body) : gated c.checkTarget body? = some body := by
  obtain ⟨hCheck, hBody⟩ := gated_eq_some_iff.mp h
  exact gated_eq_some_iff.mpr ⟨Config.checkTarget_of_check hCheck, hBody⟩

/-- Who prints one line for a body has one. -/
theorem exists_of_printed_line {before : List String} {shown : Option FetchedBody} {line : String}
    (h : before ++ (shown.map fetchLine).toList = before ++ [line]) :
    ∃ body, shown = some body ∧ line = fetchLine body := by
  have hLine := List.append_cancel_left h
  cases shown with
  | none => contradiction
  | some body => exact ⟨body, rfl, (List.singleton_inj.mp hLine).symm⟩

theorem printed_loading (s : Surroundings σ) (l : Locations) (path : Option String) (w : World σ) :
    ((loading s l path).run w).2.printed = w.printed :=
  ((records_loading s l path).mono fun _ => Event.IsLogLine.isSilent).printed_eq w

theorem printed_fetch (s : Surroundings σ) (url : String) (route : Route) (limits : TimeoutSection)
    (w : World σ) : ((s.machine.fetch url route limits).run w).2.printed = w.printed :=
  ((s.records_transfer url route limits).mono fun _ => Event.IsTraffic.isSilent).printed_eq w

/-- A reference that has a body prints its digest, and compares it if one is expected. -/
theorem concludeReference_ok (s : Surroundings σ) (c : Config) (expect : Option Digest)
    (body : FetchedBody) (w : World σ) :
    let session := (concludeReference s c expect (.ok body) >>= settle s).run w
    session.2.printed = w.printed ++ [body.digest.text] ∧
      session.1 = statusOf (expect.all (· = body.digest)) := by
  have hPrinted := printed_record_printed body.digest.text w
  cases expect with
  | none => exact ⟨hPrinted, rfl⟩
  | some expected =>
    simp only [concludeReference, Option.all_some]
    split
    · next hSame =>
      refine ⟨hPrinted, ?_⟩
      rw [decide_eq_true hSame]
      rfl
    · next hOther =>
      refine ⟨?_, ?_⟩
      · -- the complaint goes to the other stream
        exact (printed_record_complained _ _).trans hPrinted
      · rw [decide_eq_false hOther]
        rfl

-- ---------------------------------------------------------------------------
-- Verdicts on one body
-- ---------------------------------------------------------------------------

theorem statusOf_eq_zero_iff (isGood : Bool) : statusOf isGood = 0 ↔ isGood = true := by
  cases isGood <;> decide

section Verdicts

variable {results : List WorkerResult} {reference : Digest} {proxied : Option FetchedBody}
variable (hVerdicts : ∀ r ∈ results, ∃ fetched : FetchResult, fetched.toOption = proxied ∧
  r.outcome = .ofFetch reference fetched)
include hVerdicts

/-- Workers that are all brought the same body match it, or none of them does. -/
theorem outcome_of_verdicts {r : WorkerResult} (hr : r ∈ results) :
    (∀ body, proxied = some body → body.digest = reference → r.outcome = .matched body.bytes) ∧
      r.outcome.isSuccess = proxied.any (·.digest = reference) := by
  obtain ⟨fetched, rfl, hOutcome⟩ := hVerdicts r hr
  rw [hOutcome]
  cases fetched with
  | error e => exact ⟨fun _ hNone => by contradiction, rfl⟩
  | ok body =>
    refine ⟨fun other hSame hDigest => ?_, Outcome.isSuccess_compare reference body⟩
    obtain rfl : body = other := Option.some.inj hSame
    exact if_pos hDigest

theorem all_isSuccess (hSome : results ≠ []) :
    results.all (·.outcome.isSuccess) = proxied.any (·.digest = reference) := by
  rw [Bool.eq_iff_iff, List.all_eq_true]
  constructor
  · intro hAll
    obtain ⟨r, hr⟩ := List.exists_mem_of_ne_nil results hSome
    rw [← (outcome_of_verdicts hVerdicts hr).2]
    exact hAll r hr
  · intro hMatch r hr
    rw [(outcome_of_verdicts hVerdicts hr).2]
    exact hMatch

end Verdicts

-- ---------------------------------------------------------------------------
-- Single sessions
-- ---------------------------------------------------------------------------

section Ends

variable {s : Surroundings σ} {reply : TimeoutSection → Request → Reply} {l : Locations}
variable {args : List String} {path : Option String} {c : Config} {w : World σ}
variable (hSteady : s.IsSteady reply) (hLoaded : ((loading s l path).run w).1 = .ok c)
include hSteady hLoaded

/-- A command that fetches once, and what is left of its session then. -/
theorem run_of_one_fetch {command : Command} (hParse : parse args = .ok ⟨path, command⟩)
    {gate : Config → Except Config.Fault Unit} (hGate : command.gate? = some gate)
    (hOverride : command.override c = c) {route : Route} (hRoute : route.IsNamed)
    {finish : FetchResult → StateM (World σ) (Except Failure UInt32)}
    (hObey : obey s c command = s.machine.fetch c.targetUrl route c.timeouts >>= finish) :
    ∃ fetched w', fetched.toOption = s.bodyOf reply c.targetUrl route c.timeouts ∧
      w'.printed = w.printed ∧
      (runIn s.platform l args).run w = (finish fetched >>= settle s).run w' := by
  set w₁ := ((loading s l path).run w).2
  refine ⟨((s.machine.fetch c.targetUrl route c.timeouts).run w₁).1,
    ((s.machine.fetch c.targetUrl route c.timeouts).run w₁).2,
    Surroundings.fetch_steady hSteady _ hRoute _ w₁, ?_, ?_⟩
  · exact (printed_fetch s _ _ _ w₁).trans (printed_loading s l path w)
  · have hRun := run_of_loaded s l w hParse hGate hLoaded
    rw [hOverride, hObey] at hRun
    exact hRun

/-- What a single fetch shows: the body that came through the proxy. -/
theorem fetch_ends (hParse : parse args = .ok ⟨path, .fetch none none⟩) :
    let session := (runIn s.platform l args).run w
    let shown := gated c.check (s.bodyOf reply c.targetUrl (.proxy c.proxy) c.timeouts)
    session.1 = statusOf shown.isSome ∧
      session.2.printed = w.printed ++ (shown.map fetchLine).toList := by
  intro session shown
  -- a configuration that is turned away shows nothing, and neither does a failed fetch
  cases hCheck : c.check with
  | error fault =>
    obtain ⟨e, -, -, -, hPrinted, -, hStatus, -⟩ :=
      run_of_turnsAway s l w hParse rfl (.inr ⟨c, fault, hLoaded, hCheck⟩)
    have hShown : shown = none := congrArg (gated · _) hCheck
    rw [hShown]
    exact ⟨hStatus, hPrinted.trans (List.append_nil _).symm⟩
  | ok =>
    obtain ⟨fetched, w', hCame, hQuiet, hRun⟩ := run_of_one_fetch hSteady hLoaded hParse rfl rfl
      (Config.permits_proxy hCheck).isNamed (obey_fetch s hCheck none none)
    have hShown : shown = fetched.toOption := (congrArg (gated · _) hCheck).trans hCame.symm
    rw [hShown, ← hQuiet]
    cases fetched with
    | error e =>
      refine ⟨congrArg Prod.fst hRun, (congrArg (·.2.printed) hRun).trans ?_⟩
      exact (printed_record_complained _ w').trans (List.append_nil _).symm
    | ok body =>
      refine ⟨congrArg Prod.fst hRun, (congrArg (·.2.printed) hRun).trans ?_⟩
      exact printed_record_printed (fetchLine body) w'

/-- What a reference shows: the digest of the body that came directly. -/
theorem reference_ends {expect : Option Digest}
    (hParse : parse args = .ok ⟨path, .reference none expect⟩) :
    let session := (runIn s.platform l args).run w
    let shown := gated c.checkTarget (s.bodyOf reply c.targetUrl .direct c.timeouts)
    session.1 = statusOf (shown.any fun body => expect.all (· = body.digest)) ∧
      session.2.printed = w.printed ++ (shown.map (·.digest.text)).toList := by
  intro session shown
  -- as for a fetch, but only the target and the timeouts are checked
  cases hCheck : c.checkTarget with
  | error fault =>
    obtain ⟨e, -, -, -, hPrinted, -, hStatus, -⟩ :=
      run_of_turnsAway s l w hParse rfl (.inr ⟨c, fault, hLoaded, hCheck⟩)
    have hShown : shown = none := congrArg (gated · _) hCheck
    rw [hShown]
    exact ⟨hStatus, hPrinted.trans (List.append_nil _).symm⟩
  | ok =>
    obtain ⟨fetched, w', hCame, hQuiet, hRun⟩ := run_of_one_fetch hSteady hLoaded hParse rfl rfl
      c.permits_direct.isNamed (obey_reference s hCheck none expect)
    have hShown : shown = fetched.toOption := (congrArg (gated · _) hCheck).trans hCame.symm
    rw [hShown, ← hQuiet]
    cases fetched with
    | error e =>
      refine ⟨congrArg Prod.fst hRun, (congrArg (·.2.printed) hRun).trans ?_⟩
      exact (printed_record_complained _ w').trans (List.append_nil _).symm
    | ok body =>
      obtain ⟨hPrinted, hStatus⟩ := concludeReference_ok s c expect body w'
      exact ⟨(congrArg Prod.fst hRun).trans hStatus,
        (congrArg (·.2.printed) hRun).trans hPrinted⟩

/-- The audit of a run whose options override nothing. -/
def auditOf (s : Surroundings σ) (c : Config) (o : RunOptions) :
    StateM (World σ) (Except AuditError Report) :=
  c.audit s.machine (showReference o) (showResult o)

/-- What a run shows: the digest of the body that came directly, and a verdict for each worker on
the body that came through the proxy. -/
theorem run_ends {json verbose : Bool}
    (hParse : parse args = .ok ⟨path, .run (showing json verbose)⟩)
    (hPeace : s.schedule.IsPeaceful)
    (hDraws : ∀ n lo hi, lo.nanos < hi.nanos → (s.draw n lo hi).isSome = true)
    (hMemory : Capacity.fits c.workers Capacity.resultEntry = true) :
    let o := showing json verbose
    let session := (runIn s.platform l args).run w
    let shown := gated c.check (s.bodyOf reply c.targetUrl .direct c.timeouts)
    let proxied := s.bodyOf reply c.targetUrl (.proxy c.proxy) c.timeouts
    (shown = none ∧ session.1 = failure ∧ session.2.printed = w.printed) ∨
      ∃ body report lines, shown = some body ∧
        ((auditOf s c o).run ((loading s l path).run w).2).1 = .ok report ∧
        (report.results.map (·.index)).Perm (Pool.indices c.workers.toNat) ∧
        (∀ r ∈ report.results, ∃ fetched : FetchResult, fetched.toOption = proxied ∧
          r.outcome = .ofFetch body.digest fetched) ∧
        session.2.printed = w.printed ++ lines ∧ Console c body.digest report.results o lines ∧
        session.1 = statusOf (report.results.all (·.outcome.isSuccess)) := by
  intro o session shown proxied
  set w₁ := ((loading s l path).run w).2
  have hLoad : (loading s l path).run w = (.ok c, w₁) := Prod.ext hLoaded rfl
  -- the direct transfer of the run brings the body that the world has for it
  have hCame : ((s.setting.transfer c.targetUrl .direct c.timeouts).run w₁).1.result.toOption
      = s.bodyOf reply c.targetUrl .direct c.timeouts :=
    Surroundings.result_steady hSteady _ c.permits_direct.isNamed _ w₁
  rcases observeRun_cases (o := o) s c hPeace hDraws hMemory w₁ with
    ⟨hReason, ⟨e, hError⟩, hNone⟩
    | ⟨body, results, rest, hCheck, hBody, hReport, hSeen, hWhole, hShown⟩
  case inl =>
    obtain ⟨hLines, -, hStatus⟩ :=
      run_of_error (c := c) s l hParse hLoad hPeace.isComplete hError hNone
    -- the run showed nothing: it was turned away, or no body came directly
    refine .inl ⟨?_, hStatus, hLines⟩
    rw [Option.eq_none_iff_forall_ne_some]
    intro body hShown
    obtain ⟨hCheck, hDirect⟩ := gated_eq_some_iff.mp hShown
    rcases hReason with hNotSound | ⟨e, hFailed⟩
    · exact hNotSound hCheck
    · rw [hFailed, hDirect] at hCame
      contradiction
  case inr =>
    -- the run showed a report, and all its workers fetched through the proxy
    obtain ⟨hPrinted, -, hStatus⟩ :=
      run_of_report (c := c) s l hParse hLoad hPeace.isComplete hReport
    have hAll := hWhole.results_perm
    set report := Report.ofResults c.targetUrl c.proxy body.digest c.workers results
    have hLines : session.2.printed
        = w.printed ++ (shownLines o body.digest results ++ closingLines o report) :=
      hShown ▸ hPrinted
    rw [hBody] at hCame
    refine .inr ⟨body, report, _, gated_eq_some_iff.mpr ⟨hCheck, hCame.symm⟩, ?audit, hAll,
      ?verdicts, hLines, console_ofResults body.digest hAll o, ?status⟩
    case audit =>
      have hObserved := (c.observe_world s.setting (showReference o) (showResult o) (.fresh w₁)).1
      exact hObserved.symm.trans hReport
    case status =>
      rw [hStatus, passed_eq_all body.digest hAll]
      rfl
    case verdicts =>
      intro r hr
      -- whenever the worker fetched, the world gave what it gives to every proxied fetch
      obtain ⟨came, hFetch, hOutcome⟩ := hWhole.exists_fetch hr
      obtain ⟨w', rfl⟩ := came_of_mem_fetchesIn hSeen hFetch
      refine ⟨_, ?_, hOutcome⟩
      exact Surroundings.result_steady hSteady _ (Config.permits_proxy hCheck).isNamed _ w'

/-- **A run succeeds** if both routes bring a body, with one digest. -/
theorem run_succeeds_iff {json verbose : Bool}
    (hParse : parse args = .ok ⟨path, .run (showing json verbose)⟩)
    (hPeace : s.schedule.IsPeaceful)
    (hDraws : ∀ n lo hi, lo.nanos < hi.nanos → (s.draw n lo hi).isSome = true)
    (hWorkers : 1 ≤ c.workers)
    (hMemory : Capacity.fits c.workers Capacity.resultEntry = true) :
    ((runIn s.platform l args).run w).1 = 0 ↔
      ∃ body other, gated c.check (s.bodyOf reply c.targetUrl .direct c.timeouts) = some body ∧
        s.bodyOf reply c.targetUrl (.proxy c.proxy) c.timeouts = some other ∧
        other.digest = body.digest := by
  rcases run_ends hSteady hLoaded hParse hPeace hDraws hMemory with
    ⟨hNone, hStatus, -⟩ | ⟨body, report, lines, hShown, -, hAll, hVerdicts, -, -, hStatus⟩
  · -- without a report no direct body is shown either
    have hFailed : ((runIn s.platform l args).run w).1 ≠ 0 := by
      rw [hStatus]
      decide
    refine ⟨fun hZero => (hFailed hZero).elim, ?_⟩
    rintro ⟨body, other, hSome, -, -⟩
    exact (Option.some_ne_none _ (hSome.symm.trans hNone)).elim
  · -- with at least one worker, all of them together speak of the proxied body
    have hSome : report.results ≠ [] := by
      intro hNil
      have hLength := hAll.length_eq
      rw [hNil, Pool.length_indices] at hLength
      rw [UInt64.le_iff_toNat_le, ← hLength] at hWorkers
      contradiction
    rw [hStatus, statusOf_eq_zero_iff, all_isSuccess hVerdicts hSome, Option.any_eq_true]
    constructor
    · rintro ⟨other, hProxied, hSame⟩
      exact ⟨body, other, hShown, hProxied, of_decide_eq_true hSame⟩
    · rintro ⟨body', other, hShown', hProxied, hSame⟩
      obtain rfl : body = body' := Option.some.inj (hShown.symm.trans hShown')
      exact ⟨other, hProxied, decide_eq_true hSame⟩

end Ends

-- ---------------------------------------------------------------------------
-- All three
-- ---------------------------------------------------------------------------

/--
**The three commands agree.** In a world that answers each request in one way, whatever came
before, let three sessions load the same configuration with at least one worker: a run, a single
fetch and a reference. Nobody dies, and the tables of the run fit the memory. Then:

* the run succeeds exactly if the fetch does and the reference agrees with the line that it
  printed;
* the run prints nothing, or it shows a reference, and then the reference prints it as well,
  whatever it is told to expect;
* if the run succeeds, all of its workers match, with as many bytes as the fetch printed.
-/
theorem commands_agree {s : Surroundings σ} {reply : TimeoutSection → Request → Reply}
    (hSteady : s.IsSteady reply) (hPeace : s.schedule.IsPeaceful)
    (hDraws : ∀ n lo hi, lo.nanos < hi.nanos → (s.draw n lo hi).isSome = true)
    (l : Locations) {path : Option String} (hPath : path ≠ some "") {c : Config}
    {w₁ w₂ w₃ : World σ} (hLoad₁ : ((loading s l path).run w₁).1 = .ok c)
    (hLoad₂ : ((loading s l path).run w₂).1 = .ok c)
    (hLoad₃ : ((loading s l path).run w₃).1 = .ok c) (hWorkers : 1 ≤ c.workers)
    (hMemory : Capacity.fits c.workers Capacity.resultEntry = true) (json verbose : Bool) :
    let o := showing json verbose
    let run := (runIn s.platform l (front path ++ "run" :: flags json verbose)).run w₁
    let fetch := (runIn s.platform l (front path ++ ["fetch"])).run w₂
    let reference := fun more => (runIn s.platform l (front path ++ "reference" :: more)).run w₃
    let audit := ((auditOf s c o).run ((loading s l path).run w₁).2).1
    (run.1 = 0 ↔ fetch.1 = 0 ∧ ∃ line, fetch.2.printed = w₂.printed ++ [line] ∧
      (reference ["--expect", line]).1 = 0) ∧
    (run.2.printed = w₁.printed ∨ ∃ d : Digest, ∃ report lines, audit = .ok report ∧
      run.2.printed = w₁.printed ++ lines ∧ Console c d report.results o lines ∧
      (reference []).2.printed = w₃.printed ++ [d.text] ∧
      ∀ line, fetch.2.printed = w₂.printed ++ [line] →
        (reference ["--expect", line]).2.printed = w₃.printed ++ [d.text]) ∧
    (run.1 = 0 → ∃ report, ∃ d : Digest, ∃ n : UInt64, audit = .ok report ∧
      fetch.2.printed = w₂.printed ++ [d.text ++ "  " ++ Decimal.text n.toNat ++ " bytes"] ∧
      (report.results.map (·.index)).Perm (Pool.indices c.workers.toNat) ∧
      ∀ r ∈ report.results, r.outcome = .matched n) := by
  intro o run fetch reference audit
  -- the line that the fetch prints is read back as its digest
  have hExpecting (body : FetchedBody) :
      parse (front path ++ ["reference", "--expect", fetchLine body])
        = .ok ⟨path, .reference none (some body.digest)⟩ := by
    obtain ⟨rest, hLine⟩ := toList_fetchLine body
    exact parse_expecting hPath body.digest rest hLine
  obtain ⟨hFetched, hFetchPrinted⟩ := fetch_ends hSteady hLoad₂ (parse_fetch hPath)
  have hReference (body : FetchedBody) := reference_ends hSteady hLoad₃ (hExpecting body)
  obtain ⟨-, hPlainPrinted⟩ := reference_ends hSteady hLoad₃ (parse_reference hPath)
  have hSucceeds := run_succeeds_iff hSteady hLoad₁ (parse_run hPath json verbose) hPeace hDraws
    hWorkers hMemory
  set direct := s.bodyOf reply c.targetUrl .direct c.timeouts
  set proxied := s.bodyOf reply c.targetUrl (.proxy c.proxy) c.timeouts
  -- a fetch that prints a line prints that of the body that came through the proxy
  have hLineOf {line : String} (hLine : fetch.2.printed = w₂.printed ++ [line]) :=
    exists_of_printed_line (hFetchPrinted.symm.trans hLine)
  refine ⟨⟨fun hZero => ?succeeds, ?agrees⟩, ?prints, fun hZero => ?counts⟩
  case succeeds =>
    -- the fetch prints a digest that is also the one of the direct body
    obtain ⟨body, other, hShown, hProxied, hSame⟩ := hSucceeds.mp hZero
    obtain ⟨hCheck, -⟩ := gated_eq_some_iff.mp hShown
    have hOther : gated c.check proxied = some other := gated_eq_some_iff.mpr ⟨hCheck, hProxied⟩
    rw [hOther] at hFetched hFetchPrinted
    have hStatus := (hReference other).1
    rw [gated_checkTarget hShown] at hStatus
    refine ⟨hFetched, fetchLine other, hFetchPrinted, hStatus.trans ?_⟩
    rw [statusOf_eq_zero_iff]
    exact decide_eq_true hSame
  case agrees =>
    -- the line is about the proxied body, and the reference found it on the direct route
    rintro ⟨-, line, hLine, hAgrees⟩
    obtain ⟨other, hOther, rfl⟩ := hLineOf hLine
    obtain ⟨hCheck, hProxied⟩ := gated_eq_some_iff.mp hOther
    have hAny := (statusOf_eq_zero_iff _).mp ((hReference other).1.symm.trans hAgrees)
    rw [Option.any_eq_true] at hAny
    obtain ⟨body, hShown, hSame⟩ := hAny
    obtain ⟨-, hDirect⟩ := gated_eq_some_iff.mp hShown
    exact hSucceeds.mpr ⟨body, other, gated_eq_some_iff.mpr ⟨hCheck, hDirect⟩, hProxied,
      of_decide_eq_true hSame⟩
  case prints =>
    rcases run_ends hSteady hLoad₁ (parse_run hPath json verbose) hPeace hDraws hMemory with
      ⟨-, -, hNothing⟩ | ⟨body, report, lines, hShown, hAudit, -, -, hLines, hConsole, -⟩
    · exact .inl hNothing
    · -- the check of a run includes that of a reference, so the same direct body is shown
      rw [gated_checkTarget hShown] at hPlainPrinted
      refine .inr ⟨body.digest, report, lines, hAudit, hLines, hConsole, hPlainPrinted, ?_⟩
      -- what is expected changes the status of a reference, not what it prints
      intro line hLine
      obtain ⟨other, -, rfl⟩ := hLineOf hLine
      have hPrinted := (hReference other).2
      rw [gated_checkTarget hShown] at hPrinted
      exact hPrinted
  case counts =>
    obtain ⟨body, other, hShown, hProxied, hSame⟩ := hSucceeds.mp hZero
    obtain ⟨hCheck, -⟩ := gated_eq_some_iff.mp hShown
    rw [gated_eq_some_iff.mpr ⟨hCheck, hProxied⟩] at hFetchPrinted
    -- a run that succeeds has a report, and its workers are judged on the proxied body
    rcases run_ends hSteady hLoad₁ (parse_run hPath json verbose) hPeace hDraws hMemory with
      ⟨hNone, -, -⟩ | ⟨body', report, lines, hShown', hAudit, hAll, hVerdicts, -, -, -⟩
    · exact (Option.some_ne_none _ (hShown.symm.trans hNone)).elim
    · obtain rfl : body = body' := Option.some.inj (hShown.symm.trans hShown')
      refine ⟨report, other.digest, other.bytes, hAudit, hFetchPrinted, hAll, fun r hr => ?_⟩
      exact (outcome_of_verdicts hVerdicts hr).1 other hProxied hSame

/-- Two workers, in a world that answers every request alike. What a fetch prints there can be
expected of a reference. -/
theorem commands_agree_of_answer :
    let text := "target_url='http://[::1]/'\nproxy='p'\nworkers=2\n[jitter]\nmin_ms=0\nmax_ms=0\n"
      ++ "[timeouts]\nconnect_secs=1\ntotal_secs=1"
    let s : Surroundings Nat := .replying fun _ => [[1], [2]]
    let l : Locations := ⟨"/root", none, none⟩
    let w : World Nat := .fresh 0 (FileTree.empty.put ["c"] (.file (Bytes.ofText text)))
    let session := fun more => (runIn s.platform l ("--config=/c" :: more)).run w
    (session ["run"]).1 = 0 ∧ ∃ line, (session ["fetch"]).2.printed = [line] ∧
      (session ["reference", "--expect", line]).1 = 0 := by
  intro text s l w session
  have hSucceeds : (session ["run"]).1 = 0 := by decide +kernel
  -- the loading is evaluated only as far as its workers
  have hWorkers : ((loading s l (some "/c")).run w).1.toOption.map (·.workers) = some 2 := by
    decide +kernel
  cases hLoaded : ((loading s l (some "/c")).run w).1 with
  | error e =>
    rw [hLoaded] at hWorkers
    contradiction
  | ok c =>
    rw [hLoaded] at hWorkers
    have hTwo : c.workers = 2 := Option.some.inj hWorkers
    have hSteady : s.IsSteady fun _ _ => .complete 200 none [[1], [2]] := fun _ _ _ => rfl
    have hPath : some "/c" ≠ some "" := by decide
    obtain ⟨hAgrees, -, -⟩ := commands_agree hSteady Pool.eager_isPeaceful
      (fun n _ _ => Draw.isSome_ofNumber n) l hPath hLoaded hLoaded hLoaded
      (by rw [hTwo]; decide) (by rw [hTwo]; decide) false false
    obtain ⟨-, line, hLine, hExpected⟩ := hAgrees.mp hSucceeds
    exact ⟨hSucceeds, line, hLine, hExpected⟩

end ProxyAudit.Session
