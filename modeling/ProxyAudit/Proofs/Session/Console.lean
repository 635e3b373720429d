import Mathlib
import ProxyAudit.Proofs.Audit.Order
import ProxyAudit.Proofs.Session.Lines
import ProxyAudit.Proofs.Session.Traces

/-!
# The console of a run

A run shows the reference when it is known, then each result as soon as it is taken from the pool,
and closes with a summary; or it shows nothing but the report. Its status is computed from the
report in the end. Here the lines, the report and the status are put side by side: they are all
about the same results, one for each worker.

Main results:

* `account_observe`    — a run has printed the lines of what was seen of it, and nothing else.
* `observeRun_cases`   — what is seen of a run, and shown.
* `console_agrees`     — the console and the status of a session.
-/

namespace ProxyAudit.Session

open World

variable {σ β γ : Type}

-- ---------------------------------------------------------------------------
-- The lines of what was seen
-- ---------------------------------------------------------------------------

/-- A line that a report in JSON leaves no room for. -/
def showUnlessJson (o : RunOptions) (text : String) : StateM (World σ) Unit :=
  if o.json then pure () else World.record (.printed text)

def showReference (o : RunOptions) (reference : Digest) : StateM (World σ) Unit :=
  showUnlessJson o reference.text

def showResult (o : RunOptions) (r : WorkerResult) : StateM (World σ) Unit :=
  showUnlessJson o (r.line o.verboseOutcomes)

/-- The run of a session, as it can be observed. -/
def observeRun (s : Surroundings σ) (c : Config) (o : RunOptions) :
    StateM (Observed (World σ) Delivery) (Except AuditError Report) :=
  c.observe s.setting (showReference o) (showResult o)

/-- The line that is printed when something is seen. -/
def line? (o : RunOptions) : Sighting Delivery → Option String
  | .fetched .. => none
  | .told reference => if o.json then none else some reference.text
  | .took r => if o.json then none else some (r.line o.verboseOutcomes)

/-- Since a world, the lines of what was seen have been printed, and nothing else. -/
structure Account (o : RunOptions) (w : World σ) (obs : Observed (World σ) Delivery) : Prop where
  printed_eq : obs.world.printed = w.printed ++ obs.seen.filterMap (line? o)
  complaints_eq : obs.world.complaints = w.complaints

/-- A step under observation prints the lines of what is seen of it. -/
def Accounts (o : RunOptions) (x : StateM (Observed (World σ) Delivery) β) : Prop :=
  ∀ w obs, Account o w obs → Account o w (x.run obs).2

variable {o : RunOptions} {x : StateM (Observed (World σ) Delivery) β}

theorem Accounts.pure (b : β) :
    Accounts o (pure b : StateM (Observed (World σ) Delivery) β) :=
  fun _ _ h => h

theorem Accounts.bind {f : β → StateM (Observed (World σ) Delivery) γ} (h : Accounts o x)
    (hNext : ∀ b, Accounts o (f b)) : Accounts o (x >>= f) :=
  fun w obs hAccount => hNext _ w _ (h w obs hAccount)

/-- What is not seen must not be heard. -/
theorem accounts_act {y : StateM (World σ) β} (h : Records Event.IsSilent y) :
    Accounts o (Observed.act y : StateM (Observed (World σ) Delivery) β) := by
  intro w obs hAccount
  exact ⟨(h.printed_eq obs.world).trans hAccount.printed_eq,
    (h.complaints_eq obs.world).trans hAccount.complaints_eq⟩

theorem accounts_turnOf (index : UInt64) (h : Accounts o x) :
    Accounts o (Observed.turnOf index x) := by
  intro w obs hAccount
  obtain ⟨hPrinted, hComplaints⟩ :=
    h w { obs with worker := some index } ⟨hAccount.printed_eq, hAccount.complaints_eq⟩
  exact ⟨hPrinted, hComplaints⟩

/-- What is told or handed over is shown at once. -/
theorem accounts_show {sighting : Sighting Delivery} {text : String}
    (h : line? o sighting = if o.json then none else some text) :
    Accounts o (do Observed.note sighting; Observed.act (showUnlessJson o text) :
      StateM (Observed (World σ) Delivery) Unit) := by
  intro w obs hAccount
  -- the sighting shows one line at most, and the command prints the same one
  have hSeen : (obs.seen ++ [sighting]).filterMap (line? o)
      = obs.seen.filterMap (line? o) ++ (line? o sighting).toList := by
    cases hLine : line? o sighting <;> simp [hLine]
  have hShown : ((showUnlessJson o text).run obs.world).2.printed
      = obs.world.printed ++ (line? o sighting).toList := by
    rw [h, showUnlessJson]
    split
    · exact (List.append_nil _).symm
    · exact printed_record_printed text obs.world
  have hQuiet : ((showUnlessJson o text).run obs.world).2.complaints = obs.world.complaints := by
    rw [showUnlessJson]
    split
    · rfl
    · exact complaints_record_printed text obs.world
  constructor
  · refine hShown.trans ?_
    rw [hAccount.printed_eq, List.append_assoc]
    exact congrArg (w.printed ++ ·) hSeen.symm
  · exact hQuiet.trans hAccount.complaints_eq

theorem accounts_noteReference (reference : Digest) :
    Accounts o (Setting.noteReference (showReference o) reference :
      StateM (Observed (World σ) Delivery) Unit) :=
  accounts_show rfl

theorem accounts_noteResult (r : WorkerResult) :
    Accounts o (Setting.noteResult (showResult o) r :
      StateM (Observed (World σ) Delivery) Unit) :=
  accounts_show rfl

-- ---------------------------------------------------------------------------
-- Runs
-- ---------------------------------------------------------------------------

section Runs

variable (s : Surroundings σ) (c : Config)

theorem accounts_fetch (url : String) (route : Route) (limits : TimeoutSection) :
    Accounts o (s.setting.observed.fetch url route limits) := by
  have hTransfer := (s.records_transfer url route limits).mono fun _ => Event.IsTraffic.isSilent
  refine (accounts_act hTransfer).bind fun came => Accounts.bind ?_ fun _ => .pure _
  intro w obs hAccount
  have hNone : (obs.seen ++ [Sighting.fetched obs.worker url route limits came]).filterMap (line? o)
      = obs.seen.filterMap (line? o) := by
    simp [line?]
  refine ⟨hAccount.printed_eq.trans ?_, hAccount.complaints_eq⟩
  exact congrArg (w.printed ++ ·) hNone.symm

/-- A worker prints nothing itself. -/
theorem accounts_work (a : Assignment) (index : UInt64) :
    Accounts o (s.setting.work a index) := by
  refine accounts_turnOf index ?_
  refine (accounts_act (records_tick.bind fun _ => .pure _)).bind fun draw => ?_
  split
  · exact .pure none
  · next delay _ =>
    have hSlept : Event.IsSilent (.slept delay) := trivial
    refine (accounts_act (records_record hSlept)).bind fun _ => ?_
    refine (accounts_act (records_tick.bind fun _ => .pure _)).bind fun before => ?_
    refine (accounts_fetch s _ _ _).bind fun fetched => ?_
    exact (accounts_act (records_tick.bind fun _ => .pure _)).bind fun after => .pure _

/-- **A run prints the lines of what is seen of it**, and nothing else. -/
theorem account_observe (hSchedule : s.schedule.IsComplete) (w : World σ) :
    Account o w ((observeRun s c o).run (.fresh w)).2 := by
  have hStart : Account o w (.fresh w : Observed (World σ) Delivery) :=
    ⟨(List.append_nil _).symm, rfl⟩
  -- what the account says of the start is kept by every part of the run
  suffices hRun : Accounts o (observeRun s c o) from hRun w _ hStart
  unfold observeRun Config.observe Config.audit
  split
  · exact .pure _
  · refine (accounts_fetch s _ _ _).bind fun fetched => ?_
    split
    · exact .pure _
    · -- what the workers do is kept turn by turn
      next body =>
      refine (accounts_noteReference body.digest).bind fun _ => fun w obs hAccount => ?_
      exact Setting.runWorkers_induction hSchedule
        (fun index obs => accounts_work s _ index w obs)
        (fun r obs => accounts_noteResult r w obs) hAccount

end Runs

-- ---------------------------------------------------------------------------
-- The lines of a run
-- ---------------------------------------------------------------------------

theorem filterMap_line?_of_kinds {a : Assignment} {seen : List (Sighting Delivery)}
    (hKinds : ∀ x ∈ seen, (∃ i came, x = a.fetch i came) ∨ ∃ r, x = .took r) :
    seen.filterMap (line? o)
      = if o.json then [] else (resultsIn seen).map (·.line o.verboseOutcomes) := by
  induction seen with
  | nil => simp [resultsIn]
  | cons x seen ih =>
    obtain ⟨hFirst, hMore⟩ := List.forall_mem_cons.mp hKinds
    rcases hFirst with ⟨i, came, rfl⟩ | ⟨r, rfl⟩
    · exact ih hMore
    · have hLines := ih hMore
      cases hJson : o.json with
      | true => simpa [line?, hJson] using hLines
      | false => simpa [line?, hJson, resultsIn, Sighting.result?] using hLines

/-- What is seen of a run whose results are reported is shown line by line. -/
theorem filterMap_line?_of_course {c : Config} {reference : Digest} {came : Delivery}
    {results : List WorkerResult} {rest : List (Sighting Delivery)}
    (hCourse : Course (c.assignment reference) Delivery.result c.workers results rest) :
    (Sighting.fetched none c.targetUrl .direct c.timeouts came :: .told reference :: rest).filterMap
        (line? o)
      = shownLines o reference results := by
  have hRest := filterMap_line?_of_kinds (o := o) hCourse.kinds
  rw [hCourse.results_eq] at hRest
  have hTold : line? o (.told reference) = if o.json then none else some reference.text := rfl
  rw [List.filterMap_cons_none rfl, List.filterMap_cons, hTold, hRest, shownLines]
  cases o.json <;> rfl

/-- **What is seen of a run.** Without a reference nothing is shown. Else all workers report, and
what is shown are the lines of their results. -/
theorem observeRun_cases (s : Surroundings σ) (c : Config) (hPeace : s.schedule.IsPeaceful)
    (hDraws : ∀ n lo hi, lo.nanos < hi.nanos → (s.draw n lo hi).isSome = true)
    (hMemory : Capacity.fits c.workers Capacity.resultEntry = true) (w : World σ) :
    let came := ((s.setting.transfer c.targetUrl .direct c.timeouts).run w).1
    let observed := (observeRun s c o).run (.fresh w)
    ((c.check ≠ .ok () ∨ ∃ e, came.result = .error e) ∧
      (∃ e, observed.1 = .error e) ∧ observed.2.seen.filterMap (line? o) = []) ∨
    ∃ body results rest, c.check = .ok () ∧ came.result = .ok body ∧
      observed.1 = .ok (.ofResults c.targetUrl c.proxy body.digest c.workers results) ∧
      observed.2.seen
        = .fetched none c.targetUrl .direct c.timeouts came :: .told body.digest :: rest ∧
      IsWhole (c.assignment body.digest) Delivery.result c.workers results rest ∧
      observed.2.seen.filterMap (line? o) = shownLines o body.digest results := by
  intro came observed
  rcases Config.observe_cases (c := c) (s := s.setting) (showReference o) (showResult o) w with
    ⟨fault, hCheck, hError, hSeen⟩ | ⟨e, hCheck, hCame, hError, hSeen⟩
    | ⟨body, obs, hCheck, hCame, hTold, hRun⟩
  case inl =>
    -- what was seen up to the end of the direct transfer shows no line
    refine .inl ⟨.inl (by simp [hCheck]), ⟨_, hError⟩, ?_⟩
    exact congrArg (List.filterMap (line? o)) hSeen
  case inr.inl =>
    refine .inl ⟨.inr ⟨e, hCame⟩, ⟨_, hError⟩, ?_⟩
    exact congrArg (List.filterMap (line? o)) hSeen
  case inr.inr =>
    obtain ⟨results, rest, hReport, hRest, hCourse, -, hEverybody⟩ :=
      Setting.runWorkers_course (s := s.setting) (c := c) hPeace.isComplete hMemory body.digest
        (showResult o) obs
    -- nobody dies, so all workers have reported
    have hWhole : IsWhole (c.assignment body.digest) Delivery.result c.workers results rest :=
      hEverybody hPeace fun w lo hi hRoom => hDraws w.ticks lo hi hRoom
    have hSeen : observed.2.seen = .fetched none c.targetUrl .direct c.timeouts came
        :: .told body.digest :: rest := by
      refine (congrArg (fun r => r.2.seen) hRun).trans ?_
      rw [hRest, hTold]
      rfl
    refine .inr ⟨body, results, rest, hCheck, hCame, (congrArg Prod.fst hRun).trans hReport, hSeen,
      hWhole, ?_⟩
    rw [hSeen]
    exact filterMap_line?_of_course hCourse

-- ---------------------------------------------------------------------------
-- Sessions
-- ---------------------------------------------------------------------------

section Sessions

variable (s : Surroundings σ) {c : Config} {w w' : World σ}

/-- What is left of a session when its audit is over. -/
def conclude (o : RunOptions) : Except AuditError Report → StateM (World σ) UInt32
  | .error e => do
    World.record (.complained ("fetchcheck error: " ++ e.message))
    return failure
  | .ok report => do
    if o.json then World.record (.printed report.toJson.pretty)
    else if o.verboseOutcomes then World.record (.printed report.summary)
    return statusOf report.passed

/-- The audit of a run and what comes after it. -/
theorem runAudit_eq (c : Config) (o : RunOptions) :
    runAudit s.platform c o = (do
      match ← c.audit s.machine (showReference o) (showResult o) with
      | .error e => return .error (.audit e)
      | .ok report =>
        if o.json then s.platform.print report.toJson.pretty
        else if o.verboseOutcomes then s.platform.print report.summary
        return .ok (statusOf report.passed)) :=
  rfl

/-- A session that can load its configuration audits by it, with its own options. -/
theorem run_session (l : Locations) {args : List String} {path : Option String}
    (hArgs : CommandLine.parse args = .ok ⟨path, .run o⟩)
    (hLoad : (do openLog s.platform l; (loadTask l path).runIn s.platform.files :
      StateM (World σ) (Except Config.LoadError Config)).run w = (.ok c, w')) :
    (runIn s.platform l args).run w
      = ((c.withRunOptions o).audit s.machine (showReference o) (showResult o)
          >>= conclude o).run w' := by
  rw [StateM.run_bind] at hLoad
  simp only [runIn, hArgs, carryOut, withConfig, StateM.run_bind, hLoad, runAudit_eq]
  obtain ⟨result, w₁⟩ :=
    ((c.withRunOptions o).audit s.machine (showReference o) (showResult o)).run w'
  cases result with
  | error e => rfl
  | ok report =>
    cases hJson : o.json <;> cases hVerbose : o.verboseOutcomes <;>
      simp [conclude, hJson, hVerbose] <;> rfl

theorem conclude_error (e : AuditError) (w : World σ) :
    let session := (conclude o (.error e)).run w
    session.1 = failure ∧ session.2.printed = w.printed ∧
      session.2.complaints = w.complaints ++ ["fetchcheck error: " ++ e.message] :=
  ⟨rfl, printed_record_complained _ w, complaints_record_complained _ w⟩

theorem conclude_ok (report : Report) (w : World σ) :
    let session := (conclude o (.ok report)).run w
    session.1 = statusOf report.passed ∧
      session.2.printed = w.printed ++ closingLines o report ∧
      session.2.complaints = w.complaints := by
  simp only [conclude, closingLines]
  split
  · exact ⟨rfl, printed_record_printed _ w, complaints_record_printed _ w⟩
  split
  · exact ⟨rfl, printed_record_printed _ w, complaints_record_printed _ w⟩
  · exact ⟨rfl, (List.append_nil _).symm, rfl⟩

/-- Loading a configuration writes to neither output. -/
theorem sameOutputs_of_load (l : Locations) {path : Option String}
    {loaded : Except Config.LoadError Config}
    (hLoad : (do openLog s.platform l; (loadTask l path).runIn s.platform.files :
      StateM (World σ) (Except Config.LoadError Config)).run w = (loaded, w')) :
    w'.printed = w.printed ∧ w'.complaints = w.complaints := by
  have hSilent : Records Event.IsSilent (do
      openLog s.platform l; (loadTask l path).runIn s.platform.files :
      StateM (World σ) (Except Config.LoadError Config)) :=
    ((s.records_openLog l).mono fun _ => Event.IsLogLine.isSilent).bind fun _ => s.records_task _
  have hPrinted := hSilent.printed_eq w
  have hComplaints := hSilent.complaints_eq w
  rw [hLoad] at hPrinted hComplaints
  exact ⟨hPrinted, hComplaints⟩

variable (l : Locations) {args : List String} {path : Option String}
variable (hArgs : CommandLine.parse args = .ok ⟨path, .run o⟩)
variable (hLoad : (do openLog s.platform l; (loadTask l path).runIn s.platform.files :
  StateM (World σ) (Except Config.LoadError Config)).run w = (.ok c, w'))
include hArgs hLoad

/-- A session ends as its run does under observation. -/
theorem run_observed :
    let observed := (observeRun s (c.withRunOptions o) o).run (.fresh w')
    (runIn s.platform l args).run w = (conclude o observed.1).run observed.2.world := by
  intro observed
  obtain ⟨hResult, hWorld⟩ :=
    (c.withRunOptions o).observe_world s.setting (showReference o) (showResult o) (.fresh w')
  rw [run_session s l hArgs hLoad, StateM.run_bind]
  exact congrArg₂ (fun result w => (conclude o result).run w) hResult.symm hWorld.symm

variable (hSchedule : s.schedule.IsComplete)
include hSchedule

/-- Without a report a session complains of the error. -/
theorem run_of_error {e : AuditError} :
    let observed := (observeRun s (c.withRunOptions o) o).run (.fresh w')
    let session := (runIn s.platform l args).run w
    observed.1 = .error e → observed.2.seen.filterMap (line? o) = [] →
      session.2.printed = w.printed ∧
      session.2.complaints = w.complaints ++ ["fetchcheck error: " ++ e.message] ∧
      session.1 = failure := by
  intro observed session hError hNone
  obtain ⟨hPrinted, hComplaints⟩ := sameOutputs_of_load s l hLoad
  have hAccount : Account o w' observed.2 := account_observe s (c.withRunOptions o) hSchedule w'
  have hSession : session = (conclude o (.error e)).run observed.2.world :=
    hError ▸ run_observed s l hArgs hLoad
  obtain ⟨hStatus, hLines, hComplaint⟩ := conclude_error (o := o) e observed.2.world
  rw [← hSession] at hStatus hLines hComplaint
  rw [hAccount.printed_eq, hNone, List.append_nil, hPrinted] at hLines
  rw [hAccount.complaints_eq, hComplaints] at hComplaint
  exact ⟨hLines, hComplaint, hStatus⟩

/-- With a report a session prints the lines of what was seen, and those that close a run. -/
theorem run_of_report {report : Report} :
    let observed := (observeRun s (c.withRunOptions o) o).run (.fresh w')
    let session := (runIn s.platform l args).run w
    observed.1 = .ok report →
      session.2.printed
        = w.printed ++ (observed.2.seen.filterMap (line? o) ++ closingLines o report) ∧
      session.2.complaints = w.complaints ∧ session.1 = statusOf report.passed := by
  intro observed session hReport
  obtain ⟨hPrinted, hComplaints⟩ := sameOutputs_of_load s l hLoad
  have hAccount : Account o w' observed.2 := account_observe s (c.withRunOptions o) hSchedule w'
  have hSession : session = (conclude o (.ok report)).run observed.2.world :=
    hReport ▸ run_observed s l hArgs hLoad
  obtain ⟨hStatus, hLines, hQuiet⟩ := conclude_ok (o := o) report observed.2.world
  rw [← hSession] at hStatus hLines hQuiet
  rw [hAccount.printed_eq, hPrinted, List.append_assoc] at hLines
  rw [hAccount.complaints_eq, hComplaints] at hQuiet
  exact ⟨hLines, hQuiet, hStatus⟩

end Sessions

/--
**The console and the status agree.** A session that audits by some configuration, in a world in
which nobody dies and the tables of the run fit the memory, does one of two things:

* the configuration is refused, or the direct transfer brings no reference. Then nothing is
  printed, one line complains, and the status is 1;
* otherwise it prints the lines of a `Console` and complains of nothing. They are about the results
  that an observer sees, one for each worker, each with the verdict on the transfer of its worker.
  The status is computed from these results alone, however they are shown: it is 0 if every worker
  shows success, and else 1.
-/
theorem console_agrees (s : Surroundings σ) (l : Locations) {args : List String}
    {path : Option String} {o : RunOptions} (hArgs : CommandLine.parse args = .ok ⟨path, .run o⟩)
    (hPeace : s.schedule.IsPeaceful)
    (hDraws : ∀ n lo hi, lo.nanos < hi.nanos → (s.draw n lo hi).isSome = true)
    {w w₀ : World σ} {c₀ : Config}
    (hLoad : (do openLog s.platform l; (loadTask l path).runIn s.platform.files :
      StateM (World σ) (Except Config.LoadError Config)).run w = (.ok c₀, w₀))
    (hMemory : Capacity.fits (c₀.withRunOptions o).workers Capacity.resultEntry = true) :
    let c := c₀.withRunOptions o
    let came := ((s.setting.transfer c.targetUrl .direct c.timeouts).run w₀).1
    let seen := ((observeRun s c o).run (.fresh w₀)).2.seen
    let session := (runIn s.platform l args).run w
    ((c.check ≠ .ok () ∨ ∃ e, came.result = .error e) ∧ session.2.printed = w.printed ∧
      (∃ message, session.2.complaints = w.complaints ++ ["fetchcheck error: " ++ message]) ∧
      session.1 = 1) ∨
    (∃ body results rest lines, c.check = .ok () ∧ came.result = .ok body ∧
      seen = .fetched none c.targetUrl .direct c.timeouts came :: .told body.digest :: rest ∧
      IsWhole (c.assignment body.digest) Delivery.result c.workers results rest ∧
      session.2.printed = w.printed ++ lines ∧ Console c body.digest results o lines ∧
      session.2.complaints = w.complaints ∧
      session.1 = (if results.all (·.outcome.isSuccess) then 0 else 1) ∧
      (session.1 = 0 ↔
        ∀ i < c.workers, ∃ r ∈ results, r.index = i ∧ r.outcome.label = "Success")) := by
  intro c came seen session
  have hComplete : s.schedule.IsComplete := hPeace.isComplete
  rcases observeRun_cases s c hPeace hDraws hMemory w₀ with
    ⟨hReason, ⟨e, hError⟩, hNone⟩
    | ⟨body, results, rest, hCheck, hCame, hReport, hSeen, hWhole, hShown⟩
  case inl =>
    obtain ⟨hLines, hComplaint, hStatus⟩ := run_of_error s l hArgs hLoad hComplete hError hNone
    exact .inl ⟨hReason, hLines, ⟨_, hComplaint⟩, hStatus⟩
  case inr =>
    have hAll := hWhole.results_perm
    obtain ⟨hLines, hQuiet, hStatus⟩ := run_of_report s l hArgs hLoad hComplete hReport
    rw [hShown] at hLines
    -- the status is read off the report, and the report off the results
    have hGood : session.1 = 0 ↔
        (Report.ofResults c.targetUrl c.proxy body.digest c.workers results).passed = true := by
      rw [hStatus, statusOf]
      split <;> simp [success, failure, *]
    refine .inr ⟨body, results, rest, _, hCheck, hCame, hSeen, hWhole, hLines,
      console_ofResults body.digest hAll o, hQuiet, ?_, ?_⟩
    · rw [hStatus, passed_eq_all body.digest hAll]
      rfl
    · rw [hGood]
      exact passed_iff_success body.digest hAll

/-- A first session, with two workers and lines that tell them apart. The first is brought the body
of the reference in other pieces, and the second is brought another body. -/
theorem console_agrees_of_damage :
    let args := ["run", "--target", "http://[::1]/", "--workers", "2", "--verbose-outcomes"]
    let s : Surroundings Nat := .replying fun
      | 0 => [[1], [2]]
      | 1 => [[1, 2], []]
      | _ => [[9]]
    let l : Locations := ⟨"/root", none, none⟩
    let c : Config := { Config.default with targetUrl := "http://[::1]/", workers := 2 }
    let session := (runIn s.platform l args).run (.fresh 0 .empty)
    session.1 = 1 ∧ session.2.printed.length = 4 ∧
    ∃ o reference results, o.verboseOutcomes = true ∧
      Console c reference results o session.2.printed ∧
      ¬ ∀ i < c.workers, ∃ r ∈ results, r.index = i ∧ r.outcome.label = "Success" := by
  intro args s l c session
  let o : RunOptions := ⟨some "http://[::1]/", none, some 2, none, none, none, false, true⟩
  have hArgs : CommandLine.parse args = .ok ⟨none, .run o⟩ := by decide +kernel
  have hEnd : session.1 = 1 ∧ session.2.printed.length = 4 := by decide +kernel
  let load : StateM (World Nat) (Except Config.LoadError Config) := do
    openLog s.platform l
    (loadTask l none).runIn s.platform.files
  have hDefault : (load.run (.fresh 0 .empty)).1.toOption = some .default := by decide +kernel
  -- the default was loaded; errors cannot be told apart by evaluation
  have hLoad : load.run (.fresh 0 .empty) = (.ok .default, (load.run (.fresh 0 .empty)).2) := by
    refine Prod.ext ?_ rfl
    cases hLoaded : (load.run (.fresh 0 .empty)).1 with
    | error e =>
      rw [hLoaded] at hDefault
      contradiction
    | ok c =>
      rw [hLoaded] at hDefault
      exact congrArg Except.ok (Option.some.inj hDefault)
  rcases console_agrees s l hArgs Pool.eager_isPeaceful (fun n _ _ => Draw.isSome_ofNumber n) hLoad
    (by decide +kernel) with ⟨-, hNothing, -⟩ | ⟨body, results, _, lines, -, -, -, -, hLines,
      hConsole, -, -, hGood⟩
  · rw [hNothing] at hEnd
    exact absurd hEnd.2 (by decide)
  · rw [show lines = session.2.printed from hLines.symm] at hConsole
    refine ⟨hEnd.1, hEnd.2, o, _, results, rfl, hConsole, fun hEach => ?_⟩
    -- the console would have to say that all workers match
    have hStatus : session.1 = 0 := hGood.mpr hEach
    rw [hEnd.1] at hStatus
    exact absurd hStatus (by decide)

end ProxyAudit.Session
