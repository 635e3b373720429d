import Mathlib
import ProxyAudit.Proofs.Session.Traffic

/-!
# The gate before every fetch

A session fetches only if its arguments ask for a fetch, a configuration can be loaded, and what
the options make of it passes the gate of the command: the target alone for a reference, the whole
configuration for a run or a single fetch. A session that is turned away says why and does nothing
else.

Main results:

* `run_conduct`   — a session fetches nothing, or keeps to a configuration that was admitted.
* `requests_gated` — the gate stands before every request of every session.
-/

namespace ProxyAudit.Session

open World

variable {σ : Type} (s : Surroundings σ) (l : Locations) {args : List String} (w : World σ)

-- ---------------------------------------------------------------------------
-- Admission
-- ---------------------------------------------------------------------------

/-- The arguments ask for a command that fetches, and what its options make of the configuration
that is loaded passes its gate. -/
structure Admits (args : List String) (i : Invocation) (c : Config) : Prop where
  parsed : CommandLine.parse args = .ok i
  loaded : ∃ c₀, ((loading s l i.config).run w).1 = .ok c₀ ∧ c = i.command.override c₀
  passed : ∃ gate, i.command.gate? = some gate ∧ gate c = .ok ()

/-- A command that fetches is turned away: no configuration is loaded for it, or none that passes
its gate. -/
def TurnsAway (i : Invocation) (gate : Config → Except Config.Fault Unit) : Prop :=
  (∃ e, ((loading s l i.config).run w).1 = .error e) ∨
    ∃ c₀ fault, ((loading s l i.config).run w).1 = .ok c₀ ∧
      gate (i.command.override c₀) = .error fault

/-- Opening the log and loading a configuration show in the log only. -/
theorem records_loading (path : Option String) :
    Records Event.IsLogLine (loading s l path) :=
  (s.records_openLog l).bind fun _ => s.records_task _

/-- A command that fetches is turned away, or carried out by a configuration that is admitted. -/
theorem turnsAway_or_admits {i : Invocation} (hParse : CommandLine.parse args = .ok i)
    {gate : Config → Except Config.Fault Unit} (hGate : i.command.gate? = some gate) :
    TurnsAway s l w i gate ∨ ∃ c₀, ((loading s l i.config).run w).1 = .ok c₀ ∧
      gate (i.command.override c₀) = .ok () ∧ Admits s l w args i (i.command.override c₀) := by
  cases hLoaded : ((loading s l i.config).run w).1 with
  | error e => exact .inl (.inl ⟨e, hLoaded⟩)
  | ok c₀ =>
    cases hPassed : gate (i.command.override c₀) with
    | error fault => exact .inl (.inr ⟨c₀, fault, hLoaded, hPassed⟩)
    | ok => exact .inr ⟨c₀, rfl, hPassed, hParse, ⟨c₀, hLoaded, rfl⟩, gate, hGate, hPassed⟩

/-- A command that is turned away ends the session with a complaint, and does nothing else. -/
theorem run_of_turnsAway {i : Invocation} (hParse : CommandLine.parse args = .ok i)
    {gate : Config → Except Config.Fault Unit} (hGate : i.command.gate? = some gate)
    (hAway : TurnsAway s l w i gate) :
    let session := (runIn s.platform l args).run w
    ∃ e : Failure, ∃ logged, (∀ event ∈ logged, event.IsLogLine) ∧
      session.2.trace
        = w.trace ++ (logged ++ [.complained ("fetchcheck error: " ++ e.message)]) ∧
      session.2.printed = w.printed ∧
      session.2.complaints = w.complaints ++ ["fetchcheck error: " ++ e.message] ∧
      session.1 = failure ∧
      ∀ c₀ fault, ((loading s l i.config).run w).1 = .ok c₀ →
        gate (i.command.override c₀) = .error fault → e.message = fault.message := by
  intro session
  obtain ⟨e, hRun, hReason⟩ : ∃ e : Failure,
      session = (settle s (.error e)).run ((loading s l i.config).run w).2 ∧
      ∀ c₀ fault, ((loading s l i.config).run w).1 = .ok c₀ →
        gate (i.command.override c₀) = .error fault → e.message = fault.message := by
    rcases hAway with ⟨e, hFailed⟩ | ⟨c₀, fault, hLoaded, hRejected⟩
    · -- nothing was loaded, so no gate was asked
      refine ⟨.load e, run_of_notLoaded s l w hParse hGate hFailed, fun c₀ fault hLoaded => ?_⟩
      rw [hFailed] at hLoaded
      contradiction
    · -- the gate refused what was loaded, and that is the complaint
      obtain ⟨e, hMessage, hObey⟩ := obey_of_rejected s hGate hRejected
      refine ⟨e, ?_, fun c₁ fault' hLoaded' hRejected' => ?_⟩
      · have hRun := run_of_loaded s l w hParse hGate hLoaded
        rw [hObey] at hRun
        exact hRun
      · rw [hLoaded] at hLoaded'
        obtain rfl := Except.ok.inj hLoaded'
        rw [hRejected] at hRejected'
        rw [hMessage, Except.error.inj hRejected']
  have hSilent := (records_loading s l i.config).mono fun _ => Event.IsLogLine.isSilent
  obtain ⟨logged, hTrace, hLogged⟩ := records_loading s l i.config w
  set w₁ := ((loading s l i.config).run w).2
  -- whatever the reason, all that is left of the session is one line
  set message := "fetchcheck error: " ++ e.message
  have hEnd : session = (failure, ((record (.complained message)).run w₁).2) := hRun
  refine ⟨e, logged, hLogged, ?_, ?_, ?_, congrArg Prod.fst hEnd, hReason⟩
  · rw [hEnd, trace_record, hTrace, List.append_assoc]
  · rw [hEnd, printed_record_complained, hSilent.printed_eq]
  · rw [hEnd, complaints_record_complained, hSilent.complaints_eq]

theorem isIdle_of_turnsAway {logged : List Event} (hLogged : ∀ e ∈ logged, e.IsLogLine)
    {message : String} : ∀ e ∈ logged ++ [.complained message], e.IsIdle := by
  intro e he
  rcases List.mem_append.mp he with hLog | hLast
  · exact (hLogged e hLog).isIdle
  · rw [List.mem_singleton.mp hLast]
    trivial

-- ---------------------------------------------------------------------------
-- Sessions
-- ---------------------------------------------------------------------------

/-- **A session fetches nothing, or keeps to a configuration that was admitted.** -/
theorem run_conduct (args : List String) :
    ∃ events, ((runIn s.platform l args).run w).2.trace = w.trace ++ events ∧
      ((∀ e ∈ events, e.IsIdle) ∨ ∃ i c, Admits s l w args i c ∧ Conduct s c events) := by
  have hLog := (s.records_openLog l).mono fun _ => Event.IsLogLine.isIdle
  cases hParse : CommandLine.parse args with
  | error e =>
    -- a refusal is answered on one of the two streams, without a fetch
    have hIdle : Records Event.IsIdle (do openLog s.platform l; answerRefusal s.platform e) := by
      refine hLog.bind fun _ => ?_
      unfold answerRefusal
      split
      · exact (records_record trivial).bind fun _ => .pure _
      · exact (records_record trivial).bind fun _ => .pure _
    obtain ⟨events, hTrace, hEvents⟩ := hIdle w
    exact ⟨events, by rw [runIn_of_refusal s.platform l hParse, hTrace], .inl hEvents⟩
  | ok i =>
    cases hGate : i.command.gate? with
    | none =>
      -- the only command without a gate is the one for completions
      obtain ⟨shell, hCommand⟩ : ∃ shell, i.command = .completions shell := by
        cases hCommand : i.command with
        | completions shell => exact ⟨shell, rfl⟩
        | _ =>
          rw [hCommand] at hGate
          contradiction
      have hPrint : Records Event.IsIdle (s.platform.print shell.completionScript) :=
        records_record trivial
      obtain ⟨events, hTrace, hEvents⟩ := (hLog.bind fun _ => hPrint) w
      refine ⟨events, ?_, .inl hEvents⟩
      rw [run_of_completions s l w hParse hCommand]
      exact hTrace
    | some gate =>
      rcases turnsAway_or_admits s l w hParse hGate with hAway | ⟨c₀, hLoaded, hPassed, hAdmits⟩
      · obtain ⟨e, logged, hLogged, hTrace, -⟩ := run_of_turnsAway s l w hParse hGate hAway
        exact ⟨_, hTrace, .inl (isIdle_of_turnsAway hLogged)⟩
      · -- admitted: the log and the loading are idle, and after them the command keeps its conduct
        set c := i.command.override c₀
        have hIdle := (records_loading s l i.config).mono fun _ => Event.IsLogLine.isIdle
        have hStart : ConductSince s c w ((loading s l i.config).run w).2 :=
          keeps_of_records hIdle w (.refl w)
        have hKept : Keeps (ConductSince s c w) (obey s c i.command >>= settle s) :=
          (keeps_obey keptBy_conduct _).bind fun result => keeps_settle keptBy_conduct.words result
        obtain ⟨events, hTrace, hConduct⟩ := hKept _ hStart
        rw [run_of_loaded s l w hParse hGate hLoaded]
        exact ⟨events, hTrace, .inr ⟨i, c, hAdmits, hConduct⟩⟩

/-- A reference whose target is sound is fetched, whatever else its configuration says. -/
theorem fetching_of_reference {path target : Option String} {expect : Option Digest}
    (hParse : CommandLine.parse args = .ok ⟨path, .reference target expect⟩) {c₀ : Config}
    (hLoaded : ((loading s l path).run w).1 = .ok c₀)
    (hPassed : (c₀.withTarget target none).checkTarget = .ok ()) :
    let c := c₀.withTarget target none
    ∃ before after, ((runIn s.platform l args).run w).2.trace
      = w.trace ++ (before ++ .fetching c.targetUrl .direct c.timeouts :: after) := by
  intro c
  obtain ⟨logged, hLogged, -⟩ := records_loading s l path w
  set w₁ := ((loading s l path).run w).2
  obtain ⟨sent, hSent, -, -⟩ := s.run_fetch c.targetUrl .direct c.timeouts w₁
  set fetched := (s.machine.fetch c.targetUrl .direct c.timeouts).run w₁
  -- what follows the fetch only adds to the trace
  have hRest : Keeps (ConductSince s c fetched.2)
      (concludeReference s c expect fetched.1 >>= settle s) :=
    (keeps_concludeReference keptBy_conduct.words expect fetched.1).bind fun result =>
      keeps_settle keptBy_conduct.words result
  obtain ⟨more, hMore, -⟩ := hRest fetched.2 (.refl fetched.2)
  have hRun : (runIn s.platform l args).run w
      = (concludeReference s c expect fetched.1 >>= settle s).run fetched.2 := by
    rw [run_of_loaded s l w hParse rfl hLoaded]
    exact congrArg (fun x => (x >>= settle s).run w₁) (obey_reference s hPassed target expect)
  refine ⟨logged, sent.map .asked ++ more, ?_⟩
  rw [hRun, hMore, hSent, hLogged]
  simp only [List.append_assoc, List.cons_append]

-- ---------------------------------------------------------------------------
-- All sessions
-- ---------------------------------------------------------------------------

/-- The route of a request as the gate leaves it: straight to its target, or by a sound
configuration through the proxy, which is not blank. -/
theorem route_of_permits {c : Config} {route : Route} (hPermits : c.Permits route)
    {request : Request} (hCarries : route.Carries request) :
    (route = .direct ∧ request.via = none) ∨
      (route = .proxy c.proxy ∧ c.check = .ok () ∧ Text.isAllBlank c.proxy = false ∧
        ∃ a, Address.parseProxy c.proxy = .ok a ∧ request.via = some a) := by
  cases route with
  | direct => exact .inl ⟨rfl, hCarries⟩
  | proxy address =>
    obtain ⟨rfl, hCheck⟩ := hPermits
    exact .inr ⟨rfl, hCheck, ((Config.check_eq_ok_iff c).mp hCheck).proxy, hCarries⟩

/-- The two reasons to turn a target away. -/
theorem checkTarget_cases (c : Config) :
    (c.checkTarget = .ok () ∧ c.SoundTarget) ∨
      ∃ fault, c.checkTarget = .error fault ∧
        ((∃ e, Url.parse c.targetUrl = .error e ∧ fault = .badTarget c.targetUrl e) ∨
          (c.timeouts.totalSecs = 0 ∧ fault = .noTotalTimeout)) := by
  cases hCheck : c.checkTarget with
  | ok => exact .inl ⟨rfl, (c.checkTarget_eq_ok_iff).mp hCheck⟩
  | error fault =>
    refine .inr ⟨fault, rfl, ?_⟩
    unfold Config.checkTarget at hCheck
    split at hCheck
    · next e hUrl => exact .inl ⟨e, hUrl, (Except.error.inj hCheck).symm⟩
    · split at hCheck
      · next hTotal => exact .inr ⟨hTotal, (Except.error.inj hCheck).symm⟩
      · contradiction

/--
**The gate before every request.** Whatever the arguments, the files and the world are, of what a
session does:

* each request is sent for a fetch that a configuration was admitted to: the arguments ask for a
  command that fetches, the configuration is the one that was loaded with the options of the command
  in force, and it passes the gate of the command. The fetch has a limit of at least one second, and
  its requests go straight to their targets, or else through the proxy of a sound configuration,
  which is not blank;
* each sleep of a worker is drawn from the jitter of an admitted configuration, whose ends are in
  order;
* a command that fetches, but cannot load its configuration or is rejected by its gate, sends
  nothing and prints nothing, and its status is 1;
* a reference is rejected only if its target cannot be read or its limit is zero. Else it is fetched,
  whatever the proxy, the workers and the jitter are.
-/
theorem requests_gated (s : Surroundings σ) (l : Locations) (args : List String) (w : World σ) :
    let session := (runIn s.platform l args).run w
    ∃ events, session.2.trace = w.trace ++ events ∧
      session.2.requests = w.requests ++ (requestsFor none events).map Prod.snd ∧
      (∀ x ∈ requestsFor none events, ∃ i c route, Admits s l w args i c ∧
        x.1 = some ⟨c.targetUrl, route, c.timeouts⟩ ∧ 1 ≤ c.timeouts.totalSecs ∧
        ((route = .direct ∧ x.2.via = none) ∨
          (route = .proxy c.proxy ∧ c.check = .ok () ∧ Text.isAllBlank c.proxy = false ∧
            ∃ a, Address.parseProxy c.proxy = .ok a ∧ x.2.via = some a))) ∧
      (∀ span, .slept span ∈ events → ∃ i c, Admits s l w args i c ∧
        c.jitter.minMs ≤ c.jitter.maxMs ∧ ∃ n, c.jitter.toJitter.sample (s.draw n) = some span) ∧
      (∀ i gate, CommandLine.parse args = .ok i → i.command.gate? = some gate →
        TurnsAway s l w i gate →
          requestsFor none events = [] ∧ session.2.printed = w.printed ∧ session.1 = 1) ∧
      (∀ path target expect c₀, CommandLine.parse args = .ok ⟨path, .reference target expect⟩ →
        ((loading s l path).run w).1 = .ok c₀ →
          let c := c₀.withTarget target none
          ((∃ u, Url.parse c.targetUrl = .ok u) ∧ c.timeouts.totalSecs ≠ 0 ∧
            .fetching c.targetUrl .direct c.timeouts ∈ events) ∨
          ∃ fault : Config.Fault,
            session.2.complaints = w.complaints ++ ["fetchcheck error: " ++ fault.message] ∧
            ((∃ e, Url.parse c.targetUrl = .error e ∧ fault = .badTarget c.targetUrl e) ∨
              (c.timeouts.totalSecs = 0 ∧ fault = .noTotalTimeout))) := by
  intro session
  obtain ⟨events, hTrace, hConduct⟩ := run_conduct s l w args
  -- the events are determined by the trace, so each case may bring its own
  have hSame : ∀ more, session.2.trace = w.trace ++ more → events = more := fun more hMore =>
    List.append_cancel_left (hTrace.symm.trans hMore)
  refine ⟨events, hTrace, requests_of_trace hTrace none, ?request, ?sleep, ?away, ?reference⟩
  case request =>
    intro x hx
    rcases hConduct with hIdle | ⟨i, c, hAdmits, hConduct⟩
    · -- without traffic there is no request to speak of
      rw [requestsFor_of_idle none hIdle] at hx
      contradiction
    · obtain ⟨route, hPermits, hFetch, hCarries⟩ := hConduct.requests none x hx
      obtain ⟨gate, hGate, hPassed⟩ := hAdmits.passed
      have hTimeout : c.timeouts.totalSecs ≠ 0 := (soundTarget_of_gate hGate hPassed).timeout
      refine ⟨i, c, route, hAdmits, hFetch, ?_, route_of_permits hPermits hCarries⟩
      rw [UInt64.le_iff_toNat_le]
      exact Nat.one_le_iff_ne_zero.mpr fun hZero => hTimeout (UInt64.toNat_inj.mp hZero)
  case sleep =>
    intro span hSlept
    rcases hConduct with hIdle | ⟨i, c, hAdmits, hConduct⟩
    · exact (hIdle _ hSlept).elim
    · obtain ⟨hCheck, hDrawn⟩ := hConduct.sleeps span hSlept
      exact ⟨i, c, hAdmits, ((Config.check_eq_ok_iff c).mp hCheck).jitter, hDrawn⟩
  case away =>
    intro i gate hParse hGate hAway
    obtain ⟨e, logged, hLogged, hEnd, hPrinted, -, hStatus, -⟩ :=
      run_of_turnsAway s l w hParse hGate hAway
    obtain rfl := hSame _ hEnd
    exact ⟨requestsFor_of_idle none (isIdle_of_turnsAway hLogged), hPrinted, hStatus⟩
  case reference =>
    intro path target expect c₀ hParse hLoaded c
    rcases checkTarget_cases c with ⟨hPassed, hSound⟩ | ⟨fault, hRejected, hFault⟩
    · -- a sound target is fetched, whatever the gate of a run would have said
      obtain ⟨before, after, hFetching⟩ := fetching_of_reference s l w hParse hLoaded hPassed
      refine .inl ⟨hSound.url, hSound.timeout, ?_⟩
      rw [hSame _ hFetching]
      exact List.mem_append_right _ List.mem_cons_self
    · obtain ⟨e, -, -, -, -, hComplaints, -, hReason⟩ :=
        run_of_turnsAway s l w hParse rfl (.inr ⟨c₀, fault, hLoaded, hRejected⟩)
      rw [hReason c₀ fault hLoaded hRejected] at hComplaints
      exact .inr ⟨fault, hComplaints, hFault⟩

/-- A single fetch by a proxy of one blank is turned away, though its target could be fetched. -/
theorem requests_gated_of_blank :
    let args := ["fetch", "--target", "x:", "--proxy", " "]
    let s := Surroundings.unreachable true (fun _ => none) "/"
    let l : Locations := ⟨"/root", none, none⟩
    let session := (runIn s.platform l args).run (.fresh () .empty)
    session.2.requests = [] ∧ session.2.printed = [] ∧ session.1 = 1 := by
  intro args s l session
  have hParse : CommandLine.parse args = .ok ⟨none, .fetch (some "x:") (some " ")⟩ := by
    decide +kernel
  have hDefault : ((loading s l none).run (.fresh () .empty)).1.toOption = some .default := by
    decide +kernel
  have hAway : TurnsAway s l (.fresh () .empty) ⟨none, .fetch (some "x:") (some " ")⟩
      Config.check := by
    -- what was loaded is the default, with the blank proxy of the arguments
    cases hLoaded : ((loading s l none).run (.fresh () .empty)).1 with
    | error e => exact .inl ⟨e, hLoaded⟩
    | ok c =>
      rw [hLoaded] at hDefault
      obtain rfl : c = .default := Option.some.inj hDefault
      exact .inr ⟨.default, .blankProxy, hLoaded, by decide +kernel⟩
  obtain ⟨events, -, hRequests, -, -, hTurned, -⟩ := requests_gated s l args (.fresh () .empty)
  obtain ⟨hNone, hPrinted, hStatus⟩ := hTurned _ _ hParse rfl hAway
  rw [hNone] at hRequests
  exact ⟨hRequests, hPrinted, hStatus⟩

end ProxyAudit.Session
