import Mathlib
import ProxyAudit.Proofs.Session.Traces

/-!
# The phases of a session

A session opens the log, reads its arguments, loads a configuration, lets the options override it
and carries the command out by it. Three of the four commands load a configuration, and each of
these has a gate that the configuration must pass before anything is fetched. A command that cannot
load its configuration, or that its gate turns away, ends the session at once with a complaint.

Main results:

* `run_of_refusal`, `run_of_completions`  — sessions that load nothing.
* `run_of_loaded`, `run_of_notLoaded`     — the others load, and then carry their command out.
* `obey_reference`, `obey_fetch`          — a command that fetches once, and what it makes of it.
* `obey_of_rejected`                      — nothing is done by a configuration that the gate rejects.
-/

namespace ProxyAudit

/-- What a configuration must pass before a command fetches by it, if the command fetches at
all. -/
def Command.gate? : Command → Option (Config → Except Config.Fault Unit)
  | run _ | fetch _ _ => some Config.check
  | reference _ _ => some Config.checkTarget
  | completions _ => none

/-- The configuration with what the options of a command override. -/
def Command.override (c : Config) : Command → Config
  | run o => c.withRunOptions o
  | reference target _ => c.withTarget target none
  | fetch target proxy => c.withTarget target proxy
  | completions _ => c

namespace Session

open World

variable {σ : Type}

/-- Opens the log and loads a configuration. -/
def loading (s : Surroundings σ) (l : Locations) (path : Option String) :
    StateM (World σ) (Except Config.LoadError Config) := do
  openLog s.platform l
  (loadTask l path).runIn s.platform.files

/-- Carries a command out by the configuration that is in force for it. -/
def obey (s : Surroundings σ) (c : Config) : Command → StateM (World σ) (Except Failure UInt32)
  | .run o => runAudit s.platform c o
  | .reference _ expect => runReference s.platform c expect
  | .fetch _ _ => runFetch s.platform c
  | .completions shell => do
    s.platform.print shell.completionScript
    return .ok success

/-- What a session makes of the direct fetch of its target. -/
def concludeReference (s : Surroundings σ) (c : Config) (expect : Option Digest) :
    FetchResult → StateM (World σ) (Except Failure UInt32)
  | .error e => return .error (.reference c.targetUrl e)
  | .ok body => do
    s.platform.print body.digest.text
    match expect with
    | none => return .ok success
    | some expected =>
      if expected = body.digest then return .ok success
      s.platform.complain ("digest mismatch: expected " ++ expected.text)
      return .ok failure

/-- What a session makes of the fetch through its proxy. -/
def concludeFetch (s : Surroundings σ) (c : Config) :
    FetchResult → StateM (World σ) (Except Failure UInt32)
  | .error e => return .error (.fetch c.targetUrl c.proxy e)
  | .ok body => do
    s.platform.print (body.digest.text ++ "  " ++ Decimal.text body.bytes.toNat ++ " bytes")
    return .ok success

/-- Ends a session with the status of its command, or complains of its failure. -/
def settle (s : Surroundings σ) : Except Failure UInt32 → StateM (World σ) UInt32
  | .ok status => return status
  | .error e => do
    s.platform.complain ("fetchcheck error: " ++ e.message)
    return failure

variable (s : Surroundings σ) (l : Locations) {args : List String} (w : World σ)

-- ---------------------------------------------------------------------------
-- Sessions phase by phase
-- ---------------------------------------------------------------------------

theorem run_of_refusal {e : CommandLine.Refusal} (h : CommandLine.parse args = .error e) :
    (runIn s.platform l args).run w
      = (answerRefusal s.platform e).run ((openLog s.platform l).run w).2 := by
  rw [runIn_of_refusal s.platform l h]
  rfl

theorem run_of_completions {i : Invocation} (h : CommandLine.parse args = .ok i) {shell : Shell}
    (hCommand : i.command = .completions shell) :
    (runIn s.platform l args).run w
      = (success, ((record (.printed shell.completionScript)).run
          ((openLog s.platform l).run w).2).2) := by
  simp only [runIn, h, carryOut_completions s.platform l hCommand]
  rfl

/-- A command with a gate loads a configuration and is carried out by it, options included. -/
theorem run_of_gate {i : Invocation} (h : CommandLine.parse args = .ok i)
    {gate : Config → Except Config.Fault Unit} (hGate : i.command.gate? = some gate) :
    (runIn s.platform l args).run w
      = match ((loading s l i.config).run w).1 with
        | .error e => (settle s (.error (.load e))).run ((loading s l i.config).run w).2
        | .ok c =>
          (obey s (i.command.override c) i.command >>= settle s).run
            ((loading s l i.config).run w).2 := by
  -- only a command with a gate asks for a configuration
  have hPhases : carryOut s.platform l i
      = withConfig s.platform l i.config fun c => obey s (i.command.override c) i.command := by
    obtain ⟨path, command⟩ := i
    cases command with
    | completions shell => contradiction
    | _ => rfl
  -- the log comes before the file, whatever the file is
  have hLoading : (loading s l i.config).run w
      = ((loadTask l i.config).runIn s.platform.files).run ((openLog s.platform l).run w).2 :=
    rfl
  simp only [runIn, h, hPhases, withConfig, StateM.run_bind, hLoading]
  obtain ⟨loaded, w₁⟩ :=
    ((loadTask l i.config).runIn s.platform.files).run ((openLog s.platform l).run w).2
  cases loaded with
  | error e => rfl
  | ok c =>
    dsimp only
    obtain ⟨result, w₂⟩ := (obey s (i.command.override c) i.command).run w₁
    cases result <;> rfl

theorem run_of_notLoaded {i : Invocation} (h : CommandLine.parse args = .ok i)
    {gate : Config → Except Config.Fault Unit} (hGate : i.command.gate? = some gate)
    {e : Config.LoadError} (hLoaded : ((loading s l i.config).run w).1 = .error e) :
    (runIn s.platform l args).run w
      = (settle s (.error (.load e))).run ((loading s l i.config).run w).2 := by
  rw [run_of_gate s l w h hGate, hLoaded]

theorem run_of_loaded {i : Invocation} (h : CommandLine.parse args = .ok i)
    {gate : Config → Except Config.Fault Unit} (hGate : i.command.gate? = some gate) {c : Config}
    (hLoaded : ((loading s l i.config).run w).1 = .ok c) :
    (runIn s.platform l args).run w
      = (obey s (i.command.override c) i.command >>= settle s).run
          ((loading s l i.config).run w).2 := by
  rw [run_of_gate s l w h hGate, hLoaded]

/-- A reference is fetched directly, with a sound target. -/
theorem obey_reference {c : Config} (h : c.checkTarget = .ok ()) (target : Option String)
    (expect : Option Digest) :
    obey s c (.reference target expect)
      = s.machine.fetch c.targetUrl .direct c.timeouts >>= concludeReference s c expect := by
  simp only [obey, runReference, h]
  refine congrArg (s.machine.fetch c.targetUrl .direct c.timeouts >>= ·) (funext fun fetched => ?_)
  cases fetched <;> rfl

/-- A single fetch goes through the proxy, with a sound configuration. -/
theorem obey_fetch {c : Config} (h : c.check = .ok ()) (target proxy : Option String) :
    obey s c (.fetch target proxy)
      = s.machine.fetch c.targetUrl (.proxy c.proxy) c.timeouts >>= concludeFetch s c := by
  simp only [obey, runFetch, h]
  refine congrArg (s.machine.fetch c.targetUrl (.proxy c.proxy) c.timeouts >>= ·)
    (funext fun fetched => ?_)
  cases fetched <;> rfl

-- ---------------------------------------------------------------------------
-- Gates
-- ---------------------------------------------------------------------------

/-- **Nothing is done by a configuration that the gate rejects.** -/
theorem obey_of_rejected {command : Command} {gate : Config → Except Config.Fault Unit}
    (hGate : command.gate? = some gate) {c : Config} {fault : Config.Fault}
    (hRejected : gate c = .error fault) :
    ∃ e : Failure, e.message = fault.message ∧ obey s c command = pure (.error e) := by
  cases command with
  | completions shell => contradiction
  | run o =>
    cases hGate
    refine ⟨.audit (.refused fault), rfl, ?_⟩
    simp only [obey, runAudit, Config.audit_refused _ _ _ hRejected, pure_bind]
  | fetch target proxy =>
    cases hGate
    refine ⟨.refused fault, rfl, ?_⟩
    simp only [obey, runFetch, hRejected]
  | reference target expect =>
    cases hGate
    refine ⟨.refused fault, rfl, ?_⟩
    simp only [obey, runReference, hRejected]

/-- A configuration that passes a gate has a target to fetch and a limit in time. -/
theorem soundTarget_of_gate {command : Command} {gate : Config → Except Config.Fault Unit}
    (hGate : command.gate? = some gate) {c : Config} (hPassed : gate c = .ok ()) :
    c.SoundTarget := by
  cases command with
  | completions shell => contradiction
  | run o | fetch target proxy =>
    cases hGate
    exact ((Config.check_eq_ok_iff c).mp hPassed).target
  | reference target expect =>
    cases hGate
    exact (Config.checkTarget_eq_ok_iff c).mp hPassed

end Session

end ProxyAudit
