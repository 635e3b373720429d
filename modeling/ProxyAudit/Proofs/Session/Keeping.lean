import Mathlib
import ProxyAudit.Proofs.Audit.Keeping
import ProxyAudit.Proofs.Session.Phases

/-!
# What a session keeps

A command that is carried out by a configuration acts on its world by what it says, by a direct
fetch of its target, and by its workers. What these keep is kept by the command, whatever becomes
of it.

Main results:

* `keeps_obey`    — what a command keeps while it is carried out.
* `keeps_settle`  — what is kept when its session ends.
-/

namespace ProxyAudit

variable {σ β : Type}

/-- Neither a request nor a sleep. -/
def Event.IsIdle : Event → Prop
  | asked _ | slept _ => False
  | _ => True

theorem Event.IsLogLine.isIdle {e : Event} (h : e.IsLogLine) : e.IsIdle := by
  cases e <;> trivial

namespace Session

open World

variable {s : Surroundings σ} {c : Config} {I : World σ → Prop}

-- ---------------------------------------------------------------------------
-- Words
-- ---------------------------------------------------------------------------

section Words

variable (hWords : ∀ e : Event, e.IsIdle → Keeps I (record e))
include hWords

theorem keeps_print (text : String) : Keeps I (s.platform.print text) :=
  hWords (.printed text) trivial

theorem keeps_complain (text : String) : Keeps I (s.platform.complain text) :=
  hWords (.complained text) trivial

theorem keeps_unlessJson (o : RunOptions) (text : String) :
    Keeps I (if o.json then pure () else s.platform.print text) := by
  split
  · exact .pure ()
  · exact keeps_print hWords text

/-- What is said at the end of a session. -/
theorem keeps_settle (result : Except Failure UInt32) : Keeps I (settle s result) := by
  cases result with
  | ok status => exact .pure status
  | error e => exact (keeps_complain hWords _).bind fun _ => .pure _

theorem keeps_answerRefusal (e : CommandLine.Refusal) : Keeps I (answerRefusal s.platform e) := by
  unfold answerRefusal
  split
  · exact (keeps_complain hWords _).bind fun _ => .pure _
  · exact (keeps_print hWords _).bind fun _ => .pure _

theorem keeps_concludeReference (expect : Option Digest) (fetched : FetchResult) :
    Keeps I (concludeReference s c expect fetched) := by
  cases fetched with
  | error e => exact .pure _
  | ok body =>
    refine (keeps_print hWords _).bind fun _ => ?_
    cases expect with
    | none => exact .pure _
    | some expected =>
      dsimp only
      split
      · exact .pure _
      · exact (keeps_complain hWords _).bind fun _ => .pure _

theorem keeps_concludeFetch (fetched : FetchResult) : Keeps I (concludeFetch s c fetched) := by
  cases fetched with
  | error e => exact .pure _
  | ok body => exact (keeps_print hWords _).bind fun _ => .pure _

end Words

-- ---------------------------------------------------------------------------
-- Commands
-- ---------------------------------------------------------------------------

/-- What is kept by all that a command may do by a configuration. Its workers start only if all of
the configuration is sound. -/
structure KeptBy (I : World σ → Prop) (s : Surroundings σ) (c : Config) : Prop where
  words : ∀ e : Event, e.IsIdle → Keeps I (record e)
  direct : Keeps I (s.machine.fetch c.targetUrl .direct c.timeouts)
  workers : c.check = .ok () → s.machine.KeepsFor I c

theorem keeps_runAudit (h : KeptBy I s c) (o : RunOptions) : Keeps I (runAudit s.platform c o) := by
  refine Keeps.bind ?_ fun result => ?_
  · -- until the report is there, only what the audit does has to be kept
    exact keeps_audit h.direct h.workers (fun _ => keeps_unlessJson h.words o _)
      fun _ => keeps_unlessJson h.words o _
  · cases result with
    | error e => exact .pure _
    | ok report =>
      dsimp only
      split
      · exact (keeps_print h.words _).bind fun _ => .pure _
      split
      · exact (keeps_print h.words _).bind fun _ => .pure _
      · exact .pure _

/-- **What a command keeps while it is carried out**, whether or not its gate lets it pass. -/
theorem keeps_obey (h : KeptBy I s c) (command : Command) : Keeps I (obey s c command) := by
  cases hGate : command.gate? with
  | none =>
    cases command with
    | completions shell => exact (keeps_print h.words _).bind fun _ => .pure _
    | _ => contradiction
  | some gate =>
    cases hPassed : gate c with
    | error fault =>
      -- a command that is rejected does nothing
      obtain ⟨e, -, hObey⟩ := obey_of_rejected s hGate hPassed
      rw [hObey]
      exact .pure _
    | ok =>
      cases command with
      | run o => exact keeps_runAudit h o
      | reference target expect =>
        cases hGate
        rw [obey_reference s hPassed]
        exact h.direct.bind fun _ => keeps_concludeReference h.words expect _
      | fetch target proxy =>
        cases hGate
        rw [obey_fetch s hPassed]
        exact (h.workers hPassed).fetch.bind fun _ => keeps_concludeFetch h.words _
      | completions shell => contradiction

end Session

end ProxyAudit
