import Mathlib
import ProxyAudit.Proofs.Pool.Runs
import ProxyAudit.Verify.Audit

/-!
# What an audit keeps

An audit acts on a state through its machine alone: it fetches, draws, sleeps, looks at the clock,
and tells what it found. So what each of these keeps is kept by the whole audit, in whatever order
the threads of its pool get their turns, whether or not workers die or threads cannot be started,
and also if the pool is left before its end.

An audit fetches its target only: once directly, and then through its proxy, if its configuration
is sound.

Main results:

* `keeps_runFor`  — what workers and the taking of results keep is kept by a run of any schedule.
* `keeps_runWorkers`, `keeps_audit`  — what a machine keeps is kept by workers, and by an audit.
-/

namespace ProxyAudit

variable {σ β γ : Type}

-- ---------------------------------------------------------------------------
-- Computations
-- ---------------------------------------------------------------------------

/-- From a state of which something holds, a computation leads to another such state. -/
def Keeps (I : σ → Prop) (x : StateM σ β) : Prop :=
  ∀ w, I w → I (x.run w).2

/-- A computation has a result of a kind, whatever the state. -/
def Yields (Q : β → Prop) (x : StateM σ β) : Prop :=
  ∀ w, Q (x.run w).1

variable {I : σ → Prop}

theorem Keeps.pure (b : β) : Keeps I (pure b : StateM σ β) :=
  fun _ h => h

theorem Keeps.bind_of {x : StateM σ β} {f : β → StateM σ γ} {Q : β → Prop} (h : Keeps I x)
    (hYields : Yields Q x) (hNext : ∀ b, Q b → Keeps I (f b)) : Keeps I (x >>= f) :=
  fun w hw => hNext _ (hYields w) _ (h w hw)

theorem Keeps.bind {x : StateM σ β} {f : β → StateM σ γ} (h : Keeps I x)
    (hNext : ∀ b, Keeps I (f b)) : Keeps I (x >>= f) :=
  fun w hw => hNext _ _ (h w hw)

-- ---------------------------------------------------------------------------
-- Pools
-- ---------------------------------------------------------------------------

theorem keeps_play {work : UInt64 → StateM σ (Option WorkerResult)}
    (hWork : ∀ i, Keeps I (work i)) (p : Pool) (c : Pool.Choice) : Keeps I (p.play work c) := by
  cases c with
  | step s => exact .pure s
  | work t =>
    simp only [Pool.play]
    split
    · refine (hWork _).bind fun result => ?_
      -- whether the worker has a result or not, nothing more is done
      cases result with
      | none => exact .pure _
      | some r => exact .pure _
    · exact .pure _
  | ruin t =>
    simp only [Pool.play]
    split
    · exact (hWork _).bind fun _ => .pure _
    · exact .pure _

theorem keeps_runFor {work : UInt64 → StateM σ (Option WorkerResult)}
    {onTake : WorkerResult → StateM σ Unit} (hWork : ∀ i, Keeps I (work i))
    (hTake : ∀ r, Keeps I (onTake r)) (schedule : Pool.Schedule) (fuel n : Nat) (p : Pool) :
    Keeps I (Pool.runFor schedule work onTake fuel n p) := by
  induction fuel generalizing n p with
  | zero => exact .pure p
  | succ fuel ih =>
    unfold Pool.runFor
    split
    · exact .pure p
    · refine (keeps_play hWork p _).bind fun s => ?_
      -- a choice that is not open ends the run, and a result that is taken is handed over
      split
      · exact .pure p
      · next q _ =>
        split
        · exact (hTake _).bind fun _ => ih (n + 1) q
        · exact ih (n + 1) q

-- ---------------------------------------------------------------------------
-- Audits
-- ---------------------------------------------------------------------------

/-- What a machine keeps while workers run on it. -/
structure Machine.KeepsFor (I : σ → Prop) (machine : Machine (StateM σ)) (c : Config) : Prop where
  fetch : Keeps I (machine.fetch c.targetUrl (.proxy c.proxy) c.timeouts)
  draw : Keeps I machine.draw
  sleep : ∃ drawn : Draw → Prop, Yields drawn machine.draw ∧
    ∀ draw span, drawn draw → c.jitter.toJitter.sample draw = some span →
      Keeps I (machine.sleep span)
  now : Keeps I machine.now
  runPool : ∀ p work onTake, (∀ i, Keeps I (work i)) → (∀ r, Keeps I (onTake r)) →
    Keeps I (machine.runPool p work onTake)

variable {machine : Machine (StateM σ)} {c : Config}

theorem keeps_runWorker (hMachine : machine.KeepsFor I c) (reference : Digest) (index : UInt64) :
    Keeps I ((c.assignment reference).runWorker machine index) := by
  obtain ⟨drawn, hDrawn, hSleep⟩ := hMachine.sleep
  refine hMachine.draw.bind_of hDrawn fun draw hDraw => ?_
  split
  · exact .pure none
  · next delay hDelay =>
    refine (hSleep draw delay hDraw hDelay).bind fun _ => hMachine.now.bind fun before => ?_
    refine hMachine.fetch.bind fun fetched => ?_
    exact hMachine.now.bind fun after => .pure _

theorem keeps_runWorkers {onResult : WorkerResult → StateM σ Unit}
    (hMachine : machine.KeepsFor I c) (hResult : ∀ r, Keeps I (onResult r)) (reference : Digest) :
    Keeps I (c.runWorkers machine reference onResult) := by
  unfold Config.runWorkers
  split
  · refine (hMachine.runPool _ _ _ ?_ hResult).bind fun p => .pure _
    exact keeps_runWorker hMachine reference
  · exact .pure _

/-- **What a machine keeps is kept by an audit.** -/
theorem keeps_audit {onReference : Digest → StateM σ Unit} {onResult : WorkerResult → StateM σ Unit}
    (hDirect : Keeps I (machine.fetch c.targetUrl .direct c.timeouts))
    (hMachine : c.check = .ok () → machine.KeepsFor I c)
    (hReference : ∀ d, Keeps I (onReference d)) (hResult : ∀ r, Keeps I (onResult r)) :
    Keeps I (c.audit machine onReference onResult) := by
  unfold Config.audit
  split
  · exact .pure _
  · next hCheck =>
    refine hDirect.bind fun fetched => ?_
    split
    · exact .pure _
    · next body =>
      refine (hReference body.digest).bind fun _ => ?_
      exact keeps_runWorkers (hMachine hCheck) hResult body.digest

end ProxyAudit
