import Mathlib
import ProxyAudit.Proofs.Pool.Runs
import ProxyAudit.Verify.Audit
import ProxyAudit.World

/-!
# Observed audits

An audit can be observed from outside: each fetch with the worker that made it and what came of
it, the reference when it is told, and each result when it is handed over. The observer keeps a
list of what it sees and acts on nothing, so an observed audit does exactly what the audit does.

A setting is all that an audit needs to be observed: how a transfer, a draw, a sleep and a look at
the clock act on a state, and the schedule of the pool. Described worlds are settings in which a
transfer comes to a delivery.

Main results:

* `observe_world`     — an observed audit ends as the audit does, in the same world.
* `machine_setting`   — a described world is the machine of its setting.
-/

namespace ProxyAudit

-- ---------------------------------------------------------------------------
-- What is seen
-- ---------------------------------------------------------------------------

/-- What can be seen of an audit from outside. -/
inductive Sighting (α : Type) where
  /-- A fetch: by which worker, if it was one, what was asked, and what came of it. -/
  | fetched (worker : Option UInt64) (url : String) (route : Route) (limits : TimeoutSection)
      (came : α)
  | told (reference : Digest)
  | took (result : WorkerResult)

/-- A world with an observer. -/
structure Observed (σ α : Type) where
  world : σ
  /-- The worker that has its turn. -/
  worker : Option UInt64
  seen : List (Sighting α)

namespace Observed

variable {σ α β : Type}

/-- A world of which nothing has been seen yet. -/
def fresh (world : σ) : Observed σ α :=
  ⟨world, none, []⟩

/-- Lets something act on the world. -/
def act (x : StateM σ β) : StateM (Observed σ α) β := fun o =>
  let (b, world) := x.run o.world
  (b, { o with world })

def note (sighting : Sighting α) : StateM (Observed σ α) Unit :=
  modify fun o => { o with seen := o.seen ++ [sighting] }

/-- Notes a fetch of the worker that has its turn. -/
def noteFetch (url : String) (route : Route) (limits : TimeoutSection) (came : α) :
    StateM (Observed σ α) Unit :=
  modify fun o => { o with seen := o.seen ++ [.fetched o.worker url route limits came] }

/-- Gives a worker its turn. -/
def turnOf (index : UInt64) (x : StateM (Observed σ α) β) : StateM (Observed σ α) β := do
  modify fun o => { o with worker := some index }
  let b ← x
  modify fun o => { o with worker := none }
  return b

end Observed

-- ---------------------------------------------------------------------------
-- Settings
-- ---------------------------------------------------------------------------

/-- A machine that can be observed. What a transfer comes to may say more than its result. -/
structure Setting (σ α : Type) where
  transfer : String → Route → TimeoutSection → StateM σ α
  result : α → FetchResult
  draw : StateM σ Draw
  sleep : Span → StateM σ Unit
  now : StateM σ Nat
  schedule : Pool.Schedule

namespace Setting

variable {σ α : Type}

def machine (s : Setting σ α) : Machine (StateM σ) where
  fetch url route limits := do return s.result (← s.transfer url route limits)
  draw := s.draw
  sleep := s.sleep
  now := s.now
  runPool p work onTake := p.runIn s.schedule work onTake

/-- The machine of a setting under observation. -/
def observed (s : Setting σ α) : Machine (StateM (Observed σ α)) where
  fetch url route limits := do
    let came ← Observed.act (s.transfer url route limits)
    Observed.noteFetch url route limits came
    return s.result came
  draw := Observed.act s.draw
  sleep span := Observed.act (s.sleep span)
  now := Observed.act s.now
  runPool p work onTake := p.runIn s.schedule (fun i => Observed.turnOf i (work i)) onTake

/-- Whoever is told a reference, under observation. -/
def noteReference (onReference : Digest → StateM σ Unit) (reference : Digest) :
    StateM (Observed σ α) Unit := do
  Observed.note (.told reference)
  Observed.act (onReference reference)

def noteResult (onResult : WorkerResult → StateM σ Unit) (result : WorkerResult) :
    StateM (Observed σ α) Unit := do
  Observed.note (.took result)
  Observed.act (onResult result)

/-- A draw from a range with room succeeds. -/
def DrawsWell (s : Setting σ α) : Prop :=
  ∀ w lo hi, lo.nanos < hi.nanos → ((s.draw.run w).1 lo hi).isSome = true

end Setting

theorem Draw.isSome_ofNumber (random : Nat) {lo hi : Span} (h : lo.nanos < hi.nanos) :
    (Draw.ofNumber random lo hi).isSome = true := by
  have hRest : random % (hi.nanos - lo.nanos) < hi.nanos - lo.nanos := Nat.mod_lt _ (by omega)
  have hLimit := hi.lt_limit
  have hFits : lo.nanos + random % (hi.nanos - lo.nanos) < 0x10000000000000000 * 1000000000 := by
    omega
  simp [Draw.ofNumber, h, Span.ofNanos?, hFits]

/-- An audit under observation. -/
def Config.observe {σ α : Type} (c : Config) (s : Setting σ α)
    (onReference : Digest → StateM σ Unit) (onResult : WorkerResult → StateM σ Unit) :
    StateM (Observed σ α) (Except AuditError Report) :=
  c.audit s.observed (Setting.noteReference onReference) (Setting.noteResult onResult)

/-- The setting of a described world. -/
def Surroundings.setting {σ : Type} (s : Surroundings σ) : Setting (World σ) Delivery where
  transfer url route limits := do
    World.record (.fetching url route limits)
    s.network.deliver s.environment url route limits
  result := Delivery.result
  draw := s.machine.draw
  sleep := s.machine.sleep
  now := s.machine.now
  schedule := s.schedule

theorem Surroundings.machine_setting {σ : Type} (s : Surroundings σ) :
    s.setting.machine = s.machine :=
  rfl

-- ---------------------------------------------------------------------------
-- The observer acts on nothing
-- ---------------------------------------------------------------------------

namespace Observed

variable {σ α β γ : Type}

/-- What is done under observation comes to the same as what is done without. -/
def Erases (x : StateM (Observed σ α) β) (y : StateM σ β) : Prop :=
  ∀ o, (x.run o).1 = (y.run o.world).1 ∧ (x.run o).2.world = (y.run o.world).2

theorem Erases.pure (b : β) : Erases (pure b : StateM (Observed σ α) β) (pure b) :=
  fun _ => ⟨rfl, rfl⟩

theorem Erases.bind {x : StateM (Observed σ α) β} {y : StateM σ β}
    {f : β → StateM (Observed σ α) γ} {g : β → StateM σ γ} (h : Erases x y)
    (hNext : ∀ b, Erases (f b) (g b)) : Erases (x >>= f) (y >>= g) := by
  intro o
  obtain ⟨hResult, hWorld⟩ := h o
  obtain ⟨hNextResult, hNextWorld⟩ := hNext (x.run o).1 (x.run o).2
  rw [StateM.run_bind, StateM.run_bind, ← hResult, ← hWorld]
  exact ⟨hNextResult, hNextWorld⟩

theorem Erases.act (x : StateM σ β) : Erases (act x : StateM (Observed σ α) β) x :=
  fun _ => ⟨rfl, rfl⟩

theorem Erases.turnOf {x : StateM (Observed σ α) β} {y : StateM σ β} (index : UInt64)
    (h : Erases x y) : Erases (turnOf index x) y :=
  fun o => h { o with worker := some index }

theorem Erases.note_act (sighting : Sighting α) (x : StateM σ β) :
    Erases (do note sighting; Observed.act x) x :=
  fun _ => ⟨rfl, rfl⟩

theorem Erases.play {work : UInt64 → StateM (Observed σ α) (Option WorkerResult)}
    {work' : UInt64 → StateM σ (Option WorkerResult)} (h : ∀ i, Erases (work i) (work' i))
    (p : Pool) (c : Pool.Choice) : Erases (p.play work c) (p.play work' c) := by
  cases c with
  | step s => exact .pure s
  | work t =>
    simp only [Pool.play]
    split
    · refine (h _).bind fun result => ?_
      -- whether the worker has a result or not, it is the same one
      cases result with
      | none => exact .pure _
      | some r => exact .pure _
    · exact .pure _
  | ruin t =>
    simp only [Pool.play]
    split
    · exact (h _).bind fun _ => .pure _
    · exact .pure _

theorem Erases.runFor {work : UInt64 → StateM (Observed σ α) (Option WorkerResult)}
    {work' : UInt64 → StateM σ (Option WorkerResult)}
    {onTake : WorkerResult → StateM (Observed σ α) Unit} {onTake' : WorkerResult → StateM σ Unit}
    (hWork : ∀ i, Erases (work i) (work' i)) (hTake : ∀ r, Erases (onTake r) (onTake' r))
    (schedule : Pool.Schedule) (fuel n : Nat) (p : Pool) :
    Erases (Pool.runFor schedule work onTake fuel n p)
      (Pool.runFor schedule work' onTake' fuel n p) := by
  induction fuel generalizing n p with
  | zero => exact .pure p
  | succ fuel ih =>
    simp only [Pool.runFor]
    split
    · exact .pure p
    · refine (Erases.play hWork p _).bind fun s => ?_
      split
      · exact .pure p
      · next q _ =>
        split
        · exact (hTake _).bind fun _ => ih (n + 1) q
        · exact ih (n + 1) q

end Observed

namespace Setting

variable {σ α : Type}

open Observed

theorem erases_fetch (s : Setting σ α) (url : String) (route : Route) (limits : TimeoutSection) :
    Erases (s.observed.fetch url route limits) (s.machine.fetch url route limits) :=
  fun _ => ⟨rfl, rfl⟩

theorem erases_runWorker (s : Setting σ α) (a : Assignment) (index : UInt64) :
    Erases (a.runWorker s.observed index) (a.runWorker s.machine index) := by
  refine (Erases.act s.draw).bind fun draw => ?_
  split
  · exact .pure none
  · refine (Erases.act _).bind fun _ => (Erases.act _).bind fun before => ?_
    refine (s.erases_fetch _ _ _).bind fun fetched => ?_
    exact (Erases.act _).bind fun after => .pure _

theorem erases_runWorkers (s : Setting σ α) (c : Config) (reference : Digest)
    (onResult : WorkerResult → StateM σ Unit) :
    Erases (c.runWorkers s.observed reference (noteResult onResult))
      (c.runWorkers s.machine reference onResult) := by
  unfold Config.runWorkers
  split
  · refine Erases.bind ?_ fun p => .pure _
    exact Erases.runFor (fun i => (s.erases_runWorker _ i).turnOf i)
      (fun r => .note_act (.took r) (onResult r)) _ _ _ _
  · exact .pure _

end Setting

open Observed in
/-- **The observer acts on nothing.** -/
theorem Config.observe_world {σ α : Type} (c : Config) (s : Setting σ α)
    (onReference : Digest → StateM σ Unit) (onResult : WorkerResult → StateM σ Unit) :
    Erases (c.observe s onReference onResult) (c.audit s.machine onReference onResult) := by
  unfold Config.observe Config.audit
  split
  · exact .pure _
  · refine (s.erases_fetch _ _ _).bind fun fetched => ?_
    split
    · exact .pure _
    · refine (Erases.note_act (.told _) (onReference _)).bind fun _ => ?_
      exact s.erases_runWorkers c _ onResult

end ProxyAudit
