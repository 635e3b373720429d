import Mathlib
import ProxyAudit.Proofs.Config.FirstRun
import ProxyAudit.Proofs.Session.Keeping

/-!
# The files of a session

A session touches files when it opens its log and when it loads its configuration. Fetches only
read, and nothing that comes after the configuration is loaded changes what stands in the tree.

Main results:

* `run_task`       — a file task in a world is the same task on the tree of that world.
* `tree_of_gate`   — a command that loads a configuration leaves the tree as loading has left it.
* `tree_of_noGate` — all other sessions only open the log.
-/

namespace ProxyAudit

variable {σ β : Type}

/-- The tree of a world. -/
def World.HasTree (t : FileTree) (w : World σ) : Prop :=
  w.tree = t

namespace Surroundings

open World

variable (s : Surroundings σ)

/-- **A file task in a world is the same task on the tree of that world.** -/
theorem run_task (task : FileTask β) (w : World σ) :
    (task.runIn s.platform.files).run w
      = ((w.tree.perform s.current task).1,
          { w with tree := (w.tree.perform s.current task).2 }) := by
  induction task generalizing w with
  | done result => rfl
  | makeDirectories path next ih | seek path next ih | read path next ih | write path content next ih
  | touch path next ih =>
    exact ih _ _

theorem keepsTree_runIn {t : FileTree} (limits : TimeoutSection) (transfer : Transfer) :
    Keeps (HasTree t) (transfer.runIn s.network limits) := by
  induction transfer with
  | done delivery => exact .pure delivery
  | watch next ih => exact ih s.isWatchable
  | look path next ih =>
    refine Keeps.bind ?_ ih
    simp only [network]
    split
    · exact .pure false
    · exact fun _ h => h
  | ask request next ih =>
    refine Keeps.bind ?_ ih
    exact fun _ h => h

theorem keepsTree_fetch {t : FileTree} (url : String) (route : Route) (limits : TimeoutSection) :
    Keeps (HasTree t) (s.machine.fetch url route limits) := by
  intro w h
  exact s.keepsTree_runIn limits (Transfer.fetch s.environment url route limits)
    ((record (.fetching url route limits)).run w).2 h

end Surroundings

namespace Session

open World

theorem keepsTree_words (t : FileTree) (e : Event) (_ : e.IsIdle) :
    Keeps (HasTree t) (record e : StateM (World σ) Unit) :=
  fun _ h => h

/-- A command that is carried out changes no file. -/
theorem keptBy_tree (s : Surroundings σ) (c : Config) (t : FileTree) :
    KeptBy (HasTree t) s c where
  words := keepsTree_words t
  direct := s.keepsTree_fetch _ _ _
  workers _ :=
    { fetch := s.keepsTree_fetch _ _ _
      draw := fun _ h => h
      sleep := ⟨fun _ => True, fun _ => trivial, fun _ _ _ _ _ h => h⟩
      now := fun _ h => h
      runPool := fun p _ _ hWork hTake => keeps_runFor hWork hTake s.schedule p.measure 0 p }

variable (s : Surroundings σ) (l : Locations) (w : World σ) {args : List String}

theorem tree_openLog :
    ((openLog s.platform l).run w).2.tree = (w.tree.perform s.current (logTask l)).2 := by
  simp only [openLog, StateM.run_bind, s.run_task]
  cases (w.tree.perform s.current (logTask l)).1 <;> rfl

/-- The configuration is loaded from the tree in which the log has been opened. -/
theorem run_loading (path : Option String) :
    let opened := (w.tree.perform s.current (logTask l)).2
    ((loading s l path).run w).1 = (opened.perform s.current (loadTask l path)).1 ∧
      ((loading s l path).run w).2.tree = (opened.perform s.current (loadTask l path)).2 := by
  intro opened
  have hRun : (loading s l path).run w
      = ((loadTask l path).runIn s.platform.files).run ((openLog s.platform l).run w).2 := rfl
  rw [hRun, s.run_task, tree_openLog]
  exact ⟨rfl, rfl⟩

/-- **A command that loads a configuration leaves the tree as loading has left it.** -/
theorem tree_of_gate {i : Invocation} (h : CommandLine.parse args = .ok i)
    {gate : Config → Except Config.Fault Unit} (hGate : i.command.gate? = some gate) :
    ((runIn s.platform l args).run w).2.tree = ((loading s l i.config).run w).2.tree := by
  cases hLoaded : ((loading s l i.config).run w).1 with
  | error e =>
    rw [run_of_notLoaded s l w h hGate hLoaded]
    exact keeps_settle (keepsTree_words _) (.error (.load e)) _ rfl
  | ok c =>
    rw [run_of_loaded s l w h hGate hLoaded]
    set t := ((loading s l i.config).run w).2.tree
    have hKept : Keeps (HasTree t) (obey s (i.command.override c) i.command >>= settle s) :=
      (keeps_obey (keptBy_tree s _ t) i.command).bind fun result =>
        keeps_settle (keepsTree_words t) result
    exact hKept _ rfl

/-- **All other sessions only open the log.** -/
theorem tree_of_noGate
    (h : ∀ i, CommandLine.parse args = .ok i → i.command.gate? = none) :
    ((runIn s.platform l args).run w).2.tree = (w.tree.perform s.current (logTask l)).2 := by
  rw [← tree_openLog s l w]
  -- no gate: the arguments were refused, or they ask for the script of a shell
  cases hParse : CommandLine.parse args with
  | error e =>
    rw [run_of_refusal s l w hParse]
    exact keeps_answerRefusal (keepsTree_words _) e _ rfl
  | ok i =>
    have hNone := h i hParse
    cases hCommand : i.command with
    | completions shell =>
      rw [run_of_completions s l w hParse hCommand]
      rfl
    | _ =>
      rw [hCommand] at hNone
      contradiction

end Session

end ProxyAudit
