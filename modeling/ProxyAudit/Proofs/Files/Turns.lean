import Mathlib
import ProxyAudit.Files

/-!
# Tasks that take turns

Several tasks work on one tree of files. Whenever one of them has its turn, it takes one step, and
it sees the files as the others have left them. Any order of turns is a history; here are those in
which no operation fails.

Main results:

* `turn?_eq_some_iff`    — what a turn does.
* `history_induction`    — what every turn keeps holds after every history.
-/

namespace ProxyAudit

open FilePath

variable {α : Type}

/-- The operation fails that a task asks for next. -/
def FileTask.fails (current : String) (t : FileTree) : FileTask α → Bool
  | done _ | seek _ _ => false
  | makeDirectories path _ => (t.makeDirectories (stepsFrom current path)).toOption.isNone
  | read path _ => (t.read (stepsFrom current path)).toOption.isNone
  | write path content _ => (t.write (stepsFrom current path) content).toOption.isNone
  | touch path _ => (t.touch (stepsFrom current path)).toOption.isNone

/-- The result of a task that is done. -/
def FileTask.result? : FileTask α → Option α
  | done result => some result
  | _ => none

namespace FileTask

variable {current path : String} {t : FileTree}

theorem step_makeDirectories {next : Except FileFault Unit → FileTask α}
    (h : (makeDirectories path next).fails current t = false) :
    ∃ t', t.makeDirectories (stepsFrom current path) = .ok t' ∧
      (makeDirectories path next).step current t = (next (.ok ()), t') := by
  cases hMade : t.makeDirectories (stepsFrom current path) with
  | error e => simp [fails, hMade, Except.toOption] at h
  | ok t' => exact ⟨t', rfl, by simp [step, FileTree.files, hMade, FileTree.attempt]⟩

theorem step_read {next : Except FileFault Bytes → FileTask α}
    (h : (read path next).fails current t = false) :
    ∃ content, t.read (stepsFrom current path) = .ok content ∧
      (read path next).step current t = (next (.ok content), t) := by
  cases hRead : t.read (stepsFrom current path) with
  | error e => simp [fails, hRead, Except.toOption] at h
  | ok content => exact ⟨content, rfl, by simp [step, FileTree.files, hRead]⟩

theorem step_write {content : Bytes} {next : Except FileFault Unit → FileTask α}
    (h : (write path content next).fails current t = false) :
    ∃ t', t.write (stepsFrom current path) content = .ok t' ∧
      (write path content next).step current t = (next (.ok ()), t') := by
  cases hWritten : t.write (stepsFrom current path) content with
  | error e => simp [fails, hWritten, Except.toOption] at h
  | ok t' => exact ⟨t', rfl, by simp [step, FileTree.files, hWritten, FileTree.attempt]⟩

end FileTask

/-- Tasks that work on one tree. -/
structure Crowd (α : Type) where
  tree : FileTree
  tasks : List (FileTask α)

namespace Crowd

/-- The crowd after a turn of one task, unless the operation fails. -/
def turn? (current : String) (c : Crowd α) (i : Nat) : Option (Crowd α) :=
  match c.tasks[i]? with
  | none => none
  | some task =>
    if task.fails current c.tree then none
    else
      let (task, tree) := task.step current c.tree
      some ⟨tree, c.tasks.set i task⟩

/-- The crowd after a history of turns, if no operation fails. -/
def after? (current : String) (c : Crowd α) : List Nat → Option (Crowd α)
  | [] => some c
  | i :: history => (c.turn? current i).bind (·.after? current history)

variable {current : String} {start c c' : Crowd α} {i : Nat} {history : List Nat}

/-- **What a turn does.** -/
theorem turn?_eq_some_iff : c.turn? current i = some c' ↔
    ∃ task, c.tasks[i]? = some task ∧ task.fails current c.tree = false ∧
      c' = ⟨(task.step current c.tree).2, c.tasks.set i (task.step current c.tree).1⟩ := by
  unfold turn?
  constructor
  · intro h
    split at h
    · contradiction
    · next task hTask =>
      split at h
      · contradiction
      · next hFails => exact ⟨task, hTask, by simpa using hFails, (Option.some.inj h).symm⟩
  · rintro ⟨task, hTask, hFails, rfl⟩
    simp [hTask, hFails]

theorem after?_append (past later : List Nat) :
    start.after? current (past ++ later)
      = (start.after? current past).bind (·.after? current later) := by
  induction past generalizing start with
  | nil => rfl
  | cons i past ih =>
    simp only [List.cons_append, after?]
    cases start.turn? current i with
    | none => rfl
    | some c => exact ih

/-- **Histories, one turn at a time.** -/
theorem history_induction {P : List Nat → Crowd α → Prop}
    (h : start.after? current history = some c) (hStart : P [] start)
    (hTurn : ∀ past i c c', start.after? current past = some c → P past c →
      c.turn? current i = some c' → P (past ++ [i]) c') : P history c := by
  induction history using List.reverseRecOn generalizing c with
  | nil =>
    cases h
    exact hStart
  | append_singleton past i ih =>
    rw [after?_append] at h
    obtain ⟨before, hPast, hLast⟩ := Option.bind_eq_some_iff.mp h
    obtain ⟨after, hNow, hNothing⟩ := Option.bind_eq_some_iff.mp hLast
    cases hNothing
    exact hTurn past i before _ hPast (ih hPast) hNow

theorem length_after? (h : start.after? current history = some c) :
    c.tasks.length = start.tasks.length := by
  refine history_induction (P := fun _ c => c.tasks.length = start.tasks.length) h rfl ?_
  intro past i before after _ hBefore hTurn
  obtain ⟨task, -, -, rfl⟩ := turn?_eq_some_iff.mp hTurn
  rw [List.length_set, hBefore]

end Crowd

end ProxyAudit
