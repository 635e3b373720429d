import ProxyAudit.FileTree

/-!
# File tasks

A task is a tree of what it asks of a file system; each answer leads to the rest of the tree. The
same task runs on a real file system and on a tree of files, and it can be run a step at a time
while other tasks work on the same tree.

Main results:

* `run_step`  — a task that has taken a step ends as it would have.
-/

namespace ProxyAudit

/-- A task on files: what it asks, and how it goes on after each answer. -/
inductive FileTask (α : Type) where
  | done (result : α)
  | makeDirectories (path : String) (next : Except FileFault Unit → FileTask α)
  /-- Asks whether a path leads to something. -/
  | seek (path : String) (next : Bool → FileTask α)
  | read (path : String) (next : Except FileFault Bytes → FileTask α)
  /-- Writes a file anew. -/
  | write (path : String) (content : Bytes) (next : Except FileFault Unit → FileTask α)
  /-- Opens a file to write at its end, and makes it if it is missing. -/
  | touch (path : String) (next : Except FileFault Unit → FileTask α)

/-- A file system that answers what tasks ask. -/
structure Files (m : Type → Type) where
  makeDirectories : String → m (Except FileFault Unit)
  seek : String → m Bool
  read : String → m (Except FileFault Bytes)
  write : String → Bytes → m (Except FileFault Unit)
  touch : String → m (Except FileFault Unit)

/-- Runs a task on a file system. -/
def FileTask.runIn {α : Type} {m : Type → Type} [Monad m] (files : Files m) : FileTask α → m α
  | done result => pure result
  | makeDirectories path next => files.makeDirectories path >>= fun r => (next r).runIn files
  | seek path next => files.seek path >>= fun r => (next r).runIn files
  | read path next => files.read path >>= fun r => (next r).runIn files
  | write path content next => files.write path content >>= fun r => (next r).runIn files
  | touch path next => files.touch path >>= fun r => (next r).runIn files

-- ---------------------------------------------------------------------------
-- Trees of files
-- ---------------------------------------------------------------------------

namespace FileTree

/-- The tree after an operation, and whether it failed. -/
def attempt (t : FileTree) (r : Except FileFault FileTree) : Except FileFault Unit × FileTree :=
  match r with
  | .ok t => (.ok (), t)
  | .error fault => (.error fault, t)

/-- Opens a file to write at its end, and makes it if it is missing. -/
def touch (t : FileTree) (path : List String) : Except FileFault FileTree := do
  let p ← t.resolve path
  match t.find? p with
  | some .directory => .error .isDirectory
  | some (.file _) => .ok t
  | none => t.make p (.file [])

/-- A tree as a file system, with the directory where paths start that do not start at the root. -/
def files (current : String) : Files (StateM FileTree) where
  makeDirectories path := fun t => t.attempt (t.makeDirectories (FilePath.stepsFrom current path))
  seek path := fun t => (t.contains (FilePath.stepsFrom current path), t)
  read path := fun t => (t.read (FilePath.stepsFrom current path), t)
  write path content := fun t => t.attempt (t.write (FilePath.stepsFrom current path) content)
  touch path := fun t => t.attempt (t.touch (FilePath.stepsFrom current path))

/-- Runs a task on a tree. -/
def perform {α : Type} (t : FileTree) (current : String) (task : FileTask α) : α × FileTree :=
  (task.runIn (files current)).run t

end FileTree

/-- Takes one step of a task on a tree. -/
def FileTask.step {α : Type} (current : String) (t : FileTree) :
    FileTask α → FileTask α × FileTree
  | done result => (done result, t)
  | makeDirectories path next =>
    let (r, t) := (FileTree.files current).makeDirectories path t
    (next r, t)
  | seek path next =>
    let (r, t) := (FileTree.files current).seek path t
    (next r, t)
  | read path next =>
    let (r, t) := (FileTree.files current).read path t
    (next r, t)
  | write path content next =>
    let (r, t) := (FileTree.files current).write path content t
    (next r, t)
  | touch path next =>
    let (r, t) := (FileTree.files current).touch path t
    (next r, t)

theorem FileTree.perform_read {α : Type} (t : FileTree) (current path : String)
    (next : Except FileFault Bytes → FileTask α) :
    t.perform current (.read path next)
      = t.perform current (next (t.read (FilePath.stepsFrom current path))) :=
  rfl

theorem FileTask.run_step {α : Type} (current : String) (t : FileTree) (task : FileTask α) :
    (task.step current t).2.perform current (task.step current t).1 = t.perform current task := by
  cases task <;> rfl

end ProxyAudit
