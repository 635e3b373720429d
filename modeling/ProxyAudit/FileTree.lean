import ProxyAudit.Bytes

/-!
# File trees

A tree of directories and files with the few operations that a program needs to keep a
configuration in it. Paths are lists of components from the root; `.` and `..` are followed step
by step, so each step needs the directory that the steps before lead to. A directory may be locked,
and then nothing can be made in it.

Main results:

* `find?_put`         — what was put at a path stands there.
* `find?_put_of_ne`   — what stands elsewhere is still there.
-/

namespace ProxyAudit

/-- What stands at a path. -/
inductive Entry where
  | directory
  | file (content : Bytes)
  deriving DecidableEq, Repr

/-- Why an operation on a tree fails. -/
inductive FileFault where
  | notFound
  | alreadyExists
  | notDirectory
  | isDirectory
  | denied
  /-- A fault that only a real file system has. -/
  | other (message : String)
  deriving DecidableEq, Repr

def FileFault.message : FileFault → String
  | notFound => "No such file or directory (os error 2)"
  | alreadyExists => "File exists (os error 17)"
  | notDirectory => "Not a directory (os error 20)"
  | isDirectory => "Is a directory (os error 21)"
  | denied => "Permission denied (os error 13)"
  | other message => message

/-- A tree: what stands at the paths below the root. -/
structure FileTree where
  entries : List (List String × Entry)
  /-- The directories in which nothing can be made. -/
  locked : List (List String)
  deriving DecidableEq, Repr

namespace FileTree

/-- A tree with nothing but the root. -/
def empty : FileTree :=
  ⟨[], []⟩

-- ---------------------------------------------------------------------------
-- Plain paths
-- ---------------------------------------------------------------------------

/-- What stands at a path without `.` and `..`. -/
def find? (t : FileTree) (path : List String) : Option Entry :=
  if path = [] then some .directory else t.entries.lookup path

/-- Puts something at a path, in place of what was there. -/
def put (t : FileTree) (path : List String) (e : Entry) : FileTree :=
  { t with entries := (path, e) :: t.entries.filter (·.1 ≠ path) }

/-- Takes away what stands at a path and below it. -/
def erase (t : FileTree) (path : List String) : FileTree :=
  ⟨t.entries.filter fun (p, _) => !path.isPrefixOf p, t.locked.filter fun p => !path.isPrefixOf p⟩

/-- Makes something at a path where nothing stands. -/
def make (t : FileTree) (path : List String) (e : Entry) : Except FileFault FileTree :=
  if t.locked.contains path.dropLast then .error .denied else .ok (t.put path e)

-- ---------------------------------------------------------------------------
-- Following paths
-- ---------------------------------------------------------------------------

/-- The plain path that some steps lead to, where the last of them need not exist. -/
def follow (t : FileTree) (here : List String) : List String → Except FileFault (List String)
  | [] => .ok here
  | step :: rest =>
    match t.find? here with
    | none => .error .notFound
    | some (.file _) => .error .notDirectory
    | some .directory =>
      if step = "." then t.follow here rest
      else if step = ".." then t.follow here.dropLast rest
      else t.follow (here ++ [step]) rest

/-- The plain path of a path from the root. -/
def resolve (t : FileTree) (path : List String) : Except FileFault (List String) :=
  t.follow [] path

/-- What a path leads to, if anything. -/
def lookup? (t : FileTree) (path : List String) : Option Entry :=
  match t.resolve path with
  | .ok p => t.find? p
  | .error _ => none

/-- A path that leads to something. -/
def contains (t : FileTree) (path : List String) : Bool :=
  (t.lookup? path).isSome

-- ---------------------------------------------------------------------------
-- Operations
-- ---------------------------------------------------------------------------

/-- The content of a file. -/
def read (t : FileTree) (path : List String) : Except FileFault Bytes := do
  match t.find? (← t.resolve path) with
  | none => .error .notFound
  | some .directory => .error .isDirectory
  | some (.file content) => .ok content

/-- Writes a file anew; its directory must be there. -/
def write (t : FileTree) (path : List String) (content : Bytes) : Except FileFault FileTree := do
  let p ← t.resolve path
  match t.find? p with
  | some .directory => .error .isDirectory
  | some (.file _) => .ok (t.put p (.file content))
  | none => t.make p (.file content)

/-- Makes a directory where nothing stands; the directory around it must be there. -/
def makeDirectory (t : FileTree) (path : List String) : Except FileFault FileTree := do
  let p ← t.resolve path
  match t.find? p with
  | some _ => .error .alreadyExists
  | none => t.make p .directory

/-- Makes a directory after an attempt: a directory that is already there will do. -/
def settle (t : FileTree) (path : List String) : Except FileFault FileTree :=
  match t.makeDirectory path with
  | .ok t' => .ok t'
  | .error e => if t.lookup? path = some .directory then .ok t else .error e

/-- Makes a directory and the directories around it, given its path last component first. -/
def makeAround (t : FileTree) : List String → Except FileFault FileTree
  | [] => .ok t
  | step :: outer =>
    let path := (step :: outer).reverse
    match t.makeDirectory path with
    | .error .notFound => do (← t.makeAround outer).settle path
    | _ => t.settle path

/-- Makes a directory and the directories around it, as far as they are missing. -/
def makeDirectories (t : FileTree) (path : List String) : Except FileFault FileTree :=
  t.makeAround path.reverse

theorem find?_put (t : FileTree) {path : List String} (h : path ≠ []) (e : Entry) :
    (t.put path e).find? path = some e := by
  simp [find?, put, h]

theorem find?_put_of_ne (t : FileTree) {path other : List String} (h : other ≠ path) (e : Entry) :
    (t.put path e).find? other = t.find? other := by
  have hKept : (t.entries.filter (·.1 ≠ path)).lookup other = t.entries.lookup other := by
    induction t.entries with
    | nil => rfl
    | cons x rest ih =>
      obtain ⟨p, stands⟩ := x
      by_cases hp : p = path
      · have hOther : (other == p) = false := beq_false_of_ne (hp ▸ h)
        rw [List.filter_cons_of_neg (by simp [hp]), List.lookup_cons, hOther, ih]
      · rw [List.filter_cons_of_pos (by simp [hp]), List.lookup_cons, List.lookup_cons, ih]
  have hOther : (other == path) = false := beq_false_of_ne h
  simp only [find?, put, List.lookup_cons, hOther, hKept]

end FileTree

-- ---------------------------------------------------------------------------
-- Texts of paths
-- ---------------------------------------------------------------------------

namespace FilePath

/-- The components of a text between slashes. -/
def split (s : String) : List String :=
  let grow (c : Char) (ps : List (List Char)) : List (List Char) :=
    match ps with
    | p :: rest => if c = '/' then [] :: p :: rest else (c :: p) :: rest
    | [] => [[c]]
  (s.toList.foldr grow [[]]).map String.ofList

/-- The steps of a path. Empty components and `.` lead nowhere, but a path that ends in one of
them leads to a directory. -/
def steps (s : String) : List String :=
  let cs := split s
  let isIdle (c : String) : Bool := c == "" || c == "."
  let inner := cs.filter (!isIdle ·)
  match cs.getLast? with
  | some c => if isIdle c && s != "" then inner ++ ["."] else inner
  | none => inner

/-- A path that starts at the root. -/
def isAbsolute (s : String) : Bool :=
  s.startsWith "/"

/-- A path inside a directory. -/
def join (directory name : String) : String :=
  if directory = "" ∨ directory.endsWith "/" then directory ++ name else directory ++ "/" ++ name

/-- The steps of a path from the root, where a path that does not start there starts at a given
directory. -/
def stepsFrom (current : String) (s : String) : List String :=
  if isAbsolute s then steps s else (steps current) ++ steps s

end FilePath

end ProxyAudit
