import Mathlib
import ProxyAudit.CommandLine.Session
import ProxyAudit.Proofs.Config.RoundTrip
import ProxyAudit.Proofs.Files.Paths
import ProxyAudit.Proofs.Files.Places

/-!
# First runs

Opening the log and loading the configuration of the user are all that a session does to files, but
for the lines of the log. Neither changes what stands anywhere. The first leaves the place of the
configuration file free, as long as that is not on the way to the log. The second makes the
configuration file if there is room for it, and otherwise makes nothing at its place.

Main results:

* `apart_of_areSeparate`     — directories that keep out of each other's way.
* `extends_logTask`, `extends_loadOrInit`  — what stands anywhere stays as it is.
* `perform_logTask`          — what opening the log leaves free.
* `loadOrInit_of_absent`     — a missing file is made if there is room for it.
* `loadOrInit_of_contains`   — a file that is there is loaded as it stands.
-/

namespace ProxyAudit

open FilePath FileTree

variable (l : Locations) (current : String)

namespace Locations

/-- The place of the configuration file, for a program that runs in some directory. -/
def configPlace : List String :=
  goal (stepsFrom current l.configFile)

/-- The place of the log file. -/
def logPlace : List String :=
  goal (stepsFrom current l.logFile)

/-- The places on the way to the directory of the configuration. -/
def configWay : List (List String) :=
  stations (stepsFrom current l.configDirectory)

/-- The places on the way to the directory of the log. -/
def logWay : List (List String) :=
  stations (stepsFrom current l.logDirectory)

/-- The configuration file is not on the way to its own directory or to that of the log, nor is the
log file on the way to the configuration. -/
structure Apart : Prop where
  config_own : l.configPlace current ∉ l.configWay current
  config_log : l.configPlace current ∉ l.logWay current
  log_config : l.logPlace current ∉ l.configWay current

instance : Decidable (l.Apart current) :=
  decidable_of_iff (l.configPlace current ∉ l.configWay current ∧
      l.configPlace current ∉ l.logWay current ∧ l.logPlace current ∉ l.configWay current)
    ⟨fun ⟨hOwn, hLog, hConfig⟩ => ⟨hOwn, hLog, hConfig⟩, fun h => ⟨h.1, h.2, h.3⟩⟩

theorem configPlace_eq :
    l.configPlace current = goal (stepsFrom current l.configDirectory) ++ ["config.toml"] := by
  rw [configPlace, stepsFrom_configFile, goal_concat]
  rfl

theorem logPlace_eq :
    l.logPlace current = goal (stepsFrom current l.logDirectory) ++ ["fetchcheck.log"] := by
  rw [logPlace, stepsFrom_logFile, goal_concat]
  rfl

theorem configPlace_ne_logPlace : l.configPlace current ≠ l.logPlace current := by
  rw [configPlace_eq, logPlace_eq]
  intro hSame
  exact absurd (List.append_inj' hSame rfl).2 (by decide)

/-- Neither of the two directories is the other one, or inside it. -/
def AreSeparate : Prop :=
  ¬ goal (stepsFrom current l.configDirectory) <+: goal (stepsFrom current l.logDirectory) ∧
    ¬ goal (stepsFrom current l.logDirectory) <+: goal (stepsFrom current l.configDirectory)

instance : Decidable (l.AreSeparate current) :=
  inferInstanceAs (Decidable (_ ∧ _))

/-- **Separate directories that are named without a step back are apart.** -/
theorem apart_of_areSeparate (hConfig : ".." ∉ stepsFrom current l.configDirectory)
    (hLog : ".." ∉ stepsFrom current l.logDirectory) (h : l.AreSeparate current) :
    l.Apart current where
  config_own hMem := by
    -- the file lies one step deeper than any directory on the way to it
    have hLength := (prefix_of_mem_stations hConfig hMem).length_le
    rw [configPlace_eq, List.length_append, List.length_singleton] at hLength
    omega
  config_log hMem := by
    -- else one of the two directories would be inside the other
    have hInside := prefix_of_mem_stations hLog hMem
    rw [configPlace_eq] at hInside
    exact h.1 ((List.prefix_append _ _).trans hInside)
  log_config hMem := by
    have hInside := prefix_of_mem_stations hConfig hMem
    rw [logPlace_eq] at hInside
    exact h.2 ((List.prefix_append _ _).trans hInside)

end Locations

/-- There is room for the configuration file: its directory is there or can be made, and is not
locked. -/
def FileTree.HasRoom (t : FileTree) : Prop :=
  t.CanMake (stepsFrom current l.configDirectory) ∧ (l.configPlace current).dropLast ∉ t.locked

instance (t : FileTree) : Decidable (t.HasRoom l current) :=
  inferInstanceAs (Decidable (_ ∧ _))

-- ---------------------------------------------------------------------------
-- Tasks on a tree
-- ---------------------------------------------------------------------------

namespace FileTree

variable {α : Type} {current : String} {t t' : FileTree} {fault : FileFault} {path : String}

theorem perform_makeDirectories_ok (h : t.makeDirectories (stepsFrom current path) = .ok t')
    (next : Except FileFault Unit → FileTask α) :
    t.perform current (.makeDirectories path next) = t'.perform current (next (.ok ())) :=
  congrArg (fun r => (t.attempt r).2.perform current (next (t.attempt r).1)) h

theorem perform_makeDirectories_error
    (h : t.makeDirectories (stepsFrom current path) = .error fault)
    (next : Except FileFault Unit → FileTask α) :
    t.perform current (.makeDirectories path next) = t.perform current (next (.error fault)) :=
  congrArg (fun r => (t.attempt r).2.perform current (next (t.attempt r).1)) h

theorem perform_seek (t : FileTree) (current path : String) (next : Bool → FileTask α) :
    t.perform current (.seek path next)
      = t.perform current (next (t.contains (stepsFrom current path))) :=
  rfl

theorem perform_write_ok {content : Bytes}
    (h : t.write (stepsFrom current path) content = .ok t')
    (next : Except FileFault Unit → FileTask α) :
    t.perform current (.write path content next) = t'.perform current (next (.ok ())) :=
  congrArg (fun r => (t.attempt r).2.perform current (next (t.attempt r).1)) h

theorem perform_write_error {content : Bytes}
    (h : t.write (stepsFrom current path) content = .error fault)
    (next : Except FileFault Unit → FileTask α) :
    t.perform current (.write path content next) = t.perform current (next (.error fault)) :=
  congrArg (fun r => (t.attempt r).2.perform current (next (t.attempt r).1)) h

end FileTree

-- ---------------------------------------------------------------------------
-- The log
-- ---------------------------------------------------------------------------

/-- Opening a file to write at its end makes it where nothing stands, or leaves the tree as it
is. -/
theorem FileTree.attempt_touch_cases (t : FileTree) (path : List String) :
    (t.attempt (t.touch path)).2 = t ∨
      (t.find? (goal path) = none ∧
        (t.attempt (t.touch path)).2 = t.put (goal path) (.file [])) := by
  cases hResolved : t.resolve path with
  | error e => simp [touch, hResolved, bind, Except.bind, attempt]
  | ok p =>
    obtain rfl : p = goal path := resolve_eq_goal hResolved
    cases hStands : t.find? (goal path) with
    | some e => cases e <;> simp [touch, hResolved, hStands, bind, Except.bind, attempt]
    | none =>
      by_cases hLocked : (goal path).dropLast ∈ t.locked
      · simp [touch, hResolved, hStands, bind, Except.bind, attempt, make, hLocked]
      · simp [touch, hResolved, hStands, bind, Except.bind, attempt, make, hLocked]

/-- What opening the log does to a tree: nothing, or it makes the directory, and then the file if
that is missing. -/
theorem logTask_cases (t : FileTree) :
    let t' := (t.perform current (Session.logTask l)).2
    t' = t ∨ ∃ t₁, t.CanMake (stepsFrom current l.logDirectory) ∧
      Paves (stepsFrom current l.logDirectory) t t₁ ∧
      (t' = t₁ ∨ (t₁.find? (l.logPlace current) = none ∧
        t' = t₁.put (l.logPlace current) (.file []))) := by
  intro t'
  rcases t.makeDirectories_cases (stepsFrom current l.logDirectory) with
    ⟨hMake, t₁, hMade, hPaves⟩ | ⟨-, e, hError⟩
  · -- the directory is there, and the log is touched in it
    have hTouched : t' = (t₁.attempt (t₁.touch (stepsFrom current l.logFile))).2 := by
      simp only [t', Session.logTask]
      rw [perform_makeDirectories_ok hMade]
      rfl
    rw [hTouched]
    exact .inr ⟨t₁, hMake, hPaves, t₁.attempt_touch_cases _⟩
  · refine .inl ?_
    simp only [t', Session.logTask]
    rw [perform_makeDirectories_error hError]
    rfl

theorem extends_logTask (t : FileTree) :
    t.Extends (t.perform current (Session.logTask l)).2 := by
  rcases logTask_cases l current t with hKept | ⟨t₁, hMake, hPaves, hKept | ⟨hNone, hPut⟩⟩
  · rw [hKept]
    exact .refl t
  · rw [hKept]
    exact hPaves.extends hMake
  · rw [hPut]
    exact (hPaves.extends hMake).trans (.put hNone _)

/-- **What opening the log leaves free**: what is not on the way to it stays free, and as much can
be made there as before. -/
theorem perform_logTask (t : FileTree) :
    let t' := (t.perform current (Session.logTask l)).2
    t'.locked = t.locked ∧
      (∀ p, p ≠ l.logPlace current → (t'.CanPave p ↔ t.CanPave p)) ∧
      ∀ p, p ≠ l.logPlace current → p ∉ l.logWay current → t'.find? p = t.find? p := by
  intro t'
  rcases logTask_cases l current t with hKept | ⟨t₁, hMake, hPaves, hTouched⟩
  · simp [t', hKept]
  · -- after the directory only the log itself can change
    have hRest : t'.locked = t₁.locked ∧
        ∀ p, p ≠ l.logPlace current → t'.find? p = t₁.find? p := by
      rcases hTouched with hKept | ⟨-, hPut⟩
      · simp [t', hKept]
      · rw [show t' = t₁.put (l.logPlace current) (.file []) from hPut]
        exact ⟨rfl, fun p hp => find?_put_of_ne t₁ hp _⟩
    obtain ⟨hLocked, hFind⟩ := hRest
    refine ⟨hLocked.trans hPaves.locked_eq, fun p hp => ?_, fun p hp hOff => ?_⟩
    · rw [← hPaves.canPave_iff hMake p, CanPave, CanPave, hFind p hp, hLocked]
    · rw [hFind p hp, hPaves.find?_eq p hOff]

/-- With the log apart, opening it leaves as much room for the configuration file as there was. -/
theorem hasRoom_logTask (h : l.logPlace current ∉ l.configWay current) (t : FileTree) :
    (t.perform current (Session.logTask l)).2.HasRoom l current ↔ t.HasRoom l current := by
  obtain ⟨hLocked, hPave, -⟩ := perform_logTask l current t
  rw [HasRoom, HasRoom, hLocked]
  refine and_congr_left fun _ => forall₂_congr fun p hp => hPave p ?_
  exact fun hSame => h (hSame ▸ hp)

-- ---------------------------------------------------------------------------
-- The configuration
-- ---------------------------------------------------------------------------

namespace Config

section Directory

variable {l current} {t t' : FileTree}

theorem contains_configFile (h : t.IsPaved (stepsFrom current l.configDirectory)) :
    t.contains (stepsFrom current l.configFile) = (t.find? (l.configPlace current)).isSome := by
  have hThere := contains_of_isPaved h "config.toml"
  rwa [← l.stepsFrom_configFile] at hThere

theorem read_configFile (h : t.IsPaved (stepsFrom current l.configDirectory)) {content : Bytes} :
    t.read (stepsFrom current l.configFile) = .ok content ↔
      t.find? (l.configPlace current) = some (.file content) := by
  rw [Locations.configPlace, l.stepsFrom_configFile]
  exact read_of_isPaved h

/-- When the file can be written. -/
theorem write_configFile (h : t.IsPaved (stepsFrom current l.configDirectory)) (content : Bytes) :
    let place := l.configPlace current
    (t.find? place = none → place.dropLast ∈ t.locked →
      t.write (stepsFrom current l.configFile) content = .error .denied) ∧
    (t.find? place = none → place.dropLast ∉ t.locked →
      t.write (stepsFrom current l.configFile) content = .ok (t.put place (.file content))) ∧
    ∀ before, t.find? place = some (.file before) →
      t.write (stepsFrom current l.configFile) content = .ok (t.put place (.file content)) := by
  have hWrite := write_of_isPaved h "config.toml" content
  rwa [← l.stepsFrom_configFile] at hWrite

/-- What is there when it has been written. -/
theorem configFile_of_write (h : t.IsPaved (stepsFrom current l.configDirectory))
    {content : Bytes} (hWrite : t.write (stepsFrom current l.configFile) content = .ok t') :
    t'.IsPaved (stepsFrom current l.configDirectory) ∧ t'.locked = t.locked ∧
      t'.find? (l.configPlace current) = some (.file content) := by
  rw [l.stepsFrom_configFile] at hWrite
  rw [Locations.configPlace, l.stepsFrom_configFile]
  exact stands_of_write h hWrite

end Directory

/-- The text of the default configuration is the default configuration wherever it is read from. -/
theorem exists_defaultText :
    ∃ text, default.dump = .ok text ∧ ∀ path, ofContent path (Bytes.ofText text) = .ok default := by
  -- the defaults are small numbers, so they can be written
  have hWritable : default.Writable := by
    constructor <;> simp [default, JitterSection.default, TimeoutSection.default]
  have hParse : parse (String.ofList default.lines) = .ok default := by
    rw [parse, read?_lines hWritable]
    simp only [decode_document]
  obtain ⟨text, hText⟩ := (dump_eq_ok_iff default).mpr ((writable_iff default).mp hWritable)
  have hLines : text = String.ofList default.lines := by
    unfold dump at hText
    split at hText
    · exact (Except.ok.inj hText).symm
    · contradiction
  refine ⟨text, hText, fun path => ?_⟩
  rw [ofContent, Bytes.toText?_ofText, hLines]
  simp only [hParse]

/-- Loading a configuration from a file changes no file. -/
theorem tree_loadFrom (t : FileTree) (current path : String) :
    (t.perform current (loadFrom path)).2 = t := by
  rw [loadFrom, perform_read]
  cases t.read (stepsFrom current path) <;> rfl

/-- A file that is there is loaded alike from a tree in which more has been made. -/
theorem loadFrom_extends {t t' : FileTree} (h : t.Extends t')
    (hThere : t.contains (stepsFrom current l.configFile) = true) :
    (t'.perform current (loadFrom l.configFile)).1
      = (t.perform current (loadFrom l.configFile)).1 := by
  have hRead : t'.read (stepsFrom current l.configFile)
      = t.read (stepsFrom current l.configFile) := by
    rw [l.stepsFrom_configFile] at hThere ⊢
    exact h.read_eq hThere
  rw [loadFrom, perform_read, perform_read, hRead]
  cases t.read (stepsFrom current l.configFile) <;> rfl

/-- **A file that is there is loaded as it stands.** -/
theorem loadOrInit_of_contains {t : FileTree}
    (h : t.contains (stepsFrom current l.configFile) = true) :
    t.perform current (loadOrInit l) = t.perform current (loadFrom l.configFile) := by
  have hThere := h
  rw [l.stepsFrom_configFile, contains_concat_iff] at hThere
  rw [loadOrInit, perform_makeDirectories_ok (makeDirectories_of_isPaved hThere.1), perform_seek, h]
  rfl

theorem perform_writeNew {t : FileTree} (hPaved : t.IsPaved (stepsFrom current l.configDirectory))
    (text : String) :
    t.perform current (writeNew l text) = t.perform current (.write l.configFile [] fun
      | .error fault => .done (.error (.unwritable fault))
      | .ok () => .write l.configFile (Bytes.ofText text) fun
        | .error fault => .done (.error (.unwritable fault))
        | .ok () => .done (.ok .default)) :=
  perform_makeDirectories_ok (makeDirectories_of_isPaved hPaved) _

/-- The default is written in a directory that stands, and where nothing does. -/
theorem writeNew_cases {t : FileTree} (hPaved : t.IsPaved (stepsFrom current l.configDirectory))
    (hNone : t.find? (l.configPlace current) = none) (text : String) :
    let run := t.perform current (writeNew l text)
    ((l.configPlace current).dropLast ∉ t.locked → run.1 = .ok default ∧ t.Extends run.2 ∧
      run.2.find? (l.configPlace current) = some (.file (Bytes.ofText text))) ∧
    ((l.configPlace current).dropLast ∈ t.locked → run.2 = t) := by
  intro run
  have hRun : run = _ := perform_writeNew l current hPaved text
  obtain ⟨hDenied, hMade, -⟩ := write_configFile hPaved []
  constructor
  · intro hFree
    set t₁ := t.put (l.configPlace current) (.file [])
    have hMore : t.Extends t₁ := .put hNone _
    -- the file is opened empty, and then the text is written over it
    have hThere : t₁.find? (l.configPlace current) = some (.file []) := by
      rw [find?_put_eq t (by simp [hNone]), if_pos rfl]
    obtain ⟨-, -, hAgain⟩ := write_configFile (hMore.isPaved hPaved) (Bytes.ofText text)
    have hEnd : run = (t₁.put (l.configPlace current) (.file (Bytes.ofText text))).perform current
        (.done (.ok .default)) :=
      hRun.trans ((perform_write_ok (hMade hNone hFree) _).trans
        (perform_write_ok (hAgain [] hThere) _))
    rw [hEnd]
    refine ⟨rfl, fun p e he => ?_, (find?_put_eq t₁ (by simp [hThere]) _ _).trans (if_pos rfl)⟩
    -- the file is the only place that changes, and nothing stood there
    have hOther : p ≠ l.configPlace current := by
      rintro rfl
      rw [hNone] at he
      contradiction
    exact (find?_put_of_ne t₁ hOther _).trans (hMore p e he)
  · intro hLocked
    exact congrArg Prod.snd (hRun.trans (perform_write_error (hDenied hNone hLocked) _))

/-- How a configuration is loaded or made: its directory cannot be made, or the file is there as
soon as its directory is, or it is written anew. -/
theorem loadOrInit_cases (t : FileTree) :
    let run := t.perform current (loadOrInit l)
    let place := l.configPlace current
    (¬ t.CanMake (stepsFrom current l.configDirectory) ∧ run.2 = t) ∨
    ∃ t₁, t.CanMake (stepsFrom current l.configDirectory) ∧
      Paves (stepsFrom current l.configDirectory) t t₁ ∧
      ((t₁.find? place ≠ none ∧ run.2 = t₁) ∨
        ∃ text, default.dump = .ok text ∧ t₁.find? place = none ∧
          run = t₁.perform current (writeNew l text)) := by
  intro run place
  rcases t.makeDirectories_cases (stepsFrom current l.configDirectory) with
    ⟨hMake, t₁, hMade, hPaves⟩ | ⟨hNoMake, e, hError⟩
  · refine .inr ⟨t₁, hMake, hPaves, ?_⟩
    -- whether a file is there is asked of the tree with the directory
    have hSeek : t₁.contains (stepsFrom current l.configFile) = (t₁.find? place).isSome :=
      contains_configFile hPaves.paved
    obtain ⟨text, hDump, -⟩ := exists_defaultText
    have hRun : run = t₁.perform current (if (t₁.find? place).isSome then loadFrom l.configFile
        else writeNew l text) := by
      simp only [run, loadOrInit]
      rw [perform_makeDirectories_ok hMade, perform_seek, hSeek, hDump]
    cases hStands : t₁.find? place with
    | some e =>
      rw [hStands] at hRun
      refine .inl ⟨by simp, ?_⟩
      rw [hRun, Option.isSome_some, if_pos rfl, tree_loadFrom]
    | none =>
      rw [hStands] at hRun
      exact .inr ⟨text, hDump, rfl, hRun⟩
  · refine .inl ⟨hNoMake, ?_⟩
    simp only [run, loadOrInit]
    rw [perform_makeDirectories_error hError]
    rfl

theorem extends_loadOrInit (t : FileTree) :
    t.Extends (t.perform current (loadOrInit l)).2 := by
  rcases loadOrInit_cases l current t with
    ⟨-, hKept⟩ | ⟨t₁, hMake, hPaves, ⟨-, hKept⟩ | ⟨text, -, hNone, hRun⟩⟩
  · rw [hKept]
    exact .refl t
  · rw [hKept]
    exact hPaves.extends hMake
  · obtain ⟨hWritten, hDenied⟩ := writeNew_cases l current hPaves.paved hNone text
    rw [hRun]
    -- a locked directory takes no file, but the directory was made
    by_cases hLocked : (l.configPlace current).dropLast ∈ t₁.locked
    · rw [hDenied hLocked]
      exact hPaves.extends hMake
    · exact (hPaves.extends hMake).trans (hWritten hLocked).2.1

/-- **A missing file is made if there is room for it**, and then it is the default that is loaded;
else nothing is made at its place. -/
theorem loadOrInit_of_absent (hOwn : l.configPlace current ∉ l.configWay current) {t : FileTree}
    (hNone : t.find? (l.configPlace current) = none) :
    let run := t.perform current (loadOrInit l)
    (t.HasRoom l current → run.1 = .ok default ∧
      ∃ content, run.2.find? (l.configPlace current) = some (.file content) ∧
        ∀ path, ofContent path content = .ok default) ∧
    (¬ t.HasRoom l current → run.2.find? (l.configPlace current) = none) := by
  intro run
  rcases loadOrInit_cases l current t with
    ⟨hNoMake, hKept⟩ | ⟨t₁, hMake, hPaves, ⟨hThere, -⟩ | ⟨text, hDump, hNone₁, hRun⟩⟩
  · refine ⟨fun hRoom => (hNoMake hRoom.1).elim, fun _ => ?_⟩
    rw [hKept, hNone]
  · rw [hPaves.find?_eq _ hOwn, hNone] at hThere
    exact (hThere rfl).elim
  · obtain ⟨hWritten, hDenied⟩ := writeNew_cases l current hPaves.paved hNone₁ text
    rw [← hRun, hPaves.locked_eq] at hWritten hDenied
    refine ⟨fun hRoom => ?_, fun hNoRoom => ?_⟩
    · -- the text that is written is that of the defaults, and is read as them
      obtain ⟨hLoaded, -, hPut⟩ := hWritten hRoom.2
      obtain ⟨text', hDump', hText⟩ := exists_defaultText
      obtain rfl : text = text' := Except.ok.inj (hDump.symm.trans hDump')
      exact ⟨hLoaded, _, hPut, hText⟩
    · -- the directory was made, so it must have been the lock
      have hLocked : (l.configPlace current).dropLast ∈ t.locked := by
        by_contra hFree
        exact hNoRoom ⟨hMake, hFree⟩
      rw [hDenied hLocked, hNone₁]

end Config

end ProxyAudit
