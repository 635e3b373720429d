import Mathlib
import ProxyAudit.Proofs.Session.Trees

/-!
# The life of the configuration file

The program is used again and again, and in between its user may do anything to the files. A use
never changes a configuration file that is there. It makes one only where none is, if its arguments
ask for the configuration of the user and there is room for the file, and what it makes is the
default, which is also what it goes by itself.

All of this presupposes that the directories of the configuration and of the log are apart. A path
may lead through the very place of the configuration file and back, and then a directory is made
there.

Main results:

* `deals`            — how a single use deals with the configuration file.
* `find?_afterAll_of_some`, `find?_afterAll_of_none`  — the file from one edit to the next.
* `configFile_life`  — the configuration file through any history.
-/

namespace ProxyAudit.Session

open FilePath FileTree

-- ---------------------------------------------------------------------------
-- Uses
-- ---------------------------------------------------------------------------

/-- One use of the program. -/
structure Use where
  Far : Type
  surroundings : Surroundings Far
  locations : Locations
  far : Far
  args : List String

namespace Use

variable (u : Use) (t : FileTree)

/-- The world in which a use begins. -/
def start : World u.Far :=
  .fresh u.far t

/-- The tree after a use. -/
def after : FileTree :=
  ((runIn u.surroundings.platform u.locations u.args).run (u.start t)).2.tree

/-- The path of the configuration file. -/
def path : List String :=
  stepsFrom u.surroundings.current u.locations.configFile

/-- The place of the configuration file. -/
def place : List String :=
  u.locations.configPlace u.surroundings.current

/-- The directories of the configuration and of the log are apart. -/
def IsApart : Prop :=
  u.locations.Apart u.surroundings.current

/-- The arguments give a command that loads a configuration, and do not say from where. -/
def Asks (command : Command) : Prop :=
  CommandLine.parse u.args = .ok ⟨none, command⟩ ∧ command.gate?.isSome

/-- The configuration file is asked for, and there is room for it. -/
def CanMake : Prop :=
  (∃ command, u.Asks command) ∧ t.HasRoom u.locations u.surroundings.current

/-- A file whose content is the default configuration stands at the place. -/
def HoldsDefault : Prop :=
  ∃ content, t.find? u.place = some (.file content) ∧
    ∀ path, Config.ofContent path content = .ok .default

/-- How a use deals with the configuration file in a tree. -/
structure Deals : Prop where
  /-- What stands at the place stays as it is. -/
  stays : ∀ e, t.find? u.place = some e → (u.after t).find? u.place = some e
  /-- A file that is there is loaded as it stands. -/
  loaded : t.contains u.path = true →
    t.perform u.surroundings.current (Config.loadOrInit u.locations)
      = t.perform u.surroundings.current (Config.loadFrom u.locations.configFile) ∧
    ((loading u.surroundings u.locations none).run (u.start t)).1
      = (t.perform u.surroundings.current (Config.loadFrom u.locations.configFile)).1
  /-- The file is made exactly if it is missing and can be made. -/
  made_iff : u.IsApart → t.find? u.place = none →
    ((u.after t).find? u.place ≠ none ↔ u.CanMake t)
  /-- What is made is the default, by which the command is then carried out. -/
  made : u.IsApart → t.find? u.place = none → u.CanMake t → u.HoldsDefault (u.after t) ∧
    ∀ command, u.Asks command →
      (runIn u.surroundings.platform u.locations u.args).run (u.start t)
        = (obey u.surroundings (command.override .default) command >>= settle u.surroundings).run
            ((loading u.surroundings u.locations none).run (u.start t)).2

-- ---------------------------------------------------------------------------
-- A single use
-- ---------------------------------------------------------------------------

/-- The tree in which the log has been opened. -/
def opened : FileTree :=
  (t.perform u.surroundings.current (logTask u.locations)).2

variable {u} {t}

theorem after_of_asks {command : Command} (h : u.Asks command) :
    u.after t
      = ((u.opened t).perform u.surroundings.current (Config.loadOrInit u.locations)).2 := by
  obtain ⟨gate, hGate⟩ := Option.isSome_iff_exists.mp h.2
  rw [after, tree_of_gate u.surroundings u.locations (u.start t) h.1 hGate]
  exact (run_loading u.surroundings u.locations (u.start t) none).2

theorem after_of_not_asks (h : ∀ command, ¬ u.Asks command) : u.after t = u.opened t := by
  by_cases hGated : ∃ i gate, CommandLine.parse u.args = .ok i ∧ i.command.gate? = some gate
  · obtain ⟨⟨path, command⟩, gate, hParse, hGate⟩ := hGated
    cases path with
    | none => exact (h command ⟨hParse, Option.isSome_iff_exists.mpr ⟨gate, hGate⟩⟩).elim
    | some path =>
      -- a file that is named is read, and reading changes nothing
      rw [after, tree_of_gate u.surroundings u.locations (u.start t) hParse hGate,
        (run_loading u.surroundings u.locations (u.start t) (some path)).2]
      exact Config.tree_loadFrom _ _ path
  · -- what asks for no file ends after the log
    refine tree_of_noGate u.surroundings u.locations (u.start t) fun i hParse => ?_
    by_contra hGate
    obtain ⟨gate, hSome⟩ := Option.ne_none_iff_exists'.mp hGate
    exact hGated ⟨i, gate, hParse, hSome⟩

/-- A use takes nothing away, and writes over nothing. -/
theorem extends_after (u : Use) (t : FileTree) : t.Extends (u.after t) := by
  have hOpened : t.Extends (u.opened t) := extends_logTask u.locations u.surroundings.current t
  by_cases hAsks : ∃ command, u.Asks command
  · obtain ⟨command, hAsks⟩ := hAsks
    rw [after_of_asks hAsks]
    exact hOpened.trans (Config.extends_loadOrInit _ _ _)
  · rw [after_of_not_asks fun command h => hAsks ⟨command, h⟩]
    exact hOpened

/-- Opening the log leaves a free place free, and leaves room as it is. -/
theorem opened_of_none (hApart : u.IsApart) (hNone : t.find? u.place = none) :
    (u.opened t).find? u.place = none ∧
      ((u.opened t).HasRoom u.locations u.surroundings.current ↔
        t.HasRoom u.locations u.surroundings.current) := by
  obtain ⟨-, -, hFind⟩ := perform_logTask u.locations u.surroundings.current t
  refine ⟨?_, hasRoom_logTask _ _ hApart.log_config t⟩
  exact (hFind _ (u.locations.configPlace_ne_logPlace _) hApart.config_log).trans hNone

/-- A missing file that can be made is made, and it is what the use goes by. -/
theorem after_of_canMake (hApart : u.IsApart) (hNone : t.find? u.place = none)
    (hCan : u.CanMake t) : u.HoldsDefault (u.after t) ∧
      ((loading u.surroundings u.locations none).run (u.start t)).1 = .ok .default := by
  obtain ⟨⟨command, hAsks⟩, hRoom⟩ := hCan
  obtain ⟨hFree, hSame⟩ := opened_of_none hApart hNone
  obtain ⟨hLoaded, hMade⟩ :=
    (Config.loadOrInit_of_absent _ _ hApart.config_own hFree).1 (hSame.mpr hRoom)
  refine ⟨?_, (run_loading u.surroundings u.locations (u.start t) none).1.trans hLoaded⟩
  rw [HoldsDefault, after_of_asks hAsks]
  exact hMade

/-- A missing file that cannot be made is still missing afterwards. -/
theorem after_of_not_canMake (hApart : u.IsApart) (hNone : t.find? u.place = none)
    (hCannot : ¬ u.CanMake t) : (u.after t).find? u.place = none := by
  obtain ⟨hFree, hSame⟩ := opened_of_none hApart hNone
  by_cases hAsks : ∃ command, u.Asks command
  · have hNoRoom := fun hRoom => hCannot ⟨hAsks, hSame.mp hRoom⟩
    obtain ⟨command, hAsks⟩ := hAsks
    rw [after_of_asks hAsks]
    exact (Config.loadOrInit_of_absent _ _ hApart.config_own hFree).2 hNoRoom
  · rw [after_of_not_asks fun command h => hAsks ⟨command, h⟩]
    exact hFree

/-- A use loads a file that is there as it stands before its log is opened. -/
theorem loading_of_contains (hThere : t.contains u.path = true) :
    ((loading u.surroundings u.locations none).run (u.start t)).1
      = (t.perform u.surroundings.current (Config.loadFrom u.locations.configFile)).1 := by
  have hOpened : t.Extends (u.opened t) := extends_logTask u.locations u.surroundings.current t
  have hStill : (u.opened t).contains u.path = true := by
    rw [path, Locations.stepsFrom_configFile] at hThere ⊢
    exact hOpened.contains hThere
  have hLoaded := (run_loading u.surroundings u.locations (u.start t) none).1
  rw [hLoaded]
  change ((u.opened t).perform u.surroundings.current (Config.loadOrInit u.locations)).1 = _
  rw [Config.loadOrInit_of_contains _ _ hStill, Config.loadFrom_extends _ _ hOpened hThere]

/-- **How a single use deals with the configuration file.** -/
theorem deals (u : Use) (t : FileTree) : u.Deals t where
  stays := u.extends_after t u.place
  loaded hThere := ⟨Config.loadOrInit_of_contains _ _ hThere, loading_of_contains hThere⟩
  made_iff hApart hNone := by
    constructor
    · intro hThere
      -- without room the session leaves nothing at the place of the file
      by_contra hCannot
      exact hThere (after_of_not_canMake hApart hNone hCannot)
    · intro hCan
      obtain ⟨⟨content, hFile, -⟩, -⟩ := after_of_canMake hApart hNone hCan
      simp [hFile]
  made hApart hNone hCan := by
    obtain ⟨hHolds, hLoaded⟩ := after_of_canMake hApart hNone hCan
    refine ⟨hHolds, fun command hAsks => ?_⟩
    obtain ⟨gate, hGate⟩ := Option.isSome_iff_exists.mp hAsks.2
    exact run_of_loaded u.surroundings u.locations (u.start t) hAsks.1 hGate hLoaded

end Use

-- ---------------------------------------------------------------------------
-- Histories
-- ---------------------------------------------------------------------------

/-- What happens to files: the program is used, or the user does something to them. -/
inductive Happening where
  | used (u : Use)
  | edited (change : FileTree → FileTree)

namespace Happening

/-- The tree after something has happened. -/
def after (t : FileTree) : Happening → FileTree
  | used u => u.after t
  | edited change => change t

/-- A use with its configuration at a place, or an edit that leaves that place as it is. -/
def IsAt (place : List String) : Happening → Prop
  | used u => u.place = place
  | edited change => ∀ t, (change t).find? place = t.find? place

/-- If it is a use, its directories are apart. -/
def IsApart : Happening → Prop
  | used u => u.IsApart
  | edited _ => True

end Happening

/-- The tree after a history. -/
def afterAll (t : FileTree) (history : List Happening) : FileTree :=
  history.foldl Happening.after t

variable {history : List Happening} {t : FileTree} {place : List String}

theorem afterAll_cons (t : FileTree) (x : Happening) (history : List Happening) :
    afterAll t (x :: history) = afterAll (x.after t) history :=
  rfl

/-- **Between edits of it, a file that is there stays as it is.** -/
theorem find?_afterAll_of_some (hAt : ∀ x ∈ history, x.IsAt place) {e : Entry}
    (h : t.find? place = some e) : (afterAll t history).find? place = some e := by
  induction history generalizing t with
  | nil => exact h
  | cons x history ih =>
    obtain ⟨hFirst, hLater⟩ := List.forall_mem_cons.mp hAt
    refine ih hLater ?_
    cases x with
    | used u =>
      obtain rfl : u.place = place := hFirst
      exact (u.deals t).stays e h
    | edited change => exact (hFirst t).trans h

/-- **Between edits of it, a missing file stays missing until a use can make it**, and then holds
the default to the end. -/
theorem find?_afterAll_of_none (hAt : ∀ x ∈ history, x.IsAt place)
    (hApart : ∀ x ∈ history, x.IsApart) (h : t.find? place = none) :
    ((afterAll t history).find? place = none ∧
      ∀ before u later, history = before ++ .used u :: later → ¬ u.CanMake (afterAll t before)) ∨
    ∃ before u later, history = before ++ .used u :: later ∧
      (afterAll t before).find? place = none ∧ u.CanMake (afterAll t before) ∧
      u.HoldsDefault (afterAll t history) := by
  induction history generalizing t with
  | nil => exact .inl ⟨h, fun before u later hSplit => by simp at hSplit⟩
  | cons x history ih =>
    obtain ⟨hFirst, hLater⟩ := List.forall_mem_cons.mp hAt
    obtain ⟨hFirstApart, hLaterApart⟩ := List.forall_mem_cons.mp hApart
    by_cases hMakes : ∃ u, x = .used u ∧ u.CanMake t
    · -- the file is made now, and stays
      obtain ⟨u, rfl, hCan⟩ := hMakes
      obtain rfl : u.place = place := hFirst
      obtain ⟨content, hFile, hDefault⟩ := ((u.deals t).made hFirstApart h hCan).1
      have hStays := find?_afterAll_of_some hLater hFile
      exact .inr ⟨[], u, history, rfl, h, hCan, content, hStays, hDefault⟩
    · -- the file is still missing
      have hNone : (x.after t).find? place = none := by
        cases x with
        | used u =>
          obtain rfl : u.place = place := hFirst
          exact Use.after_of_not_canMake hFirstApart h fun hCan => hMakes ⟨u, rfl, hCan⟩
        | edited change => exact (hFirst t).trans h
      rcases ih hLater hLaterApart hNone with ⟨hEnd, hNever⟩ |
        ⟨before, u, later, rfl, hBefore, hCan, hHolds⟩
      · refine .inl ⟨hEnd, fun before u later hSplit => ?_⟩
        cases before with
        | nil =>
          obtain ⟨rfl, rfl⟩ := List.cons.inj hSplit
          exact fun hCan => hMakes ⟨u, rfl, hCan⟩
        | cons y before =>
          obtain ⟨rfl, hRest⟩ := List.cons.inj hSplit
          exact hNever before u later hRest
      · exact .inr ⟨x :: before, u, later, rfl, hBefore, hCan, hHolds⟩

/--
**The life of the configuration file.** Through any history of uses and edits:

* each use, in the tree that it finds, leaves what stands at the place of its configuration file as
  it is, and loads a file that is there as it stands. If its directories are apart, it makes a
  missing file exactly if its arguments ask for the configuration of the user and there is room for
  the file. What it makes is the default, and that is also what it goes by;
* from one edit of the place to the next, what stands there stays. If nothing does and all
  directories are apart, the place stays free as long as no use can make the file. The first use
  that can does so, and then the file holds the default to the end.
-/
theorem configFile_life (t : FileTree) (history : List Happening) :
    (∀ before u later, history = before ++ .used u :: later → u.Deals (afterAll t before)) ∧
    ∀ place, (∀ x ∈ history, x.IsAt place) →
      (∀ e, t.find? place = some e → (afterAll t history).find? place = some e) ∧
      ((∀ x ∈ history, x.IsApart) → t.find? place = none →
        ((afterAll t history).find? place = none ∧
          ∀ before u later, history = before ++ .used u :: later →
            ¬ u.CanMake (afterAll t before)) ∨
        ∃ before u later, history = before ++ .used u :: later ∧
          (afterAll t before).find? place = none ∧ u.CanMake (afterAll t before) ∧
          u.HoldsDefault (afterAll t history)) := by
  refine ⟨fun before u later _ => u.deals _, fun place hAt => ⟨fun e h => ?_, fun hApart h => ?_⟩⟩
  · exact find?_afterAll_of_some hAt h
  · exact find?_afterAll_of_none hAt hApart h

/-- A fetch by a proxy of one blank is turned away, but makes the file; what the user then makes of
the file stays. -/
theorem configFile_life_of_edit :
    let s := Surroundings.unreachable true (fun _ => none) "/"
    let u : Use := ⟨Unit, s, ⟨"/root", none, none⟩, (), ["fetch", "--proxy", " "]⟩
    let broken : Entry := .file (Bytes.ofText "proxy = [")
    u.HoldsDefault (afterAll .empty [.used u]) ∧
      (afterAll .empty [.used u, .edited (·.put u.place broken), .used u]).find? u.place
        = some broken := by
  intro s u broken
  have hAsks : u.Asks (.fetch none (some " ")) := by
    refine ⟨?_, rfl⟩
    decide +kernel
  have hRoom : FileTree.empty.HasRoom u.locations u.surroundings.current := by decide +kernel
  have hApart : u.IsApart := by
    unfold Use.IsApart
    decide +kernel
  have hNone : FileTree.empty.find? u.place = none := by decide +kernel
  have hPlace : u.place ≠ [] := by decide +kernel
  clear_value u
  have hAt : ∀ x ∈ [Happening.used u], x.IsAt u.place := by simp [Happening.IsAt]
  have hAllApart : ∀ x ∈ [Happening.used u], x.IsApart := by
    simpa [Happening.IsApart] using hApart
  constructor
  · -- the only session makes the file, since there is room for it
    rcases ((configFile_life .empty [.used u]).2 u.place hAt).2 hAllApart hNone with
      ⟨-, hNever⟩ | ⟨before, v, later, hSplit, -, -, hHolds⟩
    · exact (hNever [] u [] rfl ⟨⟨_, hAsks⟩, hRoom⟩).elim
    · obtain rfl : u = v := by
        cases before with
        | nil => exact Happening.used.inj (List.cons.inj hSplit).1
        | cons y before => simp at hSplit
      exact hHolds
  · -- the edit comes after that, and no later session undoes it
    rw [afterAll_cons, afterAll_cons]
    exact ((configFile_life _ [.used u]).2 u.place hAt).1 broken (find?_put _ hPlace broken)

/-- The path of a directory may lead through the place of the configuration file. Then a directory
is made there, though the file is missing and could be made, and the log is kept elsewhere. -/
theorem not_holdsDefault_of_detour :
    let s := Surroundings.unreachable true (fun _ => none) "/"
    let l : Locations := ⟨"/root", some "/c/fetchcheck/config.toml/../..", none⟩
    let u : Use := ⟨Unit, s, l, (), ["fetch", "--proxy", " "]⟩
    l.AreSeparate "/" ∧ FileTree.empty.find? u.place = none ∧ u.CanMake .empty ∧
      (u.after .empty).find? u.place = some .directory ∧ ¬ u.HoldsDefault (u.after .empty) := by
  intro s l u
  have hAsks : u.Asks (.fetch none (some " ")) := by
    refine ⟨?_, rfl⟩
    decide +kernel
  have hRoom : FileTree.empty.HasRoom l "/" := by decide +kernel
  have hNone : FileTree.empty.find? u.place = none := by decide +kernel
  have hDirectory : (u.after .empty).find? u.place = some .directory := by decide +kernel
  refine ⟨by decide +kernel, hNone, ⟨⟨_, hAsks⟩, hRoom⟩, hDirectory, ?_⟩
  rintro ⟨content, hFile, -⟩
  rw [hDirectory] at hFile
  cases hFile

end ProxyAudit.Session
