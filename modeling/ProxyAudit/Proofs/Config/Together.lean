import Mathlib
import ProxyAudit.Proofs.Config.Stages

/-!
# First runs at the same time

Several processes of a user may load the configuration at once when there is none yet. A process
that comes after another one has opened the file, and before that one has written it, finds the file
and reads it while it is empty, and fails. Nothing else can go wrong as long as no operation fails,
and none fails where there is room for the file.

Main results:

* `Standing.turn`        — what is known after a history is known after one more turn.
* `exists_after?`        — with room for the file, there is a history for each order of turns.
* `firstRuns_together`   — what becomes of first runs that are started together.
-/

namespace ProxyAudit.Config

open FilePath FileTree

variable (l : Locations) (current text : String)

-- ---------------------------------------------------------------------------
-- Histories
-- ---------------------------------------------------------------------------

/-- A process is about to read the file, which another one has opened and still has to write. -/
structure MeetsEmpty (c : Crowd (Except LoadError Config)) (i : Nat) : Prop where
  reads : c.tasks[i]? = some (loadFrom l.configFile)
  opened : ∃ j : Nat, c.tasks[j]? = some (Stage.writing.task l text)
  empty : c.tree.find? (l.configPlace current) = some (.file [])

/-- In the course of a history, a process reads the file while it is empty. -/
def ReadsEmpty (start : Crowd (Except LoadError Config)) (history : List Nat) (i : Nat) : Prop :=
  ∃ before later c, history = before ++ i :: later ∧ start.after? current before = some c ∧
    MeetsEmpty l current text c i

variable {l current text} {start c : Crowd (Except LoadError Config)} {past : List Nat} {i k : Nat}

theorem readsEmpty_concat_iff (h : start.after? current past = some c) :
    ReadsEmpty l current text start (past ++ [k]) i ↔
      ReadsEmpty l current text start past i ∨ (k = i ∧ MeetsEmpty l current text c i) := by
  constructor
  · rintro ⟨before, later, c', hSplit, hBefore, hMeets⟩
    obtain rfl | ⟨later, last, rfl⟩ := later.eq_nil_or_concat'
    · obtain ⟨rfl, hLast⟩ := List.append_inj' hSplit rfl
      cases h.symm.trans hBefore
      exact .inr ⟨List.singleton_inj.mp hLast, hMeets⟩
    · rw [← List.cons_append, ← List.append_assoc] at hSplit
      exact .inl ⟨before, later, c', (List.append_inj' hSplit rfl).1, hBefore, hMeets⟩
  · rintro (⟨before, later, c', rfl, hBefore, hMeets⟩ | ⟨rfl, hMeets⟩)
    · exact ⟨before, later ++ [k], c', by simp, hBefore, hMeets⟩
    · exact ⟨past, [], c, rfl, h, hMeets⟩

/-- How far the processes have come after a history, and what became of those that are done. -/
structure Standing (l : Locations) (current text : String) (start : Crowd (Except LoadError Config))
    (past : List Nat) (c : Crowd (Except LoadError Config)) (stages : List Stage) : Prop where
  tasks : c.tasks = stages.map (Stage.task l text)
  account : Account l current text c.tree stages
  due : ∀ (i : Nat) (s : Stage), stages[i]? = some s → s.rank ≤ 5 - past.count i
  result : ∀ (i : Nat) (r : Except LoadError Config),
    stages[i]? = some (.ended r) → r = .ok .default ∨ r = fromEmpty l
  missed : ∀ i : Nat,
    ReadsEmpty l current text start past i ↔ stages[i]? = some (.ended (fromEmpty l))

theorem Standing.meetsEmpty_iff {stages : List Stage}
    (h : Standing l current text start past c stages) :
    MeetsEmpty l current text c i ↔ stages[i]? = some .reading ∧
      c.tree.find? (l.configPlace current) = some (.file []) := by
  constructor
  · rintro ⟨hReads, -, hEmpty⟩
    rw [h.tasks, List.getElem?_map, Option.map_eq_some_iff] at hReads
    obtain ⟨s, hs, hTask⟩ := hReads
    exact ⟨Stage.eq_reading_of_task hTask ▸ hs, hEmpty⟩
  · rintro ⟨hReading, hEmpty⟩
    obtain ⟨j, hj⟩ := List.mem_iff_getElem?.mp (h.account.empty hEmpty)
    -- the one who has opened the file is somewhere among the others
    refine ⟨?_, ⟨j, ?_⟩, hEmpty⟩
    · rw [h.tasks, List.getElem?_map, hReading]
      rfl
    · rw [h.tasks, List.getElem?_map, hj]
      rfl

/-- A turn takes one process a stage further. -/
theorem Standing.goes {stages : List Stage} {c' : Crowd (Except LoadError Config)}
    (h : Standing l current text start past c stages) (hTurn : c.turn? current k = some c')
    (hDump : Config.default.dump = .ok text) :
    ∃ s s', stages[k]? = some s ∧ s.Goes l current text c.tree s' c'.tree ∧
      c'.tasks = (stages.set k s').map (Stage.task l text) := by
  obtain ⟨task, hTask, hFails, rfl⟩ := Crowd.turn?_eq_some_iff.mp hTurn
  rw [h.tasks, List.getElem?_map, Option.map_eq_some_iff] at hTask
  obtain ⟨s, hs, rfl⟩ := hTask
  obtain ⟨s', hStep, hGoes⟩ := Stage.goes_of_step hDump s hFails
  exact ⟨s, s', hs, hGoes, by rw [hStep, h.tasks, List.map_set]⟩

/-- **What is known after a history is known after one more turn.** -/
theorem Standing.turn {stages : List Stage} {c' : Crowd (Except LoadError Config)}
    (h : Standing l current text start past c stages) (hPast : start.after? current past = some c)
    (hTurn : c.turn? current k = some c') (hDump : Config.default.dump = .ok text)
    (hText : ofContent l.configFile (Bytes.ofText text) = .ok .default) :
    ∃ stages', Standing l current text start (past ++ [k]) c' stages' := by
  obtain ⟨s, s', hs, hGoes, hTasks⟩ := h.goes hTurn hDump
  have hLength : k < stages.length := (List.getElem?_eq_some_iff.mp hs).1
  -- the turn moves one of the stages, and leaves the others
  have hSame : (stages.set k s')[k]? = some s' := List.getElem?_set_self hLength
  have hOther {i : Nat} (hi : i ≠ k) : (stages.set k s')[i]? = stages[i]? :=
    List.getElem?_set_ne hi.symm
  have hMissed := h.account.missed_iff hs hGoes hText
  refine ⟨stages.set k s', hTasks, h.account.turn hs hGoes hText, ?_, ?_, ?_⟩
  · intro i r hr
    rw [List.count_append]
    -- the one who has the turn uses up one of what is due
    by_cases hi : i = k
    · obtain rfl := hi
      obtain rfl := Option.some.inj (hSame.symm.trans hr)
      have hDue := h.due i s hs
      have hLess := hGoes.rank_le
      simp only [List.count_singleton_self]
      omega
    · rw [hOther hi] at hr
      have hDue := h.due i r hr
      simpa [List.count_singleton, Ne.symm hi] using hDue
  · intro i r hr
    by_cases hi : i = k
    · obtain rfl := hi
      obtain rfl := Option.some.inj (hSame.symm.trans hr)
      -- its result comes now, or it had come before
      rcases h.account.result_cases hs hGoes hText with rfl | hEnd
      · exact h.result i r hs
      · exact hEnd
    · exact h.result i r (hOther hi ▸ hr)
  · intro i
    rw [readsEmpty_concat_iff hPast, h.meetsEmpty_iff, h.missed]
    by_cases hi : i = k
    · -- the gap opens for the one who reads while the file is empty
      obtain rfl := hi
      simp [hSame, hs, hMissed]
    · simp [hOther hi, Ne.symm hi]

-- ---------------------------------------------------------------------------
-- Room
-- ---------------------------------------------------------------------------

/-- There is room for the file, and no directory in its place. -/
structure Ready (l : Locations) (current : String) (t : FileTree) : Prop where
  room : t.HasRoom l current
  free : t.find? (l.configPlace current) ≠ some .directory

/-- No operation fails where there is room. -/
theorem Account.not_fails {t : FileTree} {stages : List Stage} {s : Stage}
    (h : Account l current text t stages) (hReady : Ready l current t) (hs : s ∈ stages) :
    (s.task l text).fails current t = false := by
  -- the directory can be made, whoever makes it
  have hMakes : (t.makeDirectories (stepsFrom current l.configDirectory)).toOption.isNone
      = false := by
    rcases t.makeDirectories_cases (stepsFrom current l.configDirectory) with
      ⟨-, t', hMade, -⟩ | ⟨hNoMake, -⟩
    · rw [hMade]
      rfl
    · exact (hNoMake hReady.room.1).elim
  -- once the directory is there, the file can be written, over an old one too
  have hWrites (hNe : s ≠ .placing) (content : Bytes) :
      (t.write (stepsFrom current l.configFile) content).toOption.isNone = false := by
    obtain ⟨-, hMade, hAgain⟩ := write_configFile (h.paved s hs hNe) content
    cases hStands : t.find? (l.configPlace current) with
    | none =>
      rw [hMade hStands hReady.room.2]
      rfl
    | some e =>
      cases e with
      | directory => exact (hReady.free hStands).elim
      | file before =>
        rw [hAgain before hStands]
        rfl
  cases s with
  | placing | making => exact hMakes
  | seeking | ended => rfl
  | opening | writing => exact hWrites (by simp) _
  | reading =>
    -- a reader has found the file, and nothing removes it
    cases hStands : t.find? (l.configPlace current) with
    | none => exact (h.found hs hStands).elim
    | some e =>
      cases e with
      | directory => exact (hReady.free hStands).elim
      | file content =>
        have hRead := (read_configFile (h.paved _ hs (by simp))).mpr hStands
        simp [Stage.task, loadFrom, FileTask.fails, hRead, Except.toOption]

/-- A turn leaves room. -/
theorem Ready.goes {t t' : FileTree} {s s' : Stage} (h : Ready l current t)
    (hOwn : l.configPlace current ∉ l.configWay current)
    (hPaved : s ≠ .placing → t.IsPaved (stepsFrom current l.configDirectory))
    (hGoes : s.Goes l current text t s' t') : Ready l current t' := by
  have hMade (hPaves : Paves (stepsFrom current l.configDirectory) t t') : Ready l current t' := by
    -- the directory is the way to the file, and not the file itself
    refine ⟨⟨hPaves.paved.canMake, hPaves.locked_eq ▸ h.room.2⟩, ?_⟩
    rw [hPaves.find?_eq _ hOwn]
    exact h.free
  have hWritten (hNe : s ≠ .placing) {content : Bytes}
      (hWrite : t.write (stepsFrom current l.configFile) content = .ok t') :
      Ready l current t' := by
    obtain ⟨hPaved', hLocked, hThere⟩ := configFile_of_write (hPaved hNe) hWrite
    exact ⟨⟨hPaved'.canMake, hLocked ▸ h.room.2⟩, by simp [hThere]⟩
  cases hGoes with
  | place _ hPaves | make _ hPaves => exact hMade hPaves
  | find | miss | read | rest => exact h
  | «open» hWrite | write hWrite => exact hWritten (by simp) hWrite

-- ---------------------------------------------------------------------------
-- First runs
-- ---------------------------------------------------------------------------

/-- Processes that load the configuration, before any of them has had a turn. -/
def firstRuns (l : Locations) (t : FileTree) (n : Nat) : Crowd (Except LoadError Config) :=
  ⟨t, List.replicate n (loadOrInit l)⟩

theorem standing_firstRuns {t : FileTree} (hNone : t.find? (l.configPlace current) = none)
    (n : Nat) : Standing l current text (firstRuns l t n) [] (firstRuns l t n)
      (List.replicate n .placing) where
  tasks := by simp [firstRuns, Stage.task]
  account := by
    constructor
    · intro s hs hNe
      exact (hNe (List.eq_of_mem_replicate hs)).elim
    · simp [firstRuns, hNone]
    · intro s hs hHas
      rw [List.eq_of_mem_replicate hs] at hHas
      exact hHas.elim
    · intro hReading
      have hPlacing := List.eq_of_mem_replicate hReading
      contradiction
    · simp [firstRuns, hNone]
  due i s hs := by
    rw [List.eq_of_mem_replicate (List.mem_of_getElem? hs)]
    simp [Stage.rank]
  result i r hr := by
    have hPlacing := List.eq_of_mem_replicate (List.mem_of_getElem? hr)
    contradiction
  missed i := by
    constructor
    · rintro ⟨before, later, c, hSplit, -⟩
      simp at hSplit
    · intro hEnd
      have hPlacing := List.eq_of_mem_replicate (List.mem_of_getElem? hEnd)
      contradiction

theorem exists_standing {t : FileTree} {n : Nat} {history : List Nat}
    (hNone : t.find? (l.configPlace current) = none)
    (hHistory : (firstRuns l t n).after? current history = some c)
    (hDump : Config.default.dump = .ok text)
    (hText : ofContent l.configFile (Bytes.ofText text) = .ok .default) :
    ∃ stages, Standing l current text (firstRuns l t n) history c stages := by
  refine Crowd.history_induction
    (P := fun past c => ∃ stages, Standing l current text (firstRuns l t n) past c stages)
    hHistory ⟨_, standing_firstRuns hNone n⟩ ?_
  rintro past k before after hPast ⟨stages, h⟩ hTurn
  exact h.turn hPast hTurn hDump hText

/-- Processes can be started and have their turns in any order where there is room for the file. -/
theorem exists_after? {t : FileTree} {n : Nat} {history : List Nat}
    (hOwn : l.configPlace current ∉ l.configWay current) (hRoom : t.HasRoom l current)
    (hNone : t.find? (l.configPlace current) = none) (hHistory : ∀ i ∈ history, i < n) :
    ∃ c, (firstRuns l t n).after? current history = some c := by
  -- nobody has failed so far, and then the next turn does not fail either
  obtain ⟨text, hDump, hText⟩ := exists_defaultText
  suffices h : ∃ c, (firstRuns l t n).after? current history = some c ∧ Ready l current c.tree from
    h.imp fun _ => And.left
  induction history using List.reverseRecOn with
  | nil => exact ⟨_, rfl, hRoom, by simp [firstRuns, hNone]⟩
  | append_singleton past k ih =>
    obtain ⟨c, hPast, hReady⟩ := ih fun i hi => hHistory i (List.mem_append_left _ hi)
    obtain ⟨stages, h⟩ := exists_standing hNone hPast hDump (hText _)
    have hk : k < c.tasks.length := by
      rw [Crowd.length_after? hPast, firstRuns, List.length_replicate]
      exact hHistory k (by simp)
    obtain ⟨task, hTask⟩ : ∃ task, c.tasks[k]? = some task := ⟨_, List.getElem?_eq_getElem hk⟩
    have hFails : task.fails current c.tree = false := by
      have hMem := List.mem_of_getElem? hTask
      rw [h.tasks] at hMem
      obtain ⟨s, hs, rfl⟩ := List.mem_map.mp hMem
      exact h.account.not_fails hReady hs
    obtain ⟨c', hTurn⟩ : ∃ c', c.turn? current k = some c' :=
      ⟨_, Crowd.turn?_eq_some_iff.mpr ⟨_, hTask, hFails, rfl⟩⟩
    obtain ⟨s, s', hs, hGoes, -⟩ := h.goes hTurn hDump
    refine ⟨c', ?_, hReady.goes hOwn (h.account.paved s (List.mem_of_getElem? hs)) hGoes⟩
    rw [Crowd.after?_append, hPast]
    simp [Crowd.after?, hTurn]

/-- **First runs that are started together.** Each gets the default, unless it reads the file while
another one has opened it and not yet written it, and then it misses the target. Each is done after
five turns at most, and when all are done the file holds the default. -/
theorem firstRuns_together {t : FileTree} {n : Nat} {history : List Nat}
    (hNone : t.find? (l.configPlace current) = none)
    (hHistory : (firstRuns l t n).after? current history = some c) :
    ∃ text, Config.default.dump = .ok text ∧
      (∀ (i : Nat) result, c.tasks[i]? = some (.done result) →
        (result = .ok .default ∧ ¬ ReadsEmpty l current text (firstRuns l t n) history i) ∨
        (result = fromEmpty l ∧ ReadsEmpty l current text (firstRuns l t n) history i)) ∧
      (∀ i < n, 5 ≤ history.count i → ∃ result, c.tasks[i]? = some (.done result)) ∧
      (0 < n → (∀ task ∈ c.tasks, ∃ result, task = .done result) →
        c.tree.find? (l.configPlace current) = some (.file (Bytes.ofText text))) := by
  obtain ⟨text, hDump, hText⟩ := exists_defaultText
  obtain ⟨stages, h⟩ := exists_standing hNone hHistory hDump (hText _)
  have hTask {i : Nat} {s : Stage} (hs : stages[i]? = some s) :
      c.tasks[i]? = some (s.task l text) := by
    rw [h.tasks, List.getElem?_map, hs]
    rfl
  have hEnded {i : Nat} {r : Except LoadError Config} (hDone : c.tasks[i]? = some (.done r)) :
      stages[i]? = some (.ended r) := by
    rw [h.tasks, List.getElem?_map, Option.map_eq_some_iff] at hDone
    obtain ⟨s, hs, hDone⟩ := hDone
    exact Stage.eq_ended_of_task hDone ▸ hs
  have hStage {i : Nat} (hi : i < n) : ∃ s, stages[i]? = some s := by
    have hLength := Crowd.length_after? hHistory
    rw [h.tasks, List.length_map, firstRuns, List.length_replicate] at hLength
    exact ⟨_, List.getElem?_eq_getElem (hLength ▸ hi)⟩
  refine ⟨text, hDump, fun i result hDone => ?_, fun i hi hTurns => ?_, fun hSome hAll => ?_⟩
  · have hEnd := hEnded hDone
    rw [h.missed]
    rcases h.result i result hEnd with rfl | rfl
    · exact .inl ⟨rfl, by simp [hEnd, fromEmpty]⟩
    · exact .inr ⟨rfl, hEnd⟩
  · obtain ⟨s, hs⟩ := hStage hi
    have hDue := h.due i s hs
    obtain ⟨r, rfl⟩ := Stage.exists_ended_of_rank (s := s) (by omega)
    exact ⟨r, hTask hs⟩
  · obtain ⟨s, hs⟩ := hStage hSome
    obtain ⟨r, hDone⟩ := hAll _ (List.mem_of_getElem? (hTask hs))
    obtain rfl := Stage.eq_ended_of_task hDone
    obtain ⟨content, hThere⟩ := h.account.there _ (List.mem_of_getElem? hs) trivial
    rcases h.account.content content hThere with rfl | rfl
    · -- a file that is empty is still to be written
      obtain ⟨j, hj⟩ := List.mem_iff_getElem?.mp (h.account.empty hThere)
      obtain ⟨r, hDone⟩ := hAll _ (List.mem_of_getElem? (hTask hj))
      have hSame := Stage.eq_ended_of_task hDone
      contradiction
    · exact hThere

/-- Two processes that both find no file both write it. -/
theorem firstRuns_together_two : ∃ c text,
    FileTree.empty.find? ((⟨"/h", none, none⟩ : Locations).configPlace "/") = none ∧
    (firstRuns ⟨"/h", none, none⟩ .empty 2).after? "/" [0, 0, 1, 1, 0, 0, 0, 1, 1, 1] = some c ∧
    Config.default.dump = .ok text ∧ (∀ i < 2, ∃ result, c.tasks[i]? = some (.done result)) ∧
    c.tree.find? ["h", ".config", "fetchcheck", "config.toml"]
      = some (.file (Bytes.ofText text)) := by
  have hNone : FileTree.empty.find? ((⟨"/h", none, none⟩ : Locations).configPlace "/") = none := by
    decide +kernel
  have hPlace : (⟨"/h", none, none⟩ : Locations).configPlace "/"
      = ["h", ".config", "fetchcheck", "config.toml"] := by
    decide +kernel
  obtain ⟨c, hHistory⟩ : ∃ c, (firstRuns ⟨"/h", none, none⟩ .empty 2).after? "/"
      [0, 0, 1, 1, 0, 0, 0, 1, 1, 1] = some c :=
    exists_after? (by decide +kernel) (by decide +kernel) hNone (by decide)
  obtain ⟨text, hDump, -, hTurns, hFile⟩ := firstRuns_together hNone hHistory
  have hDone : ∀ i < 2, ∃ result, c.tasks[i]? = some (.done result) := by
    intro i hi
    refine hTurns i hi ?_
    interval_cases i <;> decide
  refine ⟨c, text, hNone, hHistory, hDump, hDone, hPlace ▸ hFile (by decide) fun task hTask => ?_⟩
  obtain ⟨i, hi⟩ := List.mem_iff_getElem?.mp hTask
  have hLength : i < c.tasks.length := (List.getElem?_eq_some_iff.mp hi).1
  rw [Crowd.length_after? hHistory] at hLength
  obtain ⟨result, hResult⟩ := hDone i hLength
  exact ⟨result, Option.some.inj (hi.symm.trans hResult)⟩

/-- Two processes start together where there is no file. One has opened it when the other one comes
to look for it, and so the other one gets no configuration. -/
theorem exists_firstRun_without_config : ∃ c,
    FileTree.empty.find? ((⟨"/h", none, none⟩ : Locations).configPlace "/") = none ∧
    (firstRuns ⟨"/h", none, none⟩ .empty 2).after? "/" [0, 0, 0, 0, 1, 1, 1, 0] = some c ∧
    c.tasks.map (fun task => task.result?.map Except.toOption)
      = [some (some Config.default), some none] := by
  have hRun : ((firstRuns ⟨"/h", none, none⟩ .empty 2).after? "/" [0, 0, 0, 0, 1, 1, 1, 0]).map
      (fun c => c.tasks.map fun task => task.result?.map Except.toOption)
        = some [some (some Config.default), some none] := by
    decide +kernel
  obtain ⟨c, hHistory, hResults⟩ := Option.map_eq_some_iff.mp hRun
  exact ⟨c, by decide +kernel, hHistory, hResults⟩

end ProxyAudit.Config
