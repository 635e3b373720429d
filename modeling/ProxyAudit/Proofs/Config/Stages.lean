import Mathlib
import ProxyAudit.Proofs.Config.FirstRun
import ProxyAudit.Proofs.Files.Turns

/-!
# Stages of a first run

A process that loads the configuration of a user goes through a few stages, one in each of its
turns. It makes the directory and looks whether the file is there. If it is, the process reads it.
If not, the process makes the file: it opens it, which leaves it empty, and then writes the default
into it. Other processes may have turns in between.

Main results:

* `goes_of_step`        — what a process does in a turn.
* `Account.turn`        — what is known of the file, whichever process has its turn.
* `Account.missed_iff`  — only a process that reads the file while it is empty misses the target.
-/

namespace ProxyAudit.Config

open FilePath FileTree

variable (l : Locations) (current text : String)

-- ---------------------------------------------------------------------------
-- Stages
-- ---------------------------------------------------------------------------

/-- How far a process has come. -/
inductive Stage where
  /-- It makes the directory of the configuration. -/
  | placing
  | seeking
  | reading
  /-- It makes the directory once more. -/
  | making
  /-- It opens the file, which leaves it empty. -/
  | opening
  | writing
  | ended (result : Except LoadError Config)

namespace Stage

/-- What a process still does at its stage. -/
def task : Stage → FileTask (Except LoadError Config)
  | placing => loadOrInit l
  | seeking =>
    .seek l.configFile fun isThere =>
      if isThere then loadFrom l.configFile
      else
        match Config.default.dump with
        | .error fault => .done (.error (.undumpable fault))
        | .ok text => writeNew l text
  | reading => loadFrom l.configFile
  | making => writeNew l text
  | opening =>
    .write l.configFile [] fun
      | .error fault => .done (.error (.unwritable fault))
      | .ok () =>
        .write l.configFile (Bytes.ofText text) fun
          | .error fault => .done (.error (.unwritable fault))
          | .ok () => .done (.ok .default)
  | writing =>
    .write l.configFile (Bytes.ofText text) fun
      | .error fault => .done (.error (.unwritable fault))
      | .ok () => .done (.ok .default)
  | ended result => .done result

/-- The turns that a process still needs, at most. -/
def rank : Stage → Nat
  | placing => 5
  | seeking => 4
  | making => 3
  | opening => 2
  | writing | reading => 1
  | ended _ => 0

/-- A process that has opened the file, or is done with it. -/
def HasFile : Stage → Prop
  | writing | ended _ => True
  | _ => False

/-- What a process does in a turn in which no operation fails. -/
inductive Goes (t : FileTree) : Stage → Stage → FileTree → Prop where
  | place {t' : FileTree} (hMake : t.CanMake (stepsFrom current l.configDirectory))
      (hPaves : Paves (stepsFrom current l.configDirectory) t t') : Goes t placing seeking t'
  | find (h : t.contains (stepsFrom current l.configFile) = true) : Goes t seeking reading t
  | miss (h : t.contains (stepsFrom current l.configFile) = false) : Goes t seeking making t
  | read {content : Bytes} (h : t.read (stepsFrom current l.configFile) = .ok content) :
      Goes t reading (ended (ofContent l.configFile content)) t
  | make {t' : FileTree} (hMake : t.CanMake (stepsFrom current l.configDirectory))
      (hPaves : Paves (stepsFrom current l.configDirectory) t t') : Goes t making opening t'
  | open {t' : FileTree} (h : t.write (stepsFrom current l.configFile) [] = .ok t') :
      Goes t opening writing t'
  | write {t' : FileTree}
      (h : t.write (stepsFrom current l.configFile) (Bytes.ofText text) = .ok t') :
      Goes t writing (ended (.ok .default)) t'
  | rest (result : Except LoadError Config) : Goes t (ended result) (ended result) t

variable {l current text}

/-- **What a process does in a turn.** -/
theorem goes_of_step (hDump : Config.default.dump = .ok text) {t : FileTree} (s : Stage)
    (hFails : (s.task l text).fails current t = false) :
    ∃ s', ((s.task l text).step current t).1 = s'.task l text ∧
      s.Goes l current text t s' ((s.task l text).step current t).2 := by
  -- a directory was made, so it could be made
  have hMakes {t' : FileTree}
      (hMade : t.makeDirectories (stepsFrom current l.configDirectory) = .ok t') :
      t.CanMake (stepsFrom current l.configDirectory) ∧
        Paves (stepsFrom current l.configDirectory) t t' := by
    rcases t.makeDirectories_cases (stepsFrom current l.configDirectory) with
      ⟨hMake, t₁, hOk, hPaves⟩ | ⟨-, e, hError⟩
    · obtain rfl := Except.ok.inj (hOk.symm.trans hMade)
      exact ⟨hMake, hPaves⟩
    · rw [hError] at hMade
      contradiction
  cases s with
  | placing =>
    obtain ⟨t', hMade, hStep⟩ := FileTask.step_makeDirectories hFails
    obtain ⟨hMake, hPaves⟩ := hMakes hMade
    exact ⟨.seeking, congrArg Prod.fst hStep, congrArg Prod.snd hStep ▸ .place hMake hPaves⟩
  | seeking =>
    -- from here there are two ways on
    cases hThere : t.contains (stepsFrom current l.configFile) with
    | true => exact ⟨.reading, by simp [task, FileTask.step, files, hThere], .find hThere⟩
    | false => exact ⟨.making, by simp [task, FileTask.step, files, hThere, hDump], .miss hThere⟩
  | reading =>
    obtain ⟨content, hRead, hStep⟩ := FileTask.step_read hFails
    exact ⟨.ended (ofContent l.configFile content), congrArg Prod.fst hStep,
      congrArg Prod.snd hStep ▸ .read hRead⟩
  | making =>
    obtain ⟨t', hMade, hStep⟩ := FileTask.step_makeDirectories hFails
    obtain ⟨hMake, hPaves⟩ := hMakes hMade
    exact ⟨.opening, congrArg Prod.fst hStep, congrArg Prod.snd hStep ▸ .make hMake hPaves⟩
  | opening =>
    obtain ⟨t', hOpened, hStep⟩ := FileTask.step_write hFails
    exact ⟨.writing, congrArg Prod.fst hStep, congrArg Prod.snd hStep ▸ .open hOpened⟩
  | writing =>
    obtain ⟨t', hWritten, hStep⟩ := FileTask.step_write hFails
    exact ⟨.ended (.ok .default), congrArg Prod.fst hStep,
      congrArg Prod.snd hStep ▸ .write hWritten⟩
  | ended result => exact ⟨.ended result, rfl, .rest result⟩

/-- A turn brings a process closer to its end. -/
theorem Goes.rank_le {t t' : FileTree} {s s' : Stage} (h : s.Goes l current text t s' t') :
    s'.rank ≤ s.rank - 1 := by
  cases h <;> simp [rank]

/-- Only a process that reads has the task to read. -/
theorem eq_reading_of_task {s : Stage} (h : s.task l text = loadFrom l.configFile) :
    s = reading := by
  cases s <;> first | rfl | simp [task, loadFrom, loadOrInit, writeNew] at h

theorem eq_ended_of_task {s : Stage} {result : Except LoadError Config}
    (h : s.task l text = .done result) : s = ended result := by
  cases s with
  | ended r => exact congrArg ended (FileTask.done.inj h)
  | _ => simp [task, loadFrom, loadOrInit, writeNew] at h

theorem exists_ended_of_rank {s : Stage} (h : s.rank = 0) : ∃ result, s = ended result := by
  cases s with
  | ended result => exact ⟨result, rfl⟩
  | _ => simp [rank] at h

end Stage

-- ---------------------------------------------------------------------------
-- What is known of the file
-- ---------------------------------------------------------------------------

/-- What is known after each turn: the directory is there as soon as a process has made it, the file
is empty or has the default, it is there once a process has opened it, what has been found is there,
and the file is empty only as long as a process has still to write it. -/
structure Account (t : FileTree) (stages : List Stage) : Prop where
  paved : ∀ s ∈ stages, s ≠ .placing → t.IsPaved (stepsFrom current l.configDirectory)
  content : ∀ b, t.find? (l.configPlace current) = some (.file b) → b = [] ∨ b = Bytes.ofText text
  there : ∀ s ∈ stages, s.HasFile → ∃ b, t.find? (l.configPlace current) = some (.file b)
  found : .reading ∈ stages → t.find? (l.configPlace current) ≠ none
  empty : t.find? (l.configPlace current) = some (.file []) → .writing ∈ stages

/-- What a process gets that reads the file while it is empty: the target is missing. -/
def fromEmpty (l : Locations) : Except LoadError Config :=
  .error (.misfit l.configFile (.missing "target_url"))

theorem ofContent_empty (l : Locations) : ofContent l.configFile [] = fromEmpty l := by
  rfl

variable {l current text}

theorem ofText_ne_nil (hText : ofContent l.configFile (Bytes.ofText text) = .ok .default) :
    Bytes.ofText text ≠ [] := by
  intro hNil
  rw [hNil, ofContent_empty] at hText
  contradiction

namespace Account

variable {t t' : FileTree} {stages : List Stage} {i : Nat} {s s' : Stage}

/-- A turn that leaves the file alone. -/
theorem keep (h : Account l current text t stages) (hTurn : stages[i]? = some s)
    (hPaved : t'.IsPaved (stepsFrom current l.configDirectory)) (hMore : t.Extends t')
    (hFile : ∀ b, t'.find? (l.configPlace current) = some (.file b) →
      t.find? (l.configPlace current) = some (.file b))
    (hWriting : s ≠ .writing)
    (hThere : s'.HasFile → ∃ b, t.find? (l.configPlace current) = some (.file b))
    (hFound : s' = .reading → t.find? (l.configPlace current) ≠ none) :
    Account l current text t' (stages.set i s') where
  paved _ _ _ := hPaved
  content b hb := h.content b (hFile b hb)
  -- the file of a stage is there already, and it stays
  there r hr hHas := by
    obtain ⟨b, hb⟩ : ∃ b, t.find? (l.configPlace current) = some (.file b) := by
      rcases List.mem_or_eq_of_mem_set hr with hOld | rfl
      · exact h.there r hOld hHas
      · exact hThere hHas
    exact ⟨b, hMore _ _ hb⟩
  found hr := by
    have hSome : t.find? (l.configPlace current) ≠ none := by
      rcases List.mem_or_eq_of_mem_set hr with hOld | hNew
      · exact h.found hOld
      · exact hFound hNew.symm
    -- whatever stands there goes on standing there
    obtain ⟨e, he⟩ := Option.ne_none_iff_exists'.mp hSome
    simp [hMore _ _ he]
  empty hEmpty := by
    obtain ⟨j, hj⟩ := List.mem_iff_getElem?.mp (h.empty (hFile _ hEmpty))
    -- the one who has opened the file is not the one who has this turn
    have hOther : i ≠ j := by
      rintro rfl
      exact hWriting (Option.some.inj (hTurn.symm.trans hj))
    exact List.mem_iff_getElem?.mpr ⟨j, (List.getElem?_set_ne hOther).trans hj⟩

/-- A turn that writes the file. -/
theorem written (hTurn : stages[i]? = some s)
    (hPaved : t'.IsPaved (stepsFrom current l.configDirectory)) {content : Bytes}
    (hFile : t'.find? (l.configPlace current) = some (.file content))
    (hContent : content = Bytes.ofText text ∨ (content = [] ∧ s' = .writing))
    (hSome : Bytes.ofText text ≠ []) : Account l current text t' (stages.set i s') where
  paved _ _ _ := hPaved
  content b hb := by
    cases hFile.symm.trans hb
    tauto
  there _ _ _ := ⟨content, hFile⟩
  found _ := by simp [hFile]
  empty hEmpty := by
    cases hFile.symm.trans hEmpty
    rcases hContent with hText | ⟨-, rfl⟩
    · exact (hSome hText.symm).elim
    · exact List.mem_set (List.getElem?_eq_some_iff.mp hTurn).1 .writing

/-- **What is known is known after each turn.** -/
theorem turn (h : Account l current text t stages) (hTurn : stages[i]? = some s)
    (hGoes : s.Goes l current text t s' t')
    (hText : ofContent l.configFile (Bytes.ofText text) = .ok .default) :
    Account l current text t' (stages.set i s') := by
  -- in all stages but the first the directory is there
  have hPaved (hNe : s ≠ .placing) := h.paved s (List.mem_of_getElem? hTurn) hNe
  have hSame (b : Bytes) (hb : t.find? (l.configPlace current) = some (.file b)) := hb
  cases hGoes with
  | place hMake hPaves | make hMake hPaves =>
    -- directories come, and the file stays as it is
    exact h.keep hTurn hPaves.paved (hPaves.extends hMake)
      (fun _ => (hPaves.find?_file_iff hMake).mp) (by simp) False.elim (by simp)
  | find hContains =>
    rw [contains_configFile (hPaved (by simp))] at hContains
    exact h.keep hTurn (hPaved (by simp)) (.refl t) hSame (by simp) False.elim
      fun _ => Option.isSome_iff_ne_none.mp hContains
  | miss => exact h.keep hTurn (hPaved (by simp)) (.refl t) hSame (by simp) False.elim (by simp)
  | read hRead =>
    rw [read_configFile (hPaved (by simp))] at hRead
    exact h.keep hTurn (hPaved (by simp)) (.refl t) hSame (by simp) (fun _ => ⟨_, hRead⟩) (by simp)
  | «open» hOpened =>
    obtain ⟨hPaved', -, hThere⟩ := configFile_of_write (hPaved (by simp)) hOpened
    exact .written hTurn hPaved' hThere (.inr ⟨rfl, rfl⟩) (ofText_ne_nil hText)
  | write hWritten =>
    obtain ⟨hPaved', -, hThere⟩ := configFile_of_write (hPaved (by simp)) hWritten
    exact .written hTurn hPaved' hThere (.inl rfl) (ofText_ne_nil hText)
  | rest =>
    exact h.keep hTurn (hPaved (by simp)) (.refl t) hSame (by simp)
      (fun _ => h.there _ (List.mem_of_getElem? hTurn) trivial) (by simp)

/-- What a process reads is nothing or the default. -/
theorem content_of_read {content : Bytes} (h : Account l current text t stages)
    (hTurn : stages[i]? = some .reading)
    (hRead : t.read (stepsFrom current l.configFile) = .ok content) :
    t.find? (l.configPlace current) = some (.file content) ∧
      (content = [] ∨ content = Bytes.ofText text) := by
  rw [read_configFile (h.paved .reading (List.mem_of_getElem? hTurn) (by simp))] at hRead
  exact ⟨hRead, h.content content hRead⟩

/-- What a turn can end with. -/
theorem result_cases {r : Except LoadError Config} (h : Account l current text t stages)
    (hTurn : stages[i]? = some s) (hGoes : s.Goes l current text t (.ended r) t')
    (hText : ofContent l.configFile (Bytes.ofText text) = .ok .default) :
    s = .ended r ∨ r = .ok .default ∨ r = fromEmpty l := by
  cases hGoes with
  | rest => exact .inl rfl
  | write => exact .inr (.inl rfl)
  | read hRead =>
    obtain ⟨-, rfl | rfl⟩ := h.content_of_read hTurn hRead
    · exact .inr (.inr (ofContent_empty l))
    · exact .inr (.inl hText)

/-- A process misses the target if it had missed it before, or if it reads the empty file. -/
theorem missed_iff (h : Account l current text t stages) (hTurn : stages[i]? = some s)
    (hGoes : s.Goes l current text t s' t')
    (hText : ofContent l.configFile (Bytes.ofText text) = .ok .default) :
    s' = .ended (fromEmpty l) ↔ s = .ended (fromEmpty l) ∨
      (s = .reading ∧ t.find? (l.configPlace current) = some (.file [])) := by
  cases hGoes with
  | place | find | miss | make | «open» | rest => simp
  | write => simp [fromEmpty]
  | read hRead =>
    obtain ⟨hThere, rfl | rfl⟩ := h.content_of_read hTurn hRead
    · exact iff_of_true (congrArg _ (ofContent_empty l)) (.inr ⟨rfl, hThere⟩)
    · simp [hText, fromEmpty, hThere, ofText_ne_nil hText]

end Account

end ProxyAudit.Config
