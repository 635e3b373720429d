import Mathlib
import ProxyAudit.Files

/-!
# Places in a tree

The steps of a path lead from one place to the next, and where they lead does not depend on what
stands there; what stands there decides whether they lead anywhere at all. A directory can be made
if each place on the way to it is a directory, or is free in a directory that is not locked. Then
all of these places become directories, and nothing else changes.

Main results:

* `resolve_concat_cases`   — a path can be followed if there are directories on its way.
* `makeDirectories_cases`  — when a directory can be made, and what changes then.
-/

namespace ProxyAudit

namespace FileTree

-- ---------------------------------------------------------------------------
-- Places
-- ---------------------------------------------------------------------------

/-- The place that a step leads to. -/
def advance (here : List String) (step : String) : List String :=
  if step = "." then here else if step = ".." then here.dropLast else here ++ [step]

/-- The place that a path from the root leads to. -/
def goal (path : List String) : List String :=
  path.foldl advance []

/-- The places on the way along a path, the root and its goal among them. -/
def stations (path : List String) : List (List String) :=
  path.inits.map goal

theorem goal_concat (path : List String) (step : String) :
    goal (path ++ [step]) = advance (goal path) step := by
  simp [goal]

theorem stations_concat (path : List String) (step : String) :
    stations (path ++ [step]) = stations path ++ [goal (path ++ [step])] := by
  simp [stations, List.inits_append]

theorem mem_stations_concat {path : List String} {step : String} {p : List String} :
    p ∈ stations (path ++ [step]) ↔ p ∈ stations path ∨ p = goal (path ++ [step]) := by
  rw [stations_concat, List.mem_append, List.mem_singleton]

theorem goal_mem_stations (path : List String) : goal path ∈ stations path :=
  List.mem_map_of_mem (List.mem_inits path path |>.mpr (List.prefix_refl path))

/-- Without a step back, a path only leads deeper. -/
theorem prefix_of_mem_stations {path p : List String} (h : ".." ∉ path) (hp : p ∈ stations path) :
    p <+: goal path := by
  induction path using List.reverseRecOn with
  | nil =>
    obtain rfl : p = [] := by simpa [stations, goal] using hp
    exact List.nil_prefix
  | append_singleton path step ih =>
    rcases mem_stations_concat.mp hp with hBefore | rfl
    · -- no step leads back, so each goal is within the next one
      have hStep : step ≠ ".." := fun hBack => h (by simp [hBack])
      have hDeeper : goal path <+: goal (path ++ [step]) := by
        rw [goal_concat, advance, if_neg hStep]
        split
        · exact List.prefix_refl _
        · exact List.prefix_append _ _
      exact (ih (fun hMem => h (List.mem_append_left _ hMem)) hBefore).trans hDeeper
    · exact List.prefix_refl _

-- ---------------------------------------------------------------------------
-- Following paths
-- ---------------------------------------------------------------------------

variable (t : FileTree)

/-- A step can be taken from a directory. -/
def enter (here : List String) (step : String) : Except FileFault (List String) :=
  match t.find? here with
  | none => .error .notFound
  | some (.file _) => .error .notDirectory
  | some .directory => .ok (advance here step)

theorem follow_concat (here path : List String) (step : String) :
    t.follow here (path ++ [step]) = (t.follow here path).bind (t.enter · step) := by
  induction path generalizing here with
  | nil =>
    -- one step from here, which is the last
    simp only [List.nil_append, follow, Except.bind, enter, advance]
    cases t.find? here with
    | none => rfl
    | some e =>
      cases e with
      | file content => rfl
      | directory =>
        dsimp only
        split
        · rfl
        · split <;> rfl
  | cons first path ih =>
    -- the first step is the same with and without the last one
    simp only [List.cons_append, follow]
    split
    · rfl
    · rfl
    · split
      · exact ih here
      split
      · exact ih here.dropLast
      · exact ih (here ++ [first])

theorem resolve_concat (path : List String) (step : String) :
    t.resolve (path ++ [step]) = (t.resolve path).bind (t.enter · step) :=
  t.follow_concat [] path step

/-- All places on the way are directories. -/
def IsPaved (path : List String) : Prop :=
  ∀ p ∈ stations path, t.find? p = some .directory

variable {t} {path : List String}

theorem resolve_of_isPaved (h : t.IsPaved path) : t.resolve path = .ok (goal path) := by
  induction path using List.reverseRecOn with
  | nil => rfl
  | append_singleton path step ih =>
    have hBefore : t.IsPaved path := fun p hp => h p (mem_stations_concat.mpr (.inl hp))
    rw [resolve_concat, ih hBefore]
    simp [Except.bind, enter, hBefore _ (goal_mem_stations path), goal_concat]

/-- Where a path can be followed to its last step, that step leads to its goal. -/
theorem resolve_concat_of_isPaved (h : t.IsPaved path) (step : String) :
    t.resolve (path ++ [step]) = .ok (goal (path ++ [step])) := by
  rw [resolve_concat, resolve_of_isPaved h]
  simp [Except.bind, enter, h _ (goal_mem_stations path), goal_concat]

/-- A path is followed to its last step over directories, or it ends where nothing or a file
stands. -/
theorem resolve_concat_cases (path : List String) (step : String) :
    t.IsPaved path ∨
    (t.resolve (path ++ [step]) = .error .notFound ∧ ∃ p ∈ stations path, t.find? p = none) ∨
    (t.resolve (path ++ [step]) = .error .notDirectory ∧
      ∃ p ∈ stations path, ∃ content, t.find? p = some (.file content)) := by
  induction path using List.reverseRecOn generalizing step with
  | nil =>
    refine .inl fun p hp => ?_
    obtain rfl : p = [] := by simpa [stations, goal] using hp
    rfl
  | append_singleton path last ih =>
    have hMore {p : List String} (hp : p ∈ stations path) : p ∈ stations (path ++ [last]) :=
      mem_stations_concat.mpr (.inl hp)
    rcases ih last with hPaved | ⟨hEnd, p, hp, hNone⟩ | ⟨hEnd, p, hp, content, hFile⟩
    · -- directories so far, so what stands at the goal decides
      have hGoal := resolve_concat_of_isPaved hPaved last
      rw [resolve_concat, hGoal]
      simp only [Except.bind, enter]
      cases hLast : t.find? (goal (path ++ [last])) with
      | none => exact .inr (.inl ⟨rfl, _, goal_mem_stations _, hLast⟩)
      | some e =>
        cases e with
        | file content => exact .inr (.inr ⟨rfl, _, goal_mem_stations _, content, hLast⟩)
        | directory =>
          refine .inl fun p hp => ?_
          rcases mem_stations_concat.mp hp with hBefore | rfl
          · exact hPaved p hBefore
          · exact hLast
    · -- the path ended before its last step, and one step more does not change that
      refine .inr (.inl ⟨?_, p, hMore hp, hNone⟩)
      rw [resolve_concat, hEnd]
      rfl
    · refine .inr (.inr ⟨?_, p, hMore hp, content, hFile⟩)
      rw [resolve_concat, hEnd]
      rfl

theorem resolve_eq_goal {p : List String} (h : t.resolve path = .ok p) : p = goal path := by
  obtain rfl | ⟨outer, step, rfl⟩ := path.eq_nil_or_concat'
  · exact (Except.ok.inj h).symm
  · rcases resolve_concat_cases (t := t) outer step with hPaved | ⟨hEnd, -⟩ | ⟨hEnd, -⟩
    · exact Except.ok.inj (h.symm.trans (resolve_concat_of_isPaved hPaved step))
    · rw [hEnd] at h
      contradiction
    · rw [hEnd] at h
      contradiction

-- ---------------------------------------------------------------------------
-- Growing trees
-- ---------------------------------------------------------------------------

/-- What stands in one tree stands in another as well. -/
def Extends (t t' : FileTree) : Prop :=
  ∀ p e, t.find? p = some e → t'.find? p = some e

theorem Extends.refl (t : FileTree) : t.Extends t :=
  fun _ _ he => he

theorem Extends.trans {t' t'' : FileTree} (h : t.Extends t') (h' : t'.Extends t'') :
    t.Extends t'' :=
  fun p e he => h' p e (h p e he)

/-- Something is put where nothing stands. -/
theorem Extends.put {p : List String} (hNone : t.find? p = none) (e : Entry) :
    t.Extends (t.put p e) := by
  intro q e' he
  have hOther : q ≠ p := by
    rintro rfl
    rw [hNone] at he
    contradiction
  rw [find?_put_of_ne t hOther, he]

theorem Extends.isPaved {t' : FileTree} (h : t.Extends t') (hPaved : t.IsPaved path) :
    t'.IsPaved path :=
  fun p hp => h p _ (hPaved p hp)

-- ---------------------------------------------------------------------------
-- Making directories
-- ---------------------------------------------------------------------------

theorem find?_nil (t : FileTree) : t.find? [] = some .directory :=
  rfl

theorem find?_put_eq (t : FileTree) {p : List String} (hp : t.find? p ≠ some .directory)
    (e : Entry) (q : List String) : (t.put p e).find? q = if q = p then some e else t.find? q := by
  split
  · next h =>
    rw [h]
    refine find?_put t (fun hNil => hp ?_) e
    rw [hNil, find?_nil]
  · next h => exact find?_put_of_ne t h e

/-- A place where a directory stands or can be made. -/
def CanPave (t : FileTree) (p : List String) : Prop :=
  t.find? p = some .directory ∨ (t.find? p = none ∧ p.dropLast ∉ t.locked)

/-- A directory that can be made, together with the directories around it. -/
def CanMake (t : FileTree) (path : List String) : Prop :=
  ∀ p ∈ stations path, t.CanPave p

instance (t : FileTree) (p : List String) : Decidable (t.CanPave p) :=
  inferInstanceAs (Decidable (_ ∨ _))

instance (t : FileTree) (path : List String) : Decidable (t.CanMake path) :=
  inferInstanceAs (Decidable (∀ p ∈ stations path, t.CanPave p))

/-- What becomes of a tree in which a directory is made. -/
structure Paves (path : List String) (t t' : FileTree) : Prop where
  locked_eq : t'.locked = t.locked
  paved : t'.IsPaved path
  find?_eq : ∀ p, p ∉ stations path → t'.find? p = t.find? p

/-- The last step to a directory. -/
theorem settle_cases (hPaved : t.IsPaved path) (step : String) :
    (t.CanPave (goal (path ++ [step])) ∧
      ∃ t', t.settle (path ++ [step]) = .ok t' ∧ Paves (path ++ [step]) t t') ∨
    (¬ t.CanPave (goal (path ++ [step])) ∧ ∃ e, t.settle (path ++ [step]) = .error e) := by
  have hGoal := resolve_concat_of_isPaved hPaved step
  set p := goal (path ++ [step])
  simp only [settle, makeDirectory, lookup?, hGoal, bind, Except.bind]
  cases hStands : t.find? p with
  | none =>
    simp only [make]
    -- a directory can be made there, unless the one around it is locked
    by_cases hLocked : p.dropLast ∈ t.locked
    · refine .inr ⟨?_, .denied, by simp [hLocked]⟩
      rintro (hDirectory | ⟨-, hFree⟩)
      · simp [hStands] at hDirectory
      · exact hFree hLocked
    · refine .inl ⟨.inr ⟨hStands, hLocked⟩, t.put p .directory, by simp [hLocked], rfl, ?_, ?_⟩
      · -- what is new is the goal alone, and it stands at the end of the way
        intro q hq
        rw [find?_put_eq t (by simp [hStands])]
        split
        · rfl
        · next hOther => exact hPaved q ((mem_stations_concat.mp hq).resolve_right hOther)
      · intro q hq
        rw [find?_put_eq t (by simp [hStands]), if_neg]
        exact fun hSame => hq (mem_stations_concat.mpr (.inr hSame))
  | some e =>
    cases e with
    | file content =>
      refine .inr ⟨?_, .alreadyExists, by simp⟩
      -- neither a directory nor nothing stands there
      rintro (hDirectory | ⟨hNone, -⟩) <;> simp_all
    | directory =>
      refine .inl ⟨.inl hStands, t, by simp, rfl, ?_, fun _ _ => rfl⟩
      intro q hq
      rcases mem_stations_concat.mp hq with hBefore | rfl
      · exact hPaved q hBefore
      · exact hStands

theorem canMake_concat {step : String} :
    t.CanMake (path ++ [step]) ↔ t.CanMake path ∧ t.CanPave (goal (path ++ [step])) := by
  simp only [CanMake, mem_stations_concat]
  constructor
  · intro h
    exact ⟨fun p hp => h p (.inl hp), h _ (.inr rfl)⟩
  · rintro ⟨hPath, hGoal⟩ p (hp | rfl)
    · exact hPath p hp
    · exact hGoal

theorem IsPaved.canMake (h : t.IsPaved path) : t.CanMake path :=
  fun p hp => .inl (h p hp)

/-- Directories on the way make no difference to what can be made. -/
theorem Paves.canPave_iff {t' : FileTree} (h : Paves path t t') (hMake : t.CanMake path)
    (p : List String) : t'.CanPave p ↔ t.CanPave p := by
  by_cases hp : p ∈ stations path
  · exact iff_of_true (.inl (h.paved p hp)) (hMake p hp)
  · rw [CanPave, CanPave, h.find?_eq p hp, h.locked_eq]

theorem Paves.concat {t' t'' : FileTree} {step : String} (h : Paves path t t')
    (hLast : Paves (path ++ [step]) t' t'') : Paves (path ++ [step]) t t'' where
  locked_eq := hLast.locked_eq.trans h.locked_eq
  paved := hLast.paved
  find?_eq p hp := by
    rw [hLast.find?_eq p hp]
    exact h.find?_eq p fun hBefore => hp (mem_stations_concat.mpr (.inl hBefore))

/-- Making a directory takes nothing away. -/
theorem Paves.extends {t' : FileTree} (h : Paves path t t') (hMake : t.CanMake path) :
    t.Extends t' := by
  intro p e he
  by_cases hp : p ∈ stations path
  · rcases hMake p hp with hDirectory | ⟨hNone, -⟩
    · rw [h.paved p hp, ← hDirectory, he]
    · rw [hNone] at he
      contradiction
  · rw [h.find?_eq p hp, he]

/-- Making a directory leaves the files alone. -/
theorem Paves.find?_file_iff {t' : FileTree} (h : Paves path t t') (hMake : t.CanMake path)
    {p : List String} {content : Bytes} :
    t'.find? p = some (.file content) ↔ t.find? p = some (.file content) := by
  refine ⟨fun hFile => ?_, h.extends hMake p _⟩
  by_cases hp : p ∈ stations path
  · have hBoth := (h.paved p hp).symm.trans hFile
    cases hBoth
  · rwa [h.find?_eq p hp] at hFile

theorem makeDirectory_of_isPaved (hPaved : t.IsPaved path) (step : String) :
    t.makeDirectory (path ++ [step]) ≠ .error .notFound := by
  have hGoal := resolve_concat_of_isPaved hPaved step
  simp only [makeDirectory, hGoal, bind, Except.bind, make]
  split
  · simp
  · split <;> simp

theorem makeAround_of_notFound {t : FileTree} {step : String} {outer : List String}
    (h : t.makeDirectory (outer.reverse ++ [step]) = .error .notFound) :
    t.makeAround (step :: outer)
      = (t.makeAround outer).bind (·.settle (outer.reverse ++ [step])) := by
  simp only [makeAround, List.reverse_cons, h]
  rfl

theorem makeAround_of_found {t : FileTree} {step : String} {outer : List String}
    (h : t.makeDirectory (outer.reverse ++ [step]) ≠ .error .notFound) :
    t.makeAround (step :: outer) = t.settle (outer.reverse ++ [step]) := by
  simp only [makeAround, List.reverse_cons]

/-- **Making a directory and those around it**, given its path last step first. -/
theorem makeAround_cases (t : FileTree) (outer : List String) :
    (t.CanMake outer.reverse ∧ ∃ t', t.makeAround outer = .ok t' ∧ Paves outer.reverse t t') ∨
    (¬ t.CanMake outer.reverse ∧ ∃ e, t.makeAround outer = .error e) := by
  induction outer with
  | nil =>
    have hRoot : t.IsPaved [] := by
      intro p hp
      obtain rfl : p = [] := by simpa [stations, goal] using hp
      rfl
    exact .inl ⟨hRoot.canMake, t, rfl, rfl, hRoot, fun _ _ => rfl⟩
  | cons step outer ih =>
    rw [List.reverse_cons]
    set path := outer.reverse
    rw [canMake_concat]
    rcases resolve_concat_cases (t := t) path step with
      hPaved | ⟨hEnd, -⟩ | ⟨hEnd, p, hp, content, hFile⟩
    · -- there are directories on the way already
      rw [makeAround_of_found (makeDirectory_of_isPaved hPaved step)]
      rcases settle_cases hPaved step with ⟨hGoal, hMade⟩ | ⟨hGoal, hError⟩
      · exact .inl ⟨⟨hPaved.canMake, hGoal⟩, hMade⟩
      · exact .inr ⟨fun h => hGoal h.2, hError⟩
    · -- the directories on the way are made first
      have hMake : t.makeDirectory (path ++ [step]) = .error .notFound := by
        simp only [makeDirectory, hEnd]
        rfl
      rw [makeAround_of_notFound hMake]
      rcases ih with ⟨hPath, t₁, hMade, hPaves⟩ | ⟨hPath, e, hError⟩
      · simp only [hMade, Except.bind]
        rcases settle_cases hPaves.paved step with ⟨hGoal, t', hLast, hPavesLast⟩ | ⟨hGoal, hError⟩
        · exact .inl ⟨⟨hPath, (hPaves.canPave_iff hPath _).mp hGoal⟩, t', hLast,
            hPaves.concat hPavesLast⟩
        · exact .inr ⟨fun h => hGoal ((hPaves.canPave_iff hPath _).mpr h.2), hError⟩
      · exact .inr ⟨fun h => hPath h.1, e, by simp only [hError, Except.bind]⟩
    · -- a file stands in the way
      have hMake : t.makeDirectory (path ++ [step]) = .error .notDirectory := by
        simp only [makeDirectory, hEnd]
        rfl
      have hSettle : t.settle (path ++ [step]) = .error .notDirectory := by
        simp [settle, hMake, lookup?, hEnd]
      rw [makeAround_of_found (by simp [path, hMake])]
      refine .inr ⟨fun h => ?_, _, hSettle⟩
      rcases h.1 p hp with hDirectory | ⟨hNone, -⟩ <;> simp_all

/-- **Making a directory.** -/
theorem makeDirectories_cases (t : FileTree) (path : List String) :
    (t.CanMake path ∧ ∃ t', t.makeDirectories path = .ok t' ∧ Paves path t t') ∨
    (¬ t.CanMake path ∧ ∃ e, t.makeDirectories path = .error e) := by
  have hAround := t.makeAround_cases path.reverse
  rw [List.reverse_reverse] at hAround
  exact hAround

/-- Where a directory stands nothing is made. -/
theorem makeDirectories_of_isPaved (h : t.IsPaved path) : t.makeDirectories path = .ok t := by
  obtain rfl | ⟨outer, step, rfl⟩ := path.eq_nil_or_concat'
  · rfl
  · -- what stands there already is not made again
    have hOuter : t.IsPaved outer := fun p hp => h p (mem_stations_concat.mpr (.inl hp))
    have hStands : t.find? (goal (outer ++ [step])) = some .directory := h _ (goal_mem_stations _)
    have hGoal := resolve_concat_of_isPaved hOuter step
    have hMake : t.makeDirectory (outer ++ [step]) = .error .alreadyExists := by
      simp [makeDirectory, hGoal, hStands, bind, Except.bind]
    have hSettle : t.settle (outer ++ [step]) = .ok t := by
      simp [settle, hMake, lookup?, hGoal, hStands]
    rw [makeDirectories, List.reverse_append, List.reverse_singleton, List.singleton_append,
      makeAround]
    simp only [List.reverse_cons, List.reverse_reverse, hMake, hSettle]

-- ---------------------------------------------------------------------------
-- Files in a directory
-- ---------------------------------------------------------------------------

/-- What is said about a file in a directory that stands. -/
theorem contains_of_isPaved (h : t.IsPaved path) (name : String) :
    t.contains (path ++ [name]) = (t.find? (goal (path ++ [name]))).isSome := by
  simp [contains, lookup?, resolve_concat_of_isPaved h name]

/-- A path leads to something if there are directories on its way, and something at its end. -/
theorem contains_concat_iff {name : String} : t.contains (path ++ [name]) = true ↔
    t.IsPaved path ∧ ∃ e, t.find? (goal (path ++ [name])) = some e := by
  rcases resolve_concat_cases (t := t) path name with
    hPaved | ⟨hEnd, p, hp, hStops⟩ | ⟨hEnd, p, hp, content, hStops⟩
  · rw [contains_of_isPaved hPaved, Option.isSome_iff_exists]
    exact (and_iff_right hPaved).symm
  · simp only [contains, lookup?, hEnd, Option.isSome_none, Bool.false_eq_true, false_iff]
    rintro ⟨hPaved, -⟩
    exact Option.some_ne_none _ ((hPaved p hp).symm.trans hStops)
  · simp only [contains, lookup?, hEnd, Option.isSome_none, Bool.false_eq_true, false_iff]
    rintro ⟨hPaved, -⟩
    have hBoth := (hPaved p hp).symm.trans hStops
    cases hBoth

theorem Extends.contains {t' : FileTree} {name : String} (h : t.Extends t')
    (hThere : t.contains (path ++ [name]) = true) : t'.contains (path ++ [name]) = true := by
  obtain ⟨hPaved, e, he⟩ := contains_concat_iff.mp hThere
  exact contains_concat_iff.mpr ⟨h.isPaved hPaved, e, h _ e he⟩

/-- What a path leads to is read alike in a tree in which more has been made. -/
theorem Extends.read_eq {t' : FileTree} {name : String} (h : t.Extends t')
    (hThere : t.contains (path ++ [name]) = true) :
    t'.read (path ++ [name]) = t.read (path ++ [name]) := by
  obtain ⟨hPaved, e, he⟩ := contains_concat_iff.mp hThere
  simp only [read, resolve_concat_of_isPaved hPaved name,
    resolve_concat_of_isPaved (h.isPaved hPaved) name, bind, Except.bind, he, h _ e he]

/-- A file is made in a directory that is not locked. -/
theorem write_of_isPaved (h : t.IsPaved path) (name : String) (content : Bytes) :
    let p := goal (path ++ [name])
    (t.find? p = none → p.dropLast ∈ t.locked → t.write (path ++ [name]) content = .error .denied) ∧
    (t.find? p = none → p.dropLast ∉ t.locked →
      t.write (path ++ [name]) content = .ok (t.put p (.file content))) ∧
    (∀ before, t.find? p = some (.file before) →
      t.write (path ++ [name]) content = .ok (t.put p (.file content))) := by
  intro p
  have hGoal := resolve_concat_of_isPaved h name
  refine ⟨fun hNone hLocked => ?_, fun hNone hFree => ?_, fun before hFile => ?_⟩
  · simp [write, hGoal, p, hNone, make, bind, Except.bind, hLocked]
  · simp [write, hGoal, p, hNone, make, bind, Except.bind, hFree]
  · simp [write, hGoal, p, hFile, bind, Except.bind]

/-- A file is put where no directory is, so that it is in the way of none. -/
theorem IsPaved.put (h : t.IsPaved path) {p : List String} (hp : t.find? p ≠ some .directory)
    (e : Entry) : (t.put p e).IsPaved path := by
  intro q hq
  have hOther : q ≠ p := by
    rintro rfl
    exact hp (h q hq)
  rw [find?_put_of_ne t hOther, h q hq]

/-- A file that has been written stands there, and is in the way of no directory. -/
theorem stands_of_write {t' : FileTree} {name : String} {content : Bytes} (h : t.IsPaved path)
    (hWrite : t.write (path ++ [name]) content = .ok t') :
    t'.IsPaved path ∧ t'.locked = t.locked ∧
      t'.find? (goal (path ++ [name])) = some (.file content) := by
  have hPut : t.find? (goal (path ++ [name])) ≠ some .directory ∧
      t' = t.put (goal (path ++ [name])) (.file content) := by
    -- a write succeeds over a file, or where nothing stands
    simp only [write, resolve_concat_of_isPaved h name, bind, Except.bind] at hWrite
    split at hWrite
    · contradiction
    · next before hFile =>
      rw [hFile]
      exact ⟨by simp, (Except.ok.inj hWrite).symm⟩
    · next hNone =>
      rw [hNone]
      unfold make at hWrite
      split at hWrite
      · contradiction
      · exact ⟨by simp, (Except.ok.inj hWrite).symm⟩
  obtain ⟨hNoDirectory, rfl⟩ := hPut
  exact ⟨h.put hNoDirectory _, rfl, (find?_put_eq t hNoDirectory _ _).trans (if_pos rfl)⟩

theorem read_of_isPaved {name : String} {content : Bytes} (h : t.IsPaved path) :
    t.read (path ++ [name]) = .ok content ↔
      t.find? (goal (path ++ [name])) = some (.file content) := by
  simp only [read, resolve_concat_of_isPaved h name, bind, Except.bind]
  cases t.find? (goal (path ++ [name])) with
  | none => simp
  | some e => cases e <;> simp

end FileTree

end ProxyAudit
