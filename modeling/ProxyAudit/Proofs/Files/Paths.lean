import Mathlib
import ProxyAudit.FileTree
import ProxyAudit.Locations

/-!
# Texts of paths

The steps of a path are the components of its text between slashes. A name that is joined to the
text of a directory becomes one more step, if the directory has a name of its own.

Main results:

* `split_append_slash`  — the components before and after a slash.
* `stepsFrom_join`      — a name in a directory is one step more.
* `stepsFrom_configFile`, `stepsFrom_logFile`  — the files of the program are in its directories.
-/

namespace ProxyAudit

namespace FilePath

/-- A name that is a step of its own. -/
structure IsName (name : String) : Prop where
  noSlash : '/' ∉ name.toList
  notEmpty : name ≠ ""
  notHere : name ≠ "."

/-- One more character in front of the components of a text. -/
def grow (c : Char) (components : List (List Char)) : List (List Char) :=
  match components with
  | first :: rest => if c = '/' then [] :: first :: rest else (c :: first) :: rest
  | [] => [[c]]

theorem split_eq (s : String) :
    split s = (s.toList.foldr grow [[]]).map String.ofList :=
  rfl

theorem foldr_grow_ne_nil (cs : List Char) : cs.foldr grow [[]] ≠ [] := by
  cases cs with
  | nil => simp
  | cons c cs =>
    simp only [List.foldr_cons, grow]
    split
    · split <;> simp
    · simp

theorem foldr_grow_append (cs : List Char) (rest : List (List Char)) :
    cs.foldr grow ([] :: rest) = cs.foldr grow [[]] ++ rest := by
  induction cs with
  | nil => rfl
  | cons c cs ih =>
    rw [List.foldr_cons, List.foldr_cons, ih]
    cases hFront : cs.foldr grow [[]] with
    | nil => exact (foldr_grow_ne_nil cs hFront).elim
    | cons first more =>
      simp only [List.cons_append, grow]
      split <;> rfl

theorem foldr_grow_of_noSlash {cs : List Char} (h : '/' ∉ cs) : cs.foldr grow [[]] = [cs] := by
  induction cs with
  | nil => rfl
  | cons c cs ih =>
    have hRest : '/' ∉ cs := fun hMem => h (List.mem_cons_of_mem c hMem)
    have hFirst : c ≠ '/' := fun hSlash => h (hSlash ▸ List.mem_cons_self)
    rw [List.foldr_cons, ih hRest]
    simp [grow, hFirst]

/-- **The components before and after a slash.** -/
theorem split_append_slash (s s' : String) : split (s ++ "/" ++ s') = split s ++ split s' := by
  have hCons : grow '/' (s'.toList.foldr grow [[]]) = [] :: s'.toList.foldr grow [[]] := by
    cases hRest : s'.toList.foldr grow [[]] with
    | nil => exact (foldr_grow_ne_nil _ hRest).elim
    | cons first more => rfl
  simp only [split_eq, String.toList_append, List.foldr_append]
  rw [show "/".toList = ['/'] from rfl, List.foldr_cons, List.foldr_nil, hCons, foldr_grow_append,
    List.map_append]

theorem split_of_noSlash {s : String} (h : '/' ∉ s.toList) : split s = [s] := by
  rw [split_eq, foldr_grow_of_noSlash h]
  simp

/-- A text that ends with a slash has an empty component at its end. -/
theorem split_of_endsWith {s : String} (h : s.endsWith "/" = true) :
    ∃ s', s = s' ++ "/" ∧ split s = split s' ++ [""] := by
  rw [← String.endsWith_toSlice, String.Slice.endsWith_string_iff] at h
  obtain ⟨cs, hs⟩ := h
  rw [String.copy_toSlice] at hs
  have hText : s = String.ofList cs ++ "/" := by
    rw [← String.ofList_toList (s := s), ← hs]
    simp
  refine ⟨String.ofList cs, hText, ?_⟩
  have hSplit := split_append_slash (String.ofList cs) ""
  rw [← hText, String.append_empty] at hSplit
  exact hSplit

/-- A name joined to a directory is its last component. -/
theorem split_join (directory : String) {name : String} (hName : IsName name) :
    ∃ front, split (join directory name) = front ++ [name] := by
  have hAlone := split_of_noSlash hName.noSlash
  unfold join
  split
  · next h =>
    rcases h with rfl | hEnds
    · exact ⟨[], by rw [String.empty_append, hAlone, List.nil_append]⟩
    · obtain ⟨s', hText, -⟩ := split_of_endsWith hEnds
      exact ⟨split s', by rw [hText, split_append_slash, hAlone]⟩
  · exact ⟨split directory, by rw [split_append_slash, hAlone]⟩

theorem steps_of_split {s : String} {front : List String} {name : String} (hName : IsName name)
    (h : split s = front ++ [name]) :
    steps s = front.filter (fun c => !(c == "" || c == ".")) ++ [name] := by
  have hEmpty := hName.notEmpty
  have hHere := hName.notHere
  simp [steps, h, hEmpty, hHere]

/-- **A name in a directory is one step more.** -/
theorem stepsFrom_join (current : String) {directory : String} {front : List String}
    {last name : String} (hLast : IsName last) (hDirectory : split directory = front ++ [last])
    (hName : IsName name) :
    stepsFrom current (join directory name) = stepsFrom current directory ++ [name] := by
  -- a path with a name at its end is neither empty nor open at its end
  have hNotEmpty : directory ≠ "" := by
    rintro rfl
    have hNone : split "" = [""] := by decide
    rw [hNone] at hDirectory
    have hFront : [] ++ [""] = front ++ [last] := hDirectory
    have hSame := (List.append_inj' hFront rfl).2
    exact hLast.notEmpty (List.singleton_inj.mp hSame).symm
  have hNoEnd : directory.endsWith "/" ≠ true := by
    intro hEnds
    obtain ⟨s', -, hSplit⟩ := split_of_endsWith hEnds
    rw [hSplit] at hDirectory
    have hSame := (List.append_inj' hDirectory rfl).2
    exact hLast.notEmpty (List.singleton_inj.mp hSame).symm
  have hJoin : join directory name = directory ++ "/" ++ name := by
    rw [join, if_neg]
    rintro (hNone | hEnds)
    · exact hNotEmpty hNone
    · exact hNoEnd hEnds
  -- so a slash is put in between, and the name is a step of its own
  have hSplit : split (join directory name) = (front ++ [last]) ++ [name] := by
    rw [hJoin, split_append_slash, hDirectory, split_of_noSlash hName.noSlash]
  have hSteps : steps (join directory name) = steps directory ++ [name] := by
    have hEmpty := hLast.notEmpty
    have hHere := hLast.notHere
    rw [steps_of_split hName hSplit, steps_of_split hLast hDirectory, List.filter_append]
    simp [hEmpty, hHere]
  -- where the steps start does not change
  have hAbsolute : isAbsolute (join directory name) = isAbsolute directory := by
    rw [Bool.eq_iff_iff, isAbsolute, isAbsolute, String.startsWith_string_iff,
      String.startsWith_string_iff, hJoin]
    have hSome : directory.toList ≠ [] := fun hNil => hNotEmpty (String.toList_eq_nil_iff.mp hNil)
    obtain ⟨c, cs, hcs⟩ := List.exists_cons_of_ne_nil hSome
    simp [String.toList_append, hcs]
  rw [stepsFrom, stepsFrom, hAbsolute, hSteps]
  split
  · rfl
  · rw [List.append_assoc]

end FilePath

namespace Locations

open FilePath

theorem isName_program : IsName programName :=
  ⟨by decide, by decide, by decide⟩

/-- The configuration file is in the directory of the configuration. -/
theorem stepsFrom_configFile (l : Locations) (current : String) :
    stepsFrom current l.configFile = stepsFrom current l.configDirectory ++ ["config.toml"] := by
  obtain ⟨front, hFront⟩ := split_join (l.chosen l.configHome ".config") isName_program
  exact stepsFrom_join current isName_program hFront ⟨by decide, by decide, by decide⟩

/-- The log is in the directory of the log. -/
theorem stepsFrom_logFile (l : Locations) (current : String) :
    stepsFrom current l.logFile = stepsFrom current l.logDirectory ++ ["fetchcheck.log"] := by
  obtain ⟨front, hFront⟩ := split_join (l.chosen l.stateHome ".local/state") isName_program
  exact stepsFrom_join current isName_program hFront ⟨by decide, by decide, by decide⟩

end Locations

end ProxyAudit
