import Mathlib
import ProxyAudit.CommandLine.Arguments

/-!
# Plain command lines

How the arguments are read that name a configuration file, a command, and what the command is to
expect. The line that a single fetch prints starts with a digest and can be expected as it stands:
a digest is read from the first word of a text.

Main results:

* `parse_command`    — a command after the options of the program.
* `parse_printed`    — the digest of a printed line reads back.
* `parse_expecting`  — a reference that is to agree with a printed line.
-/

namespace ProxyAudit

-- ---------------------------------------------------------------------------
-- Printed lines
-- ---------------------------------------------------------------------------

namespace Hex

theorem isBlank_digit {n : Nat} (h : n < 16) : Text.isBlank (digit n) = false := by
  have hAll : ∀ m ∈ List.range 16, Text.isBlank (digit m) = false := by decide
  exact hAll n (List.mem_range.mpr h)

theorem digit_ne_hyphen {n : Nat} (h : n < 16) : digit n ≠ '-' := by
  have hAll : ∀ m ∈ List.range 16, digit m ≠ '-' := by decide
  exact hAll n (List.mem_range.mpr h)

end Hex

namespace Digest

/-- **The digest of a printed line reads back**, whatever follows it after a blank. -/
theorem parse_printed (d : Digest) (rest : List Char) {s : String}
    (h : s.toList = d.hex ++ ' ' :: rest) : parse s = .ok d := by
  have hNoBlank : ∀ c ∈ d.hex, Text.isBlank c = false := by
    intro c hc
    obtain ⟨n, hn, rfl⟩ := Hex.exists_digit_of_mem_write hc
    exact Hex.isBlank_digit hn
  -- the digits have no blank, so the first token is all of them
  have hToken : Text.firstToken s.toList = d.hex := by
    have hDrop : s.toList.dropWhile Text.isBlank = d.hex ++ ' ' :: rest := by
      have hLength := d.length_hex
      rw [h]
      cases hHex : d.hex with
      | nil => simp [hHex] at hLength
      | cons c cs => simp [hNoBlank c (by simp [hHex])]
    rw [Text.firstToken, hDrop, List.takeWhile_append_of_pos (by simpa using hNoBlank)]
    simp [show Text.isBlank ' ' = true by decide]
  simp [parse, hToken, ofHex?_hex]

end Digest

/-- A written digest starts with a digit. -/
theorem Digest.exists_hex_eq_cons (d : Digest) : ∃ c cs, d.hex = c :: cs ∧ c ≠ '-' := by
  have hLength := d.length_hex
  cases hHex : d.hex with
  | nil => simp [hHex] at hLength
  | cons c cs =>
    obtain ⟨n, hn, rfl⟩ := Hex.exists_digit_of_mem_write (b := d.bytes) (hHex ▸ List.mem_cons_self)
    exact ⟨_, cs, rfl, Hex.digit_ne_hyphen hn⟩

-- ---------------------------------------------------------------------------
-- Command lines
-- ---------------------------------------------------------------------------

namespace CommandLine

/-- The arguments before a command, which may name a configuration file. -/
def front : Option String → List String
  | some path => ["--config=" ++ path]
  | none => []

/-- The options of a run that override nothing of its configuration. -/
def showing (json verbose : Bool) : RunOptions where
  target := none
  proxy := none
  workers := none
  maxConcurrent := none
  jitterMaxMs := none
  timeoutSecs := none
  json
  verboseOutcomes := verbose

/-- The arguments that give a run these options. -/
def flags (json verbose : Bool) : List String :=
  (if json then ["--json"] else []) ++ (if verbose then ["--verbose-outcomes"] else [])

theorem toList_config (path : String) :
    ("--config=" ++ path).toList
      = '-' :: '-' :: 'c' :: 'o' :: 'n' :: 'f' :: 'i' :: 'g' :: '=' :: path.toList := by
  rw [String.toList_append]
  rfl

theorem cutAtEquals_config (path : String) :
    cutAtEquals ('c' :: 'o' :: 'n' :: 'f' :: 'i' :: 'g' :: '=' :: path.toList)
      = ("config", some path) := by
  simp [cutAtEquals]

theorem readLong_config {path : String} (h : path ≠ "") :
    readLong .program .start ('c' :: 'o' :: 'n' :: 'f' :: 'i' :: 'g' :: '=' :: path.toList)
      = .ok ⟨[(.config, .text path)], none⟩ := by
  have hOption : Scope.program.option? "config" = some .config := by decide
  simp only [readLong, cutAtEquals_config, hOption]
  simp [Progress.begin, Opt.takesValue, Opt.valueName?, Progress.settle, Progress.start,
    Progress.keep, Opt.read, h, Except.bind, Except.map]

/-- An argument that starts with a hyphen is no command. -/
theorem ofName?_of_hyphen {arg : String} {cs : List Char} (h : arg.toList = '-' :: cs) :
    arg ≠ "help" ∧ Scope.ofName? arg = none := by
  have hOther {name : String} (hPlain : name.toList.head? ≠ some '-') : arg ≠ name := by
    rintro rfl
    exact hPlain (congrArg List.head? h)
  refine ⟨hOther (by decide), ?_⟩
  unfold Scope.ofName?
  split
  · exact (hOther (by decide) rfl).elim
  · exact (hOther (by decide) rfl).elim
  · exact (hOther (by decide) rfl).elim
  · exact (hOther (by decide) rfl).elim
  · rfl

theorem readScope_config {path : String} (h : path ≠ "") (rest : List String) :
    readScope .program .start false (("--config=" ++ path) :: rest)
      = readScope .program ⟨[(.config, .text path)], none⟩ false rest := by
  have hList := toList_config path
  obtain ⟨hNotHelp, hNoCommand⟩ := ofName?_of_hyphen hList
  rw [readScope]
  simp only [hNotHelp, hNoCommand, hList, readLong_config h]
  simp [Except.bind]

theorem readScope_command {p : Progress} (hFree : p.awaiting? = none) {name : String}
    {scope : Scope} (h : Scope.ofName? name = some scope) (rest : List String) :
    readScope .program p false (name :: rest) = .ok (p, .command scope rest) := by
  have hNotHelp : name ≠ "help" := by
    rintro rfl
    contradiction
  rw [readScope]
  simp [hFree, hNotHelp, h]

/-- **A command after the options of the program.** -/
theorem parse_command {path : Option String} (hPath : path ≠ some "") {name : String}
    {scope : Scope} (hName : Scope.ofName? name = some scope) {rest : List String}
    {command : Command} {inner : List (Opt × Value)}
    (hRead : readToEnd scope rest = .ok (command, inner)) (hInner : textOf inner .config = none) :
    parse (front path ++ name :: rest) = .ok ⟨path, command⟩ := by
  cases path with
  | none =>
    -- the file may be named before the command, or not at all
    have hScope := readScope_command (p := ⟨[], none⟩) rfl hName rest
    simp only [parse, front, List.nil_append, Progress.start, hScope, bind, Except.bind, hRead,
      hInner]
    rfl
  | some path =>
    have hNonempty : path ≠ "" := fun hEmpty => hPath (congrArg some hEmpty)
    have hScope := readScope_command (p := ⟨[(.config, .text path)], none⟩) rfl hName rest
    simp only [parse, front, List.singleton_append, readScope_config hNonempty, hScope, bind,
      Except.bind, hRead, hInner]
    rfl

theorem readToEnd_flags (json verbose : Bool) :
    readToEnd .run (flags json verbose)
      = .ok (.run (showing json verbose),
          (if json then [(.json, .given)] else [])
            ++ (if verbose then [(.verboseOutcomes, .given)] else [])) := by
  cases json <;> cases verbose <;> decide +kernel

theorem readToEnd_expecting {line : String} {d : Digest} (hDigest : Digest.parse line = .ok d)
    {c : Char} {cs : List Char} (hLine : line.toList = c :: cs) (hPlain : c ≠ '-') :
    readToEnd .reference ["--expect", line]
      = .ok (.reference none (some d), [(.expect, .digest d)]) := by
  -- one argument begins the option, and the other is its value
  have hPending : readLong .reference .start ['e', 'x', 'p', 'e', 'c', 't']
      = .ok ⟨[], some (.expect, none)⟩ := rfl
  have hBegin : readScope .reference .start false ["--expect", line]
      = readScope .reference ⟨[], some (.expect, none)⟩ false [line] := by
    rw [readScope]
    simp [hPending, Except.bind]
  have hEnd : readScope .reference ⟨[], some (.expect, none)⟩ false [line]
      = .ok (⟨[], some (.expect, some line)⟩, .lineEnd) := by
    rw [readScope]
    simp [hLine, hPlain, Progress.awaiting?, Except.bind, readScope]
  have hSettle : Progress.settle ⟨[], some (.expect, some line)⟩
      = .ok ⟨[(.expect, .digest d)], none⟩ := by
    simp [Progress.settle, Progress.keep, Opt.read, hDigest, Except.map]
  simp only [readToEnd, hBegin, hEnd, bind, Except.bind, hSettle]
  rfl

section Commands

variable {path : Option String} (hPath : path ≠ some "")
include hPath

theorem parse_run (json verbose : Bool) :
    parse (front path ++ "run" :: flags json verbose)
      = .ok ⟨path, .run (showing json verbose)⟩ := by
  refine parse_command hPath rfl (readToEnd_flags json verbose) ?_
  cases json <;> cases verbose <;> rfl

theorem parse_fetch : parse (front path ++ ["fetch"]) = .ok ⟨path, .fetch none none⟩ := by
  have hRead : readToEnd .fetch [] = .ok (.fetch none none, []) := rfl
  exact parse_command hPath rfl hRead rfl

theorem parse_reference :
    parse (front path ++ ["reference"]) = .ok ⟨path, .reference none none⟩ := by
  have hRead : readToEnd .reference [] = .ok (.reference none none, []) := rfl
  exact parse_command hPath rfl hRead rfl

/-- **A reference that is to agree with a printed line.** -/
theorem parse_expecting (d : Digest) (rest : List Char) {line : String}
    (hLine : line.toList = d.hex ++ ' ' :: rest) :
    parse (front path ++ ["reference", "--expect", line])
      = .ok ⟨path, .reference none (some d)⟩ := by
  obtain ⟨c, cs, hHex, hPlain⟩ := d.exists_hex_eq_cons
  have hFirst : line.toList = c :: (cs ++ ' ' :: rest) := by rw [hLine, hHex, List.cons_append]
  exact parse_command hPath rfl (readToEnd_expecting (d.parse_printed rest hLine) hFirst hPlain) rfl

end Commands

end CommandLine

end ProxyAudit
