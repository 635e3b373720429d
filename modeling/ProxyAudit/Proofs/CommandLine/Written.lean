import Mathlib
import ProxyAudit.CommandLine.Completion
import ProxyAudit.Proofs.CommandLine.Repetition

/-!
# Invocations that are written

An invocation is written as the name of its command with the options that it gives, in any order and
each in any of its spellings; the configuration file may as well be named before the command. What
is found does not depend on the order, since every option is given once.

Main results:

* `commandOf_given`          — a command is what its options say, in any order.
* `parse_of_writes`          — an invocation is read as it is written.
* `parse_written_or_twice`   — every invocation is written and read; no option is given twice.
-/

namespace ProxyAudit

open CommandLine

-- ---------------------------------------------------------------------------
-- What an invocation gives
-- ---------------------------------------------------------------------------

namespace CommandLine

@[simp] def textGiven (o : Opt) (s : Option String) : List (Opt × Value) :=
  s.toList.map fun s => (o, .text s)

@[simp] def numberGiven (o : Opt) (n : Option UInt64) : List (Opt × Value) :=
  n.toList.map fun n => (o, .number n)

@[simp] def flagGiven (o : Opt) (b : Bool) : List (Opt × Value) :=
  if b then [(o, .given)] else []

end CommandLine

/-- The options that a run gives. -/
@[simp] def RunOptions.given (options : RunOptions) : List (Opt × Value) :=
  textGiven .target options.target ++ textGiven .proxy options.proxy
    ++ numberGiven .workers options.workers ++ numberGiven .maxConcurrent options.maxConcurrent
    ++ numberGiven .jitterMaxMs options.jitterMaxMs ++ numberGiven .timeoutSecs options.timeoutSecs
    ++ flagGiven .json options.json ++ flagGiven .verboseOutcomes options.verboseOutcomes

namespace Command

/-- The scope of the options of a command. -/
def scope : Command → Scope
  | run _ => .run
  | reference _ _ => .reference
  | fetch _ _ => .fetch
  | completions _ => .completions

/-- The options that a command gives, without the configuration file. -/
@[simp] def given : Command → List (Opt × Value)
  | run options => options.given
  | reference target expect =>
    textGiven .target target ++ expect.toList.map fun d => (.expect, .digest d)
  | fetch target proxy => textGiven .target target ++ textGiven .proxy proxy
  | completions shell => [(.shell, .shell shell)]

end Command

/-- All options that an invocation gives. -/
def Invocation.given (i : Invocation) : List (Opt × Value) :=
  textGiven .config i.config ++ i.command.given

/-- The command lines that say an invocation. -/
inductive Invocation.Writes (i : Invocation) : List String → Prop where
  /-- Every option stands after the name of the command. -/
  | after {given : List (Opt × Value)} {rest : List String} (hOrder : given.Perm i.given)
      (hRest : Spelled given rest) : Writes i (i.command.scope.name :: rest)
  /-- The configuration file is named before the command. -/
  | before {given : List (Opt × Value)} {front rest : List String}
      (hFront : Spelled (textGiven .config i.config) front) (hOrder : given.Perm i.command.given)
      (hRest : Spelled given rest) : Writes i (front ++ i.command.scope.name :: rest)

namespace CommandLine

-- ---------------------------------------------------------------------------
-- What is found in any order
-- ---------------------------------------------------------------------------

/-- What there is one of is found in any order. -/
theorem findSome?_eq_of_perm {α β : Type} {f : α → Option β} {l l' : List α} {x : Option β}
    (h : l.Perm l') (hOnly : l'.filterMap f = x.toList) : l.findSome? f = x := by
  have hPerm : (l.filterMap f).Perm x.toList := hOnly ▸ h.filterMap f
  rw [← List.head?_filterMap]
  cases x with
  | none => rw [hPerm.eq_nil]; rfl
  | some b => rw [List.perm_singleton.mp hPerm]; rfl

section Found

variable {found : List (Opt × Value)} {config : Option String} {c : Command}
  (h : found.Perm (textGiven .config config ++ c.given))
include h

theorem textOf_config : textOf found .config = config := by
  apply findSome?_eq_of_perm h
  cases c <;> simp

/-- **A command is what its options say**, in any order. -/
theorem commandOf_given : commandOf c.scope found = .ok c := by
  cases c with
  | run o =>
    -- each field is looked up under its own option, which the list has once at most
    have hTarget : textOf found .target = o.target := by
      apply findSome?_eq_of_perm h
      simp
    have hProxy : textOf found .proxy = o.proxy := by
      apply findSome?_eq_of_perm h
      simp
    have hWorkers : numberOf found .workers = o.workers := by
      apply findSome?_eq_of_perm h
      simp
    have hMaxConcurrent : numberOf found .maxConcurrent = o.maxConcurrent := by
      apply findSome?_eq_of_perm h
      simp
    have hJitter : numberOf found .jitterMaxMs = o.jitterMaxMs := by
      apply findSome?_eq_of_perm h
      simp
    have hTimeout : numberOf found .timeoutSecs = o.timeoutSecs := by
      apply findSome?_eq_of_perm h
      simp
    have hJson : found.any (·.1 == .json) = o.json := by
      rw [h.any_eq]
      cases hFlag : o.json <;> simp [hFlag]
    have hVerbose : found.any (·.1 == .verboseOutcomes) = o.verboseOutcomes := by
      rw [h.any_eq]
      cases hFlag : o.verboseOutcomes <;> simp [hFlag]
    simp only [Command.scope, commandOf, hTarget, hProxy, hWorkers, hMaxConcurrent, hJitter,
      hTimeout, hJson, hVerbose]
  | reference target expect =>
    have hTarget : textOf found .target = target := by
      apply findSome?_eq_of_perm h
      simp
    have hExpect : digestOf found = expect := by
      apply findSome?_eq_of_perm h
      simp
    simp only [Command.scope, commandOf, hTarget, hExpect]
  | fetch target proxy =>
    have hTarget : textOf found .target = target := by
      apply findSome?_eq_of_perm h
      simp
    have hProxy : textOf found .proxy = proxy := by
      apply findSome?_eq_of_perm h
      simp
    simp only [Command.scope, commandOf, hTarget, hProxy]
  | completions shell =>
    have hShell : shellOf found = some shell := by
      apply findSome?_eq_of_perm h
      simp
    simp only [Command.scope, commandOf, hShell]

end Found

-- ---------------------------------------------------------------------------
-- What a scope accepts
-- ---------------------------------------------------------------------------

theorem keys_textGiven (o : Opt) (s : Option String) :
    ((textGiven o s).map Prod.fst).Sublist [o] := by
  cases s <;> simp

theorem keys_numberGiven (o : Opt) (n : Option UInt64) :
    ((numberGiven o n).map Prod.fst).Sublist [o] := by
  cases n <;> simp

theorem keys_flagGiven (o : Opt) (b : Bool) : ((flagGiven o b).map Prod.fst).Sublist [o] := by
  cases b <;> simp

/-- A command gives options of its scope, in the order in which they are listed. -/
theorem keys_given (config : Option String) (c : Command) :
    ((textGiven .config config ++ c.given).map Prod.fst).Sublist
      (c.scope.options ++ if c.scope = .completions then [.shell] else []) := by
  have hConfig := keys_textGiven .config config
  rw [List.map_append]
  cases c with
  | run o =>
    -- two options at a time, in the order of the fields
    have hTexts := (keys_textGiven .target o.target).append (keys_textGiven .proxy o.proxy)
    have hCounts := (keys_numberGiven .workers o.workers).append
      (keys_numberGiven .maxConcurrent o.maxConcurrent)
    have hTimes := (keys_numberGiven .jitterMaxMs o.jitterMaxMs).append
      (keys_numberGiven .timeoutSecs o.timeoutSecs)
    have hFlags := (keys_flagGiven .json o.json).append
      (keys_flagGiven .verboseOutcomes o.verboseOutcomes)
    have hAll := hConfig.append (((hTexts.append hCounts).append hTimes).append hFlags)
    simpa [Command.scope, Scope.options] using hAll
  | reference target expect =>
    have hExpect : ((expect.toList.map fun d => (Opt.expect, Value.digest d)).map Prod.fst).Sublist
        [.expect] := by
      cases expect <;> simp
    have hAll := hConfig.append ((keys_textGiven .target target).append hExpect)
    simpa [Command.scope, Scope.options] using hAll
  | fetch target proxy =>
    have hTexts := (keys_textGiven .target target).append (keys_textGiven .proxy proxy)
    have hAll := hConfig.append hTexts
    simpa [Command.scope, Scope.options] using hAll
  | completions shell => simpa [Command.scope, Scope.options] using hConfig.append (.refl [.shell])

theorem takes_textGiven {o : Opt} (h : ∀ s, o.Takes (.text s)) (s : Option String) :
    ∀ entry ∈ textGiven o s, entry.1.Takes entry.2 := by
  cases s <;> simp [h]

theorem takes_numberGiven {o : Opt} (h : ∀ n, o.Takes (.number n)) (n : Option UInt64) :
    ∀ entry ∈ numberGiven o n, entry.1.Takes entry.2 := by
  cases n <;> simp [h]

theorem takes_flagGiven {o : Opt} (h : o.Takes .given) (b : Bool) :
    ∀ entry ∈ flagGiven o b, entry.1.Takes entry.2 := by
  cases b <;> simp [h]

theorem takes_given (c : Command) : ∀ entry ∈ c.given, entry.1.Takes entry.2 := by
  cases c with
  | run o =>
    simp only [Command.given, RunOptions.given, List.forall_mem_append]
    exact ⟨⟨⟨⟨⟨⟨⟨takes_textGiven .target _, takes_textGiven .proxy _⟩,
      takes_numberGiven .workers _⟩, takes_numberGiven .maxConcurrent _⟩,
      takes_numberGiven .jitterMaxMs _⟩, takes_numberGiven .timeoutSecs _⟩,
      takes_flagGiven .json _⟩, takes_flagGiven .verboseOutcomes _⟩
  | reference target expect =>
    rw [Command.given, List.forall_mem_append]
    refine ⟨takes_textGiven .target _, ?_⟩
    cases expect <;> simp [Opt.Takes.expect]
  | fetch target proxy =>
    rw [Command.given, List.forall_mem_append]
    exact ⟨takes_textGiven .target _, takes_textGiven .proxy _⟩
  | completions shell => simpa using Opt.Takes.shell shell

theorem takes_config {config : Option String} (hConfig : config ≠ some "") :
    ∀ entry ∈ textGiven .config config, entry.1.Takes entry.2 := by
  cases config with
  | none => simp
  | some path =>
    have hPath : path ≠ "" := fun hEmpty => hConfig (congrArg some hEmpty)
    simpa using Opt.Takes.config hPath

theorem accepts_given {config : Option String} (hConfig : config ≠ some "") (c : Command) :
    c.scope.Accepts (textGiven .config config ++ c.given) := by
  have hKeys := keys_given config c
  refine ⟨?_, ?_, ?_⟩
  · -- an option of the command, or the shell that completions are for
    intro entry hEntry
    have hMem := hKeys.subset (List.mem_map_of_mem hEntry)
    rcases List.mem_append.mp hMem with hOption | hShell
    · exact .inl hOption
    · split at hShell
      · next hScope => exact .inr ⟨hScope, List.mem_singleton.mp hShell⟩
      · contradiction
  · rw [List.forall_mem_append]
    exact ⟨takes_config hConfig, takes_given c⟩
  · have hListed (scope : Scope) :
        (scope.options ++ if scope = .completions then [Opt.shell] else []).Nodup := by
      cases scope <;> decide
    exact hKeys.nodup (hListed c.scope)

/-- The configuration file may also be named among the options of the program. -/
theorem accepts_config {config : Option String} (hConfig : config ≠ some "") :
    Scope.program.Accepts (textGiven .config config) := by
  have hKeys := keys_textGiven .config config
  refine ⟨?_, takes_config hConfig, hKeys.nodup (List.nodup_singleton _)⟩
  intro entry hEntry
  exact .inl (hKeys.subset (List.mem_map_of_mem hEntry))

theorem Scope.Accepts.of_perm {scope : Scope} {given given' : List (Opt × Value)}
    (h : scope.Accepts given) (hOrder : given'.Perm given) : scope.Accepts given' where
  admits entry hEntry := h.admits entry (hOrder.mem_iff.mp hEntry)
  takes entry hEntry := h.takes entry (hOrder.mem_iff.mp hEntry)
  nodup := (hOrder.map Prod.fst).nodup_iff.mpr h.nodup

-- ---------------------------------------------------------------------------
-- Command lines
-- ---------------------------------------------------------------------------

theorem readToEnd_spelled {scope : Scope} {given : List (Opt × Value)} {rest : List String}
    (h : Spelled given rest) (hAccepts : scope.Accepts given) {c : Command}
    (hCommand : commandOf scope given = .ok c) : readToEnd scope rest = .ok (c, given) := by
  obtain ⟨q, hSettle, hRead⟩ := @readScope_spelled scope given rest h .start [] rfl hAccepts
  have hRest : readScope scope .start false rest = .ok (q, .lineEnd) := by
    have hAll := hRead []
    rw [List.append_nil] at hAll
    rw [hAll, readScope]
  simp only [readToEnd, hRest, bind, Except.bind, hSettle, List.nil_append, hCommand]
  rfl

/-- A command whose options are spelled after its name, and the options of the program before. -/
theorem parse_spelled {front rest : List String} {before given : List (Opt × Value)}
    (hFront : Spelled before front) (hBefore : Scope.program.Accepts before)
    (hRest : Spelled given rest) {c : Command} (hGiven : c.scope.Accepts given)
    (hCommand : commandOf c.scope given = .ok c) :
    parse (front ++ c.scope.name :: rest)
      = .ok ⟨(textOf given .config).or (textOf before .config), c⟩ := by
  obtain ⟨q, hSettle, hRead⟩ :=
    @readScope_spelled .program before front hFront .start [] rfl hBefore
  have hName : Scope.ofName? c.scope.name = some c.scope := by cases c <;> rfl
  have hScope := readScope_command (Progress.awaiting?_of_settled hSettle) hName rest
  simp only [parse, hRead, hScope, bind, Except.bind, readToEnd_spelled hRest hGiven hCommand,
    hSettle, List.nil_append]
  rfl

/-- **An invocation is read as it is written.** -/
theorem parse_of_writes {i : Invocation} (hConfig : i.config ≠ some "") {args : List String}
    (h : i.Writes args) : parse args = .ok i := by
  obtain ⟨config, c⟩ := i
  cases h with
  | @after given rest hOrder hRest =>
    -- no file is named before the command, so all options are those of the command
    have hProgram : Scope.program.Accepts [] := @accepts_config none (by simp)
    have hParse := parse_spelled .nil hProgram hRest ((accepts_given hConfig c).of_perm hOrder)
      (commandOf_given hOrder)
    have hFound : (textOf given .config).or (textOf [] .config) = config := by
      rw [textOf_config hOrder]
      exact Option.or_none
    rwa [List.nil_append, hFound] at hParse
  | @before given front rest hFront hOrder hRest =>
    -- the file is not named again after the command
    have hGiven : given.Perm (textGiven .config none ++ c.given) := hOrder
    have hParse := parse_spelled hFront (accepts_config hConfig) hRest
      ((accepts_given (by simp) c).of_perm hGiven) (commandOf_given hGiven)
    have hFound :
        (textOf given .config).or (textOf (textGiven .config config) .config) = config := by
      rw [textOf_config hGiven]
      cases config <;> rfl
    rwa [hFound] at hParse

/-- **Every invocation can be written, with its options in any order, and is read as it is written;
a command line that gives an option of a command twice is refused.** -/
theorem parse_written_or_twice :
    (∀ i : Invocation, i.config ≠ some "" →
      (∀ given, given.Perm i.given → ∃ rest, Spelled given rest) ∧
      ∀ args, i.Writes args → parse args = .ok i) ∧
    ∀ o : Opt, o ≠ .config → ∀ (x y : String) (args : List String), [x, y].Sublist args →
      o.IsGivenBy x → o.IsGivenBy y → ∃ refusal, parse args = .error refusal := by
  refine ⟨?_, ?_⟩
  · intro i hConfig
    refine ⟨?_, fun args h => parse_of_writes hConfig h⟩
    intro given hOrder
    have hTakes := ((accepts_given hConfig i.command).of_perm hOrder).takes
    exact exists_spelled hTakes
  · intro o hOwn x y args hTwice hx hy
    cases hParse : parse args with
    | error refusal => exact ⟨refusal, rfl⟩
    | ok i =>
      -- of the two, an accepted command line would have found both
      have hCount := count_given_le_one hParse hOwn
      have hGiven := (hTwice.filterMap given?).count_le o
      simp only [List.filterMap_cons, given?_of_isGivenBy hx, given?_of_isGivenBy hy,
        List.filterMap_nil, List.count_cons_self, List.count_nil] at hGiven
      omega

/-- A run of seven workers whose target looks like an option. -/
def sevenWorkers : RunOptions :=
  { showing true false with target := some "-x", workers := some 7 }

theorem parse_written_or_twice_seven :
    parse ["run", "-n", "+07", "--config", "audit.toml", "--json", "--target=-x"]
        = .ok ⟨some "audit.toml", .run sevenWorkers⟩ ∧
      ∃ refusal, parse ["fetch", "--target=a", "--proxy", "b", "--target", "c"]
        = .error refusal := by
  refine ⟨?_, ?_⟩
  · -- the options in the order of the line, which is not that of the fields
    refine (parse_written_or_twice.1 ⟨some "audit.toml", .run sevenWorkers⟩ (by decide)).2 _ ?_
    have hSeven : IsNumeral 7 "+07" := ⟨['0', '7'], rfl, .inr rfl⟩
    have hOrder : [(Opt.workers, .number 7), (.config, .text "audit.toml"), (.json, .given),
        (.target, .text "-x")].Perm (Invocation.given ⟨some "audit.toml", .run sevenWorkers⟩) := by
      decide
    have hWorkers : Spells .workers "+07" ["-n", "+07"] := .short (by decide)
    have hConfig : Spells .config "audit.toml" ["--config", "audit.toml"] :=
      @Spells.apart .config "config" "audit.toml" rfl rfl (by decide)
    have hJson : Spells .json "" ["--json"] := @Spells.flag .json "json" rfl rfl
    have hTarget : Spells .target "-x" ["--target=-x"] :=
      @Spells.attached .target "target" rfl rfl "-x"
    exact .after hOrder <| .cons (.number hSeven) hWorkers <| .cons (.text _) hConfig <|
      .cons .given hJson <| .cons (.text _) hTarget .nil
  · have hTwice : ["--target=a", "--target"].Sublist
        ["fetch", "--target=a", "--proxy", "b", "--target", "c"] := by decide
    have hFirst : Opt.target.IsGivenBy "--target=a" :=
      @Opt.IsGivenBy.attached .target "target" rfl "a"
    have hSecond : Opt.target.IsGivenBy "--target" := @Opt.IsGivenBy.long .target "target" rfl
    exact parse_written_or_twice.2 .target (by decide) _ _ _ hTwice hFirst hSecond

end CommandLine

end ProxyAudit
