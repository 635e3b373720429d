import Mathlib
import ProxyAudit.Proofs.CommandLine.Spelling
import ProxyAudit.Proofs.Config.Misfits

/-!
# Options that are given twice

An argument that starts with a hyphen is never the value of the option before it. So each argument
that gives an option is read as giving it, wherever it stands, unless the command line is refused.

The options that have been given so far are those that have a value and the one whose value is
pending. Reading an argument adds the option that it gives, and reading a pending value takes none
away. A value is only kept of an option that has none, so in the end no option is there twice.

Main results:

* `readScope_cons_eq_ok`  — what reading one argument can do.
* `readScope_keys`        — every option that is given is found.
* `readScope_sound`       — no option is found twice.
* `count_given_le_one`    — a command line that is accepted gives each option of a command once.
-/

namespace ProxyAudit.CommandLine

open ProxyAudit.Config (map_eq_ok_iff bind_eq_ok_iff)

-- ---------------------------------------------------------------------------
-- Arguments that give an option
-- ---------------------------------------------------------------------------

/-- An argument gives an option, whatever its value may be. -/
inductive Opt.IsGivenBy : Opt → String → Prop where
  | long {o : Opt} {name : String} (hName : o.name? = some name) : IsGivenBy o ("--" ++ name)
  | attached {o : Opt} {name : String} (hName : o.name? = some name) (text : String) :
      IsGivenBy o ("--" ++ name ++ "=" ++ text)
  | short (text : String) : IsGivenBy .workers ("-n" ++ text)

/-- The option of a name, in whichever scope it may stand. -/
def Opt.ofName? (name : String) : Option Opt :=
  Scope.run.option? name <|> Scope.reference.option? name

/-- The option that an argument gives. -/
def given? (arg : String) : Option Opt :=
  match arg.toList with
  | '-' :: '-' :: cs => Opt.ofName? (cutAtEquals cs).1
  | '-' :: 'n' :: _ => some .workers
  | _ => none

theorem Opt.ofName?_eq {o : Opt} {name : String} (h : o.name? = some name) :
    ofName? name = some o := by
  cases o with
  | shell => contradiction
  | _ =>
    obtain rfl := Option.some.inj h
    rfl

theorem given?_of_isGivenBy {o : Opt} {arg : String} (h : o.IsGivenBy arg) :
    given? arg = some o := by
  cases h with
  | @long _ name hName =>
    have hPlain := (Opt.plain_name hName).2.1
    simp only [given?, toList_long, cutAtEquals_name hPlain, Opt.ofName?_eq hName]
  | @attached _ name hName text =>
    have hPlain := (Opt.plain_name hName).2.1
    simp only [given?, toList_attached, cutAtEquals_attached hPlain, Opt.ofName?_eq hName]
  | short text =>
    have hList : ("-n" ++ text).toList = '-' :: 'n' :: text.toList := by
      rw [String.toList_append]
      rfl
    simp [given?, hList]

/-- An argument that does not start with a hyphen gives no option. -/
theorem given?_of_plain {arg : String} (h : arg.toList.head? ≠ some '-') : given? arg = none := by
  unfold given?
  split
  · next hArg => exact absurd (congrArg List.head? hArg) h
  · next hArg => exact absurd (congrArg List.head? hArg) h
  · rfl

theorem given?_of_command {arg : String} {scope : Scope} (h : Scope.ofName? arg = some scope) :
    given? arg = none := by
  apply given?_of_plain
  intro hHyphen
  obtain ⟨cs, hList⟩ := List.head?_eq_some_iff.mp hHyphen
  rw [(ofName?_of_hyphen hList).2] at h
  contradiction

theorem given?_of_shell {arg : String} {v : Value} (h : Opt.shell.read arg = .ok v) :
    given? arg = none := by
  apply given?_of_plain
  cases hShell : Shell.ofName? arg with
  | none => simp [Opt.read, hShell] at h
  | some sh =>
    have hName := List.find?_some hShell
    obtain rfl : sh.name = arg := by simpa using hName
    cases sh <;> decide

-- ---------------------------------------------------------------------------
-- One argument
-- ---------------------------------------------------------------------------

/-- Reading one argument: what has been read before, whether nothing is an option any more, and
both afterwards. -/
inductive Step (scope : Scope) (p : Progress) : Bool → String → Bool → Progress → Prop where
  | dashes : Step scope p false "--" true p
  | begun {o : Opt} {arg : String} {attached : Option String} {q : Progress}
      (hOption : o ∈ scope.options) (hGiven : given? arg = some o)
      (hBegin : p.begin o attached = .ok q) : Step scope p false arg false q
  | value {o : Opt} {arg : String} (hAwaiting : p.awaiting? = some o) (hPlain : given? arg = none) :
      Step scope p false arg false { p with pending := some (o, some arg) }
  | unnamed {dashes : Bool} {arg : String} {q : Progress} (hScope : scope = .completions)
      (hSettle : p.settle = .ok q) :
      Step scope p dashes arg dashes { q with pending := some (.shell, some arg) }

section OneArgument

variable {scope : Scope} {p q : Progress} {arg : String}

theorem step_of_readLong {cs : List Char} (hArg : arg.toList = '-' :: '-' :: cs)
    (h : readLong scope p cs = .ok q) : Step scope p false arg false q := by
  unfold readLong at h
  split at h
  next name attached hCut =>
  split at h
  · split at h
    · contradiction
    · -- a call for help is a refusal, so nothing was read
      obtain ⟨_, _, hHelp⟩ := bind_eq_ok_iff.mp h
      contradiction
  · split at h
    · next o hOption =>
      obtain ⟨hMem, hName⟩ := Scope.mem_options_of_option? hOption
      have hGiven : given? arg = some o := by
        simp only [given?, hArg, hCut, Opt.ofName?_eq hName]
      exact .begun hMem hGiven h
    · contradiction

theorem step_of_readShort {c : Char} {cs : List Char} (hArg : arg.toList = '-' :: c :: cs)
    (h : readShort scope p c cs = .ok q) : Step scope p false arg false q := by
  unfold readShort at h
  split at h
  · obtain ⟨_, _, hHelp⟩ := bind_eq_ok_iff.mp h
    contradiction
  · split at h
    · next hShort =>
      obtain ⟨rfl, rfl⟩ := hShort
      have hGiven : given? arg = some .workers := by simp [given?, hArg]
      exact .begun (by decide) hGiven h
    · contradiction

theorem step_of_readPlain {dashes : Bool} (h : readPlain scope p dashes arg = .ok q) :
    Step scope p dashes arg dashes q := by
  unfold readPlain at h
  split at h
  · split at h
    · contradiction
    · obtain ⟨settled, hSettle, rfl⟩ := map_eq_ok_iff.mp h
      exact .unnamed rfl hSettle
  · split at h <;> contradiction
  · contradiction

/-- **What reading one argument can do**, if the command line is accepted. -/
theorem readScope_cons_eq_ok {dashes : Bool} {rest : List String} {r : Progress} {stop : Stop}
    (h : readScope scope p dashes (arg :: rest) = .ok (r, stop)) :
    (∃ dashes' q, Step scope p dashes arg dashes' q ∧
        readScope scope q dashes' rest = .ok (r, stop)) ∨
      ∃ inner, scope = .program ∧ Scope.ofName? arg = some inner ∧ r = p ∧
        stop = .command inner rest := by
  rw [readScope] at h
  split at h
  · -- after two dashes everything is a value without a name
    next hDashes =>
    obtain ⟨q, hPlain, hRest⟩ := bind_eq_ok_iff.mp h
    obtain rfl : dashes = true := hDashes
    exact .inl ⟨_, q, step_of_readPlain hPlain, hRest⟩
  · next hDashes =>
    obtain rfl : dashes = false := by simpa using hDashes
    split at h
    · contradiction
    · split at h
      · -- a name without dashes ends the options of the program, if it is that of a command
        next inner hCommand =>
        split at hCommand
        · next hProgram =>
          obtain ⟨rfl, hStop⟩ := Prod.mk.inj (Except.ok.inj h)
          exact .inr ⟨inner, hProgram.1, hCommand, rfl, hStop.symm⟩
        · contradiction
      · split at h
        · next hArg =>
          obtain rfl : arg = "--" := String.ext hArg
          exact .inl ⟨true, p, .dashes, h⟩
        · next hArg =>
          obtain ⟨q, hLong, hRest⟩ := bind_eq_ok_iff.mp h
          exact .inl ⟨false, q, step_of_readLong hArg hLong, hRest⟩
        · next hArg =>
          obtain ⟨q, hShort, hRest⟩ := bind_eq_ok_iff.mp h
          exact .inl ⟨false, q, step_of_readShort hArg hShort, hRest⟩
        · next hNotLong hNotShort =>
          split at h
          · -- an option that still wants its value takes the argument, which gives no option itself
            next hAwaiting =>
            obtain ⟨q, hValue, hRest⟩ := bind_eq_ok_iff.mp h
            obtain rfl := Except.ok.inj hValue
            have hPlain : given? arg = none := by
              unfold given?
              split
              · next hArg => exact (hNotLong _ hArg).elim
              · next hArg => exact (hNotShort _ _ hArg).elim
              · rfl
            exact .inl ⟨false, _, .value hAwaiting hPlain, hRest⟩
          · obtain ⟨q, hPlain, hRest⟩ := bind_eq_ok_iff.mp h
            exact .inl ⟨false, q, step_of_readPlain hPlain, hRest⟩

end OneArgument

-- ---------------------------------------------------------------------------
-- Every option that is given is found
-- ---------------------------------------------------------------------------

/-- The options that have been given: those that have a value, and the one whose value is
pending. -/
def Progress.keys (p : Progress) : List Opt :=
  p.found.map Prod.fst ++ (p.pending.map Prod.fst).toList

/-- What has not been read of a command line. -/
def Stop.unread : Stop → List String
  | lineEnd => []
  | command _ rest => rest

namespace Progress

variable {p q : Progress} {o : Opt}

theorem keys_keep {s : String} (hNone : p.pending = none) (h : p.keep o s = .ok q) :
    q.keys = p.keys ++ [o] := by
  obtain ⟨v, -, -, rfl⟩ := keep_eq_ok h
  simp [keys, hNone]

theorem keys_awaiting (hNone : p.pending = none) {text : Option String} :
    keys { p with pending := some (o, text) } = p.keys ++ [o] := by
  simp [keys, hNone]

theorem pending_of_awaiting (h : p.awaiting? = some o) : p.pending = some (o, none) := by
  unfold awaiting? at h
  split at h
  · next hPending => rw [hPending, Option.some.inj h]
  · contradiction

theorem keys_settle (h : p.settle = .ok q) : q.pending = none ∧ q.keys = p.keys := by
  rcases settle_eq_ok h with ⟨hNone, rfl⟩ | ⟨o, s, v, hPending, -, -, rfl⟩
  · exact ⟨hNone, rfl⟩
  · exact ⟨rfl, by simp [keys, hPending]⟩

/-- An option begins after the pending value has been read. -/
theorem begin_eq_ok {attached : Option String} (h : p.begin o attached = .ok q) :
    ∃ settled, p.settle = .ok settled ∧
      ((∃ s, settled.keep o s = .ok q) ∨ q = { settled with pending := some (o, none) }) := by
  unfold begin at h
  split at h
  · obtain ⟨settled, hSettle, hKeep⟩ := bind_eq_ok_iff.mp h
    exact ⟨settled, hSettle, .inl ⟨_, hKeep⟩⟩
  · obtain ⟨settled, hSettle, rfl⟩ := map_eq_ok_iff.mp h
    exact ⟨settled, hSettle, .inr rfl⟩
  · contradiction
  · obtain ⟨settled, hSettle, hKeep⟩ := bind_eq_ok_iff.mp h
    exact ⟨settled, hSettle, .inl ⟨_, hKeep⟩⟩

theorem keys_begin {attached : Option String} (h : p.begin o attached = .ok q) :
    q.keys = p.keys ++ [o] := by
  obtain ⟨settled, hSettle, hNow⟩ := begin_eq_ok h
  obtain ⟨hNone, hKeys⟩ := keys_settle hSettle
  rw [← hKeys]
  rcases hNow with ⟨s, hKeep⟩ | rfl
  · exact keys_keep hNone hKeep
  · exact keys_awaiting hNone

end Progress

section Run

variable {scope : Scope} {p q r : Progress} {dashes : Bool} {args : List String} {stop : Stop}

/-- A value that is pending can be read, if the command line is accepted. -/
theorem settles_of_readScope (h : readScope scope p dashes args = .ok (q, stop))
    (hSettle : q.settle = .ok r) (hFree : p.awaiting? = none) : ∃ s, p.settle = .ok s := by
  induction args generalizing dashes with
  | nil =>
    rw [readScope] at h
    obtain ⟨rfl, -⟩ := Prod.mk.inj (Except.ok.inj h)
    exact ⟨r, hSettle⟩
  | cons arg rest ih =>
    rcases readScope_cons_eq_ok h with ⟨dashes', p', hStep, hRest⟩ | ⟨inner, -, -, rfl, -⟩
    · cases hStep with
      | dashes => exact ih hRest
      | begun _ _ hBegin =>
        -- an option begins only after the value before it has been read
        obtain ⟨settled, hNow, -⟩ := Progress.begin_eq_ok hBegin
        exact ⟨settled, hNow⟩
      | value hAwaiting =>
        rw [hFree] at hAwaiting
        contradiction
      | unnamed _ hNow => exact ⟨_, hNow⟩
    · exact ⟨r, hSettle⟩

/-- **Every option that is given is found**, in the order of the arguments. -/
theorem readScope_keys (h : readScope scope p dashes args = .ok (q, stop))
    (hSettle : q.settle = .ok r) :
    (p.keys ++ args.filterMap given?).Sublist (r.keys ++ stop.unread.filterMap given?) := by
  -- on the arguments that are left, for whatever was read before them
  induction args generalizing p dashes with
  | nil =>
    rw [readScope] at h
    obtain ⟨rfl, rfl⟩ := Prod.mk.inj (Except.ok.inj h)
    rw [(Progress.keys_settle hSettle).2]
    exact .refl _
  | cons arg rest ih =>
    rcases readScope_cons_eq_ok h with ⟨dashes', p', hStep, hRest⟩ | ⟨inner, -, hCommand, rfl, rfl⟩
    · have hLater := ih hRest
      cases hStep with
      | dashes => exact hLater
      | begun _ hGiven hBegin =>
        rw [Progress.keys_begin hBegin, List.append_assoc] at hLater
        rw [List.filterMap_cons_some hGiven]
        exact hLater
      | @value o _ hAwaiting hPlain =>
        -- the value of an option that has been counted already
        have hKeys : Progress.keys { p with pending := some (o, some arg) } = p.keys := by
          simp [Progress.keys, Progress.pending_of_awaiting hAwaiting]
        rw [hKeys] at hLater
        rw [List.filterMap_cons_none hPlain]
        exact hLater
      | unnamed _ hNow =>
        -- the shell must have a name in the end, so the argument is none that gives an option
        obtain ⟨settled, hSettled⟩ := settles_of_readScope hRest hSettle rfl
        obtain ⟨v, hShell, -⟩ := Progress.keep_eq_ok hSettled
        obtain ⟨hNone, hKeys⟩ := Progress.keys_settle hNow
        rw [Progress.keys_awaiting hNone, hKeys] at hLater
        rw [List.filterMap_cons_none (given?_of_shell hShell)]
        have hFewer : p.keys.Sublist (p.keys ++ [.shell]) := List.sublist_append_left ..
        exact (hFewer.append_right _).trans hLater
    · rw [(Progress.keys_settle hSettle).2, List.filterMap_cons_none (given?_of_command hCommand)]
      exact .refl _

end Run

-- ---------------------------------------------------------------------------
-- No option is found twice
-- ---------------------------------------------------------------------------

/-- What has been read of a scope: options that may stand there, and one value of each. -/
structure Progress.Sound (scope : Scope) (p : Progress) : Prop where
  admits : ∀ o ∈ p.keys, scope.Admits o
  nodup : (p.found.map Prod.fst).Nodup

theorem nodup_concat {found : List (Opt × Value)} (hNodup : (found.map Prod.fst).Nodup) {o : Opt}
    (hNew : o ∉ found.map Prod.fst) {v : Value} : ((found ++ [(o, v)]).map Prod.fst).Nodup := by
  rw [List.map_append, List.map_singleton]
  exact List.nodup_append_comm.mp (List.nodup_cons.mpr ⟨hNew, hNodup⟩)

namespace Progress.Sound

variable {scope : Scope} {p q : Progress} {o : Opt}

theorem start : Progress.start.Sound scope :=
  ⟨fun _ h => absurd h List.not_mem_nil, List.nodup_nil⟩

theorem keep (h : p.Sound scope) (hNone : p.pending = none) (hAdmits : scope.Admits o) {s : String}
    (hKeep : p.keep o s = .ok q) : q.Sound scope := by
  refine ⟨?_, ?_⟩
  · rw [keys_keep hNone hKeep]
    simp only [List.forall_mem_append, List.forall_mem_singleton]
    exact ⟨h.admits, hAdmits⟩
  · obtain ⟨v, -, hNew, rfl⟩ := keep_eq_ok hKeep
    exact nodup_concat h.nodup hNew

theorem awaiting (h : p.Sound scope) (hNone : p.pending = none) (hAdmits : scope.Admits o)
    {text : Option String} : Progress.Sound scope { p with pending := some (o, text) } := by
  refine ⟨?_, h.nodup⟩
  rw [keys_awaiting hNone]
  simp only [List.forall_mem_append, List.forall_mem_singleton]
  exact ⟨h.admits, hAdmits⟩

theorem settle (h : p.Sound scope) (hSettle : p.settle = .ok q) : q.Sound scope := by
  refine ⟨?_, ?_⟩
  · rw [(keys_settle hSettle).2]
    exact h.admits
  · rcases settle_eq_ok hSettle with ⟨-, rfl⟩ | ⟨o, s, v, -, -, hNew, rfl⟩
    · exact h.nodup
    · exact nodup_concat h.nodup hNew

/-- One argument adds an option of the scope at most, and none that has a value. -/
theorem step (h : p.Sound scope) {dashes dashes' : Bool} {arg : String}
    (hStep : Step scope p dashes arg dashes' q) : q.Sound scope := by
  cases hStep with
  | dashes => exact h
  | begun hOption _ hBegin =>
    obtain ⟨settled, hSettle, hNow⟩ := begin_eq_ok hBegin
    have hNone := (keys_settle hSettle).1
    -- found with its value, or pending without one: it is an option of the scope either way
    rcases hNow with ⟨s, hKeep⟩ | rfl
    · exact (h.settle hSettle).keep hNone (.inl hOption) hKeep
    · exact (h.settle hSettle).awaiting hNone (.inl hOption)
  | value hAwaiting =>
    refine ⟨?_, h.nodup⟩
    have hSame := h.admits
    simp only [keys, pending_of_awaiting hAwaiting] at hSame
    exact hSame
  | unnamed hScope hSettle =>
    exact (h.settle hSettle).awaiting (keys_settle hSettle).1 (.inr ⟨hScope, rfl⟩)

end Progress.Sound

/-- **No option is found twice.** -/
theorem readScope_sound {scope : Scope} {p q : Progress} {dashes : Bool} {args : List String}
    {stop : Stop} (hSound : p.Sound scope)
    (h : readScope scope p dashes args = .ok (q, stop)) : q.Sound scope := by
  induction args generalizing p dashes with
  | nil =>
    rw [readScope] at h
    obtain ⟨rfl, -⟩ := Prod.mk.inj (Except.ok.inj h)
    exact hSound
  | cons arg rest ih =>
    rcases readScope_cons_eq_ok h with ⟨dashes', p', hStep, hRest⟩ | ⟨inner, -, -, rfl, -⟩
    · exact ih (hSound.step hStep) hRest
    · exact hSound

-- ---------------------------------------------------------------------------
-- Command lines
-- ---------------------------------------------------------------------------

theorem Scope.ne_program_of_ofName? {name : String} {scope : Scope}
    (h : ofName? name = some scope) : scope ≠ .program := by
  unfold ofName? at h
  split at h <;> first | contradiction | (obtain rfl := Option.some.inj h; decide)

/-- Only the options of the program end at a command. -/
theorem readScope_stop {scope : Scope} {p q : Progress} {dashes : Bool} {args : List String}
    {stop : Stop} (h : readScope scope p dashes args = .ok (q, stop)) :
    stop = .lineEnd ∨
      ∃ inner rest, scope = .program ∧ inner ≠ .program ∧ stop = .command inner rest := by
  induction args generalizing p dashes with
  | nil =>
    rw [readScope] at h
    exact .inl (Prod.mk.inj (Except.ok.inj h)).2.symm
  | cons arg rest ih =>
    rcases readScope_cons_eq_ok h with ⟨_, _, -, hRest⟩ | ⟨inner, hProgram, hCommand, -, hStop⟩
    · exact ih hRest
    · exact .inr ⟨inner, rest, hProgram, Scope.ne_program_of_ofName? hCommand, hStop⟩

/-- What a scope says in the end has each option once, and it is what the arguments give. -/
theorem readScope_start {scope : Scope} {args : List String} {q r : Progress} {stop : Stop}
    (h : readScope scope .start false args = .ok (q, stop)) (hSettle : q.settle = .ok r) :
    (args.filterMap given?).Sublist (r.found.map Prod.fst ++ stop.unread.filterMap given?) ∧
      r.Sound scope := by
  have hKeys := readScope_keys h hSettle
  have hNone := (Progress.keys_settle hSettle).1
  refine ⟨?_, (readScope_sound .start h).settle hSettle⟩
  simpa [Progress.keys, Progress.start, hNone] using hKeys

/-- A command is followed by the options of a command. -/
theorem count_given_readToEnd {scope : Scope} (hScope : scope ≠ .program) {args : List String}
    {command : Command} {inner : List (Opt × Value)}
    (h : readToEnd scope args = .ok (command, inner)) (o : Opt) :
    (args.filterMap given?).count o ≤ 1 := by
  obtain ⟨⟨p, stop⟩, hRead, hRest⟩ := bind_eq_ok_iff.mp h
  obtain ⟨r, hSettle, -⟩ := bind_eq_ok_iff.mp hRest
  have hStop : stop.unread = [] := by
    rcases readScope_stop hRead with rfl | ⟨_, _, hProgram, -⟩
    · rfl
    · exact absurd hProgram hScope
  obtain ⟨hFound, hSound⟩ := readScope_start hRead hSettle
  rw [hStop, List.filterMap_nil, List.append_nil] at hFound
  calc (args.filterMap given?).count o ≤ (r.found.map Prod.fst).count o := hFound.count_le o
    _ ≤ 1 := List.nodup_iff_count_le_one.mp hSound.nodup o

/-- **A command line that is accepted gives each option of a command once.** -/
theorem count_given_le_one {args : List String} {i : Invocation} (h : parse args = .ok i) {o : Opt}
    (hOwn : o ≠ .config) : (args.filterMap given?).count o ≤ 1 := by
  obtain ⟨⟨p, stop⟩, hRead, hRest⟩ := bind_eq_ok_iff.mp h
  cases stop with
  | lineEnd =>
    -- without a command there is no invocation
    obtain ⟨r, hSettle, hEnd⟩ := bind_eq_ok_iff.mp hRest
    obtain ⟨_, hCommand, -⟩ := bind_eq_ok_iff.mp hEnd
    contradiction
  | command scope rest =>
    obtain ⟨⟨command, inner⟩, hInner, hEnd⟩ := bind_eq_ok_iff.mp hRest
    obtain ⟨r, hSettle, -⟩ := bind_eq_ok_iff.mp hEnd
    obtain ⟨hFound, hSound⟩ := readScope_start hRead hSettle
    have hScope : scope ≠ .program := by
      rcases readScope_stop hRead with hEnd | ⟨_, _, -, hInner, hStop⟩
      · contradiction
      · rw [(Stop.command.inj hStop).1]
        exact hInner
    -- before the command only the file can be named
    have hAbsent : (r.found.map Prod.fst).count o = 0 := by
      rw [List.count_eq_zero]
      intro hMem
      rcases hSound.admits o (List.mem_append_left _ hMem) with hOption | ⟨hScope, -⟩
      · exact hOwn (List.mem_singleton.mp hOption)
      · contradiction
    calc (args.filterMap given?).count o
        ≤ (r.found.map Prod.fst ++ rest.filterMap given?).count o := hFound.count_le o
      _ = (rest.filterMap given?).count o := by rw [List.count_append, hAbsent, Nat.zero_add]
      _ ≤ 1 := count_given_readToEnd hScope hInner o

end ProxyAudit.CommandLine
