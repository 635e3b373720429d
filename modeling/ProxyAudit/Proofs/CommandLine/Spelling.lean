import Mathlib
import ProxyAudit.Proofs.CommandLine.Commands
import ProxyAudit.Proofs.Digest.Canonical

/-!
# Spellings of options

An option is spelled with its value attached to its name, or with the value as the next argument, if
that does not look like an option itself. The number of workers has a short name, flags stand alone,
and the shell has no name at all. A value may be written in any way that denotes it.

Options that are spelled one after another are read as they were given, in that order, wherever an
option may stand. A value that follows its option is only read when the next option begins, so the
state of the reader is told by what it comes to once the pending value is read.

Main results:

* `readNumber_of_isNumeral`  — a numeral is read as its number.
* `read_of_denotes`          — a text is read as the value that it denotes.
* `readScope_spells`         — one option is read as it is spelled.
* `readScope_spelled`        — so are options one after another.
-/

namespace ProxyAudit.CommandLine

-- ---------------------------------------------------------------------------
-- Values
-- ---------------------------------------------------------------------------

/-- A text is a number in decimal, perhaps with a plus sign and with leading zeros. -/
def IsNumeral (n : UInt64) (s : String) : Prop :=
  ∃ ds, Decimal.toNat? ds = some n.toNat ∧ (s.toList = ds ∨ s.toList = '+' :: ds)

/-- A text denotes a value. -/
inductive Denotes : Value → String → Prop where
  | text (s : String) : Denotes (.text s) s
  | number {n : UInt64} {s : String} (h : IsNumeral n s) : Denotes (.number n) s
  | digest {d : Digest} {s : String} (h : Digest.parse s = .ok d) : Denotes (.digest d) s
  | shell (sh : Shell) : Denotes (.shell sh) sh.name
  | given : Denotes .given ""

/-- A value is of the kind that an option takes. A configuration file has a name. -/
inductive Opt.Takes : Opt → Value → Prop where
  | config {s : String} (h : s ≠ "") : Takes .config (.text s)
  | target (s : String) : Takes .target (.text s)
  | proxy (s : String) : Takes .proxy (.text s)
  | workers (n : UInt64) : Takes .workers (.number n)
  | maxConcurrent (n : UInt64) : Takes .maxConcurrent (.number n)
  | jitterMaxMs (n : UInt64) : Takes .jitterMaxMs (.number n)
  | timeoutSecs (n : UInt64) : Takes .timeoutSecs (.number n)
  | expect (d : Digest) : Takes .expect (.digest d)
  | json : Takes .json .given
  | verboseOutcomes : Takes .verboseOutcomes .given
  | shell (sh : Shell) : Takes .shell (.shell sh)

/-- A number only grows with its digits. -/
theorem le_of_foldlM_digits {n m : Nat} {cs : List Char}
    (h : cs.foldlM (fun n c => (Decimal.value? c).map (10 * n + ·)) n = some m) : n ≤ m := by
  induction cs generalizing n with
  | nil => exact (Option.some.inj h).le
  | cons c cs ih =>
    obtain ⟨n', hDigit, hRest⟩ := Option.bind_eq_some_iff.mp h
    obtain ⟨d, -, rfl⟩ := Option.map_eq_some_iff.mp hDigit
    have := ih hRest
    omega

theorem readDigits_eq {n : Nat} {w : UInt64} {cs : List Char}
    (h : cs.foldlM (fun n c => (Decimal.value? c).map (10 * n + ·)) n = some w.toNat) :
    readDigits n cs = .ok w := by
  induction cs generalizing n with
  | nil =>
    obtain rfl : n = w.toNat := Option.some.inj h
    rw [readDigits, UInt64.ofNat_toNat]
  | cons c cs ih =>
    obtain ⟨n', hDigit, hRest⟩ := Option.bind_eq_some_iff.mp h
    obtain ⟨d, hValue, rfl⟩ := Option.map_eq_some_iff.mp hDigit
    -- the number only grows with more digits, so it has not left the word yet
    have hFits : 10 * n + d < 0x10000000000000000 :=
      Nat.lt_of_le_of_lt (le_of_foldlM_digits hRest) w.toNat_lt
    rw [readDigits, hValue]
    simp only [hFits, if_true]
    exact ih hRest

/-- **A numeral is read as its number.** -/
theorem readNumber_of_isNumeral {n : UInt64} {s : String} (h : IsNumeral n s) :
    readNumber s = .ok n := by
  obtain ⟨ds, hNumber, hText⟩ := h
  cases ds with
  | nil => contradiction
  | cons c cs =>
    have hDigits : readDigits 0 (c :: cs) = .ok n := readDigits_eq hNumber
    rcases hText with hText | hText
    · -- a plus in front is not read as a digit
      have hDigit : c ≠ '+' := by
        rintro rfl
        have hNone : Decimal.value? '+' = none := by decide
        simp [Decimal.toNat?, hNone] at hNumber
      unfold readNumber
      rw [hText]
      split
      · contradiction
      · next hPlus => exact absurd (List.cons.inj hPlus).1 hDigit
      · next hPlus => exact absurd (List.cons.inj hPlus).1 hDigit
      · exact hDigits
    · rw [readNumber, hText]
      exact hDigits

theorem isNumeral_text (n : UInt64) : IsNumeral n (Decimal.text n.toNat) :=
  ⟨Decimal.ofNat n.toNat, Decimal.toNat?_ofNat _, .inl String.toList_ofList⟩

/-- **A text is read as the value that it denotes.** -/
theorem read_of_denotes {o : Opt} {v : Value} {s : String} (h : o.Takes v) (hText : Denotes v s) :
    o.read s = .ok v := by
  cases hText with
  | text s =>
    cases h with
    | config hNonempty => rw [Opt.read, if_neg hNonempty]
    | target | proxy => rfl
  | number hNumeral => cases h <;> simp only [Opt.read, readNumber_of_isNumeral hNumeral]
  | digest hParse =>
    cases h
    simp only [Opt.read, hParse]
  | shell sh =>
    have hName : Shell.ofName? sh.name = some sh := by cases sh <;> decide
    cases h
    simp only [Opt.read, hName]
  | given => cases h <;> rfl

/-- Every value can be written. -/
theorem exists_denotes (v : Value) : ∃ s, Denotes v s := by
  cases v with
  | text s => exact ⟨s, .text s⟩
  | number n => exact ⟨_, .number (isNumeral_text n)⟩
  | digest d => exact ⟨_, .digest d.parse_text⟩
  | shell sh => exact ⟨_, .shell sh⟩
  | given => exact ⟨_, .given⟩

-- ---------------------------------------------------------------------------
-- Names
-- ---------------------------------------------------------------------------

/-- An option may stand in a scope. -/
def Scope.Admits (scope : Scope) (o : Opt) : Prop :=
  o ∈ scope.options ∨ scope = .completions ∧ o = .shell

theorem Opt.name?_inj {o o' : Opt} {name : String} (h : o.name? = some name)
    (h' : o'.name? = some name) : o = o' := by
  have hSame : o.name? = o'.name? := h.trans h'.symm
  cases o <;> cases o' <;> first | rfl | contradiction

theorem Scope.mem_options_of_option? {scope : Scope} {name : String} {o : Opt}
    (h : scope.option? name = some o) : o ∈ scope.options ∧ o.name? = some name := by
  have hName := List.find?_some h
  exact ⟨List.mem_of_find?_eq_some h, by simpa using hName⟩

theorem Scope.option?_eq {scope : Scope} {name : String} {o : Opt} (h : o ∈ scope.options)
    (hName : o.name? = some name) : scope.option? name = some o := by
  cases hFound : scope.option? name with
  | none =>
    have hOther := List.find?_eq_none.mp hFound o h
    simp [hName] at hOther
  | some o' =>
    have hSame : o' = o := Opt.name?_inj (mem_options_of_option? hFound).2 hName
    rw [hSame]

/-- A name is a word without an equals sign, and it does not ask for help. -/
theorem Opt.plain_name {o : Opt} {name : String} (h : o.name? = some name) :
    name ≠ "help" ∧ (∀ c ∈ name.toList, c ≠ '=') ∧ name.toList ≠ [] := by
  cases o with
  | shell => contradiction
  | _ =>
    obtain rfl := Option.some.inj h
    refine ⟨by decide, ?_, by decide⟩
    simp

theorem cutAtEquals_name {name : String} (h : ∀ c ∈ name.toList, c ≠ '=') :
    cutAtEquals name.toList = (name, none) := by
  have hWhole : name.toList.takeWhile (· ≠ '=') = name.toList :=
    List.takeWhile_eq_self_iff.mpr (by simpa using h)
  simp only [cutAtEquals, hWhole, lt_irrefl, if_false, String.ofList_toList]

theorem cutAtEquals_attached {name : String} (h : ∀ c ∈ name.toList, c ≠ '=') (text : String) :
    cutAtEquals (name.toList ++ '=' :: text.toList) = (name, some text) := by
  have hName : (name.toList ++ '=' :: text.toList).takeWhile (· ≠ '=') = name.toList := by
    rw [List.takeWhile_append_of_pos (by simpa using h)]
    simp
  simp only [cutAtEquals, hName, String.ofList_toList]
  simp

-- ---------------------------------------------------------------------------
-- One option
-- ---------------------------------------------------------------------------

/-- The ways to spell an option with the text of its value. -/
inductive Spells : Opt → String → List String → Prop where
  | attached {o : Opt} {name : String} (hName : o.name? = some name) (hValue : o.takesValue = true)
      (text : String) : Spells o text ["--" ++ name ++ "=" ++ text]
  | apart {o : Opt} {name text : String} (hName : o.name? = some name)
      (hValue : o.takesValue = true) (hPlain : text.toList.head? ≠ some '-') :
      Spells o text ["--" ++ name, text]
  | short {text : String} (hPlain : text.toList.head? ≠ some '-') :
      Spells .workers text ["-n", text]
  | flag {o : Opt} {name : String} (hName : o.name? = some name) (hFlag : o.takesValue = false) :
      Spells o "" ["--" ++ name]
  | unnamed {text : String} (hPlain : text.toList.head? ≠ some '-') : Spells .shell text [text]

theorem any_eq_false_of_not_mem {found : List (Opt × Value)} {o : Opt}
    (h : o ∉ found.map Prod.fst) : found.any (·.1 == o) = false := by
  rw [List.any_eq_false]
  intro entry hEntry hSame
  exact h (beq_iff_eq.mp hSame ▸ List.mem_map_of_mem hEntry)

section Settling

variable {found : List (Opt × Value)} {o : Opt} {v : Value} {s : String}

namespace Progress

theorem keep_eq (hRead : o.read s = .ok v) (hNew : o ∉ found.map Prod.fst) :
    (⟨found, none⟩ : Progress).keep o s = .ok ⟨found ++ [(o, v)], none⟩ := by
  rw [keep, any_eq_false_of_not_mem hNew, hRead]
  rfl

/-- What is kept is the value that was read, of an option that had none. -/
theorem keep_eq_ok {p q : Progress} (h : p.keep o s = .ok q) :
    ∃ v, o.read s = .ok v ∧ o ∉ p.found.map Prod.fst ∧
      q = ⟨p.found ++ [(o, v)], p.pending⟩ := by
  unfold keep at h
  split at h
  · contradiction
  · next hAbsent =>
    cases hRead : o.read s with
    | error e => simp [hRead, Except.map] at h
    | ok v =>
      refine ⟨v, rfl, ?_, ?_⟩
      · -- what was found before has other keys
        intro hMem
        obtain ⟨entry, hEntry, hSame⟩ := List.mem_map.mp hMem
        exact hAbsent (List.any_eq_true.mpr ⟨entry, hEntry, beq_iff_eq.mpr hSame⟩)
      · rw [hRead] at h
        exact (Except.ok.inj h).symm

/-- Nothing is pending, or a value that can be read. -/
theorem settle_eq_ok {p q : Progress} (h : p.settle = .ok q) :
    p.pending = none ∧ q = p ∨
      ∃ o s v, p.pending = some (o, some s) ∧ o.read s = .ok v ∧ o ∉ p.found.map Prod.fst ∧
        q = ⟨p.found ++ [(o, v)], none⟩ := by
  unfold settle at h
  split at h
  · next hNone => exact .inl ⟨hNone, (Except.ok.inj h).symm⟩
  · contradiction
  · next o s hPending =>
    obtain ⟨v, hRead, hNew, rfl⟩ := keep_eq_ok h
    exact .inr ⟨o, s, v, hPending, hRead, hNew, rfl⟩

section Settled

variable {p : Progress} (hSettle : p.settle = .ok ⟨found, none⟩)
include hSettle

theorem awaiting?_of_settled : p.awaiting? = none := by
  rcases settle_eq_ok hSettle with ⟨hNone, -⟩ | ⟨o, s, v, hPending, -⟩
  · rw [awaiting?, hNone]
  · rw [awaiting?, hPending]

theorem hasShell_of_settled : p.hasShell = found.any (·.1 == .shell) := by
  rcases settle_eq_ok hSettle with ⟨hNone, hFound⟩ | ⟨o, s, v, hPending, -, -, hFound⟩
  · rw [hasShell, hNone, ← hFound]
    simp
  · rw [hasShell, hPending, (Progress.mk.inj hFound).1]
    simp

theorem begin_attached (hValue : o.takesValue = true) (hRead : o.read s = .ok v)
    (hNew : o ∉ found.map Prod.fst) :
    p.begin o (some s) = .ok ⟨found ++ [(o, v)], none⟩ := by
  simp only [begin, hValue, hSettle, Except.bind]
  exact keep_eq hRead hNew

theorem begin_apart (hValue : o.takesValue = true) :
    p.begin o none = .ok ⟨found, some (o, none)⟩ := by
  simp only [begin, hValue, hSettle]
  rfl

theorem begin_flag (hFlag : o.takesValue = false) (hRead : o.read "" = .ok v)
    (hNew : o ∉ found.map Prod.fst) :
    p.begin o none = .ok ⟨found ++ [(o, v)], none⟩ := by
  simp only [begin, hFlag, hSettle, Except.bind]
  exact keep_eq hRead hNew

end Settled

/-- A value that follows its option is read in the end. -/
theorem settle_pending (hRead : o.read s = .ok v) (hNew : o ∉ found.map Prod.fst) :
    (⟨found, some (o, some s)⟩ : Progress).settle = .ok ⟨found ++ [(o, v)], none⟩ :=
  keep_eq hRead hNew

end Progress

end Settling

section Reading

variable {scope : Scope} {p : Progress}

theorem readScope_long {arg : String} {cs : List Char} (h : arg.toList = '-' :: '-' :: cs)
    (hName : cs ≠ []) (rest : List String) :
    readScope scope p false (arg :: rest)
      = (readLong scope p cs).bind fun q => readScope scope q false rest := by
  obtain ⟨hNotHelp, hNoCommand⟩ := ofName?_of_hyphen h
  rw [readScope]
  simp only [hNotHelp, hNoCommand, h, ite_self]
  cases cs with
  | nil => contradiction
  | cons c cs => simp

theorem readScope_short {arg : String} {c : Char} {cs : List Char} (h : arg.toList = '-' :: c :: cs)
    (hShort : c ≠ '-') (rest : List String) :
    readScope scope p false (arg :: rest)
      = (readShort scope p c cs).bind fun q => readScope scope q false rest := by
  obtain ⟨hNotHelp, hNoCommand⟩ := ofName?_of_hyphen h
  rw [readScope]
  simp only [hNotHelp, hNoCommand, h, ite_self]
  simp [hShort]

/-- An argument that is awaited is the value. -/
theorem readScope_awaited {o : Opt} (hAwaiting : p.awaiting? = some o) {arg : String}
    (hPlain : arg.toList.head? ≠ some '-') (rest : List String) :
    readScope scope p false (arg :: rest)
      = readScope scope { p with pending := some (o, some arg) } false rest := by
  rw [readScope]
  simp only [hAwaiting]
  cases hArg : arg.toList with
  | nil => simp [Except.bind]
  | cons c cs =>
    have hc : c ≠ '-' := by simpa [hArg] using hPlain
    simp [hc, Except.bind]

theorem readScope_unnamed (hFree : p.awaiting? = none) (hScope : scope ≠ .program) {arg : String}
    (hPlain : arg.toList.head? ≠ some '-') (rest : List String) :
    readScope scope p false (arg :: rest)
      = (readPlain scope p false arg).bind fun q => readScope scope q false rest := by
  rw [readScope]
  simp only [hFree, hScope]
  cases hArg : arg.toList with
  | nil => simp
  | cons c cs =>
    have hc : c ≠ '-' := by simpa [hArg] using hPlain
    simp [hc]

variable {o : Opt} {name : String}

theorem readLong_name (hOption : o ∈ scope.options) (hName : o.name? = some name) :
    readLong scope p name.toList = p.begin o none := by
  obtain ⟨hNotHelp, hPlain, -⟩ := Opt.plain_name hName
  simp only [readLong, cutAtEquals_name hPlain, if_neg hNotHelp, Scope.option?_eq hOption hName]

theorem readLong_attached (hOption : o ∈ scope.options) (hName : o.name? = some name)
    (text : String) :
    readLong scope p (name.toList ++ '=' :: text.toList) = p.begin o (some text) := by
  obtain ⟨hNotHelp, hPlain, -⟩ := Opt.plain_name hName
  simp only [readLong, cutAtEquals_attached hPlain, if_neg hNotHelp,
    Scope.option?_eq hOption hName]

end Reading

theorem toList_long (name : String) : ("--" ++ name).toList = '-' :: '-' :: name.toList := by
  rw [String.toList_append]
  rfl

theorem toList_attached (name text : String) :
    ("--" ++ name ++ "=" ++ text).toList = '-' :: '-' :: (name.toList ++ '=' :: text.toList) := by
  simp [String.toList_append]

/-- An option that has a name stands among the options of its scope. -/
theorem Scope.Admits.mem_options {scope : Scope} {o : Opt} {name : String} (h : scope.Admits o)
    (hName : o.name? = some name) : o ∈ scope.options := by
  rcases h with hOption | ⟨-, rfl⟩
  · exact hOption
  · contradiction

/-- **One option is read as it is spelled.** -/
theorem readScope_spells {scope : Scope} {p : Progress} {found : List (Opt × Value)}
    (hSettle : p.settle = .ok ⟨found, none⟩) {o : Opt} {v : Value} {text : String}
    {now : List String} (hAdmits : scope.Admits o) (hRead : o.read text = .ok v)
    (hSpells : Spells o text now) (hNew : o ∉ found.map Prod.fst) :
    ∃ q, q.settle = .ok ⟨found ++ [(o, v)], none⟩ ∧
      ∀ rest, readScope scope p false (now ++ rest) = readScope scope q false rest := by
  cases hSpells with
  | @attached _ name hName hValue _ =>
    -- the name and the text are one argument, so the value is there at once
    refine ⟨⟨found ++ [(o, v)], none⟩, rfl, ?_⟩
    intro rest
    rw [List.singleton_append, readScope_long (toList_attached name text) (by simp),
      readLong_attached (hAdmits.mem_options hName) hName,
      Progress.begin_attached hSettle hValue hRead hNew]
    rfl
  | @apart _ name _ hName hValue hPlain =>
    -- the option waits for its text, which must not look like an option
    refine ⟨⟨found, some (o, some text)⟩, Progress.settle_pending hRead hNew, ?_⟩
    intro rest
    show readScope scope p false (("--" ++ name) :: text :: rest) = _
    rw [readScope_long (toList_long name) (Opt.plain_name hName).2.2,
      readLong_name (hAdmits.mem_options hName) hName, Progress.begin_apart hSettle hValue]
    exact readScope_awaited rfl hPlain rest
  | short hPlain =>
    refine ⟨⟨found, some (.workers, some text)⟩, Progress.settle_pending hRead hNew, ?_⟩
    intro rest
    -- only a run has an option with a letter
    have hScope : scope = .run := by
      rcases hAdmits with hOption | ⟨-, hOther⟩
      · cases scope <;> first | rfl | (revert hOption; decide)
      · contradiction
    have hList : "-n".toList = ['-', 'n'] := rfl
    have hShort : readShort scope p 'n' [] = .ok ⟨found, some (.workers, none)⟩ := by
      have hBegin := Progress.begin_apart (o := .workers) hSettle rfl
      simpa [readShort, hScope] using hBegin
    show readScope scope p false ("-n" :: text :: rest) = _
    rw [readScope_short hList (by decide), hShort]
    exact readScope_awaited rfl hPlain rest
  | @flag _ name hName hFlag =>
    refine ⟨⟨found ++ [(o, v)], none⟩, rfl, ?_⟩
    intro rest
    rw [List.singleton_append, readScope_long (toList_long name) (Opt.plain_name hName).2.2,
      readLong_name (hAdmits.mem_options hName) hName,
      Progress.begin_flag hSettle hFlag hRead hNew]
    rfl
  | unnamed hPlain =>
    refine ⟨⟨found, some (.shell, some text)⟩, Progress.settle_pending hRead hNew, ?_⟩
    intro rest
    -- only the command for completions has an argument without a name
    have hScope : scope = .completions := by
      rcases hAdmits with hOption | ⟨hScope, -⟩
      · cases scope <;> revert hOption <;> decide
      · exact hScope
    have hNoShell : p.hasShell = false := by
      rw [Progress.hasShell_of_settled hSettle, any_eq_false_of_not_mem hNew]
    have hUnnamed : readPlain scope p false text = .ok ⟨found, some (.shell, some text)⟩ := by
      rw [hScope]
      simp only [readPlain, hNoShell, hSettle]
      rfl
    rw [List.singleton_append, readScope_unnamed (Progress.awaiting?_of_settled hSettle)
      (by simp [hScope]) hPlain, hUnnamed]
    rfl

-- ---------------------------------------------------------------------------
-- Options one after another
-- ---------------------------------------------------------------------------

/-- Options with their values, spelled one after another. -/
inductive Spelled : List (Opt × Value) → List String → Prop where
  | nil : Spelled [] []
  | cons {o : Opt} {v : Value} {text : String} {now later : List String}
      {given : List (Opt × Value)} (hText : Denotes v text) (hSpells : Spells o text now)
      (hLater : Spelled given later) : Spelled ((o, v) :: given) (now ++ later)

/-- What is given to a scope: options of it with values of their kind, none of them twice. -/
structure Scope.Accepts (scope : Scope) (given : List (Opt × Value)) : Prop where
  admits : ∀ entry ∈ given, scope.Admits entry.1
  takes : ∀ entry ∈ given, entry.1.Takes entry.2
  nodup : (given.map Prod.fst).Nodup

/-- **Options one after another are read as they were given.** -/
theorem readScope_spelled {scope : Scope} {given : List (Opt × Value)} {args : List String}
    (h : Spelled given args) {p : Progress} {found : List (Opt × Value)}
    (hSettle : p.settle = .ok ⟨found, none⟩) (hAccepts : scope.Accepts (found ++ given)) :
    ∃ q, q.settle = .ok ⟨found ++ given, none⟩ ∧
      ∀ rest, readScope scope p false (args ++ rest) = readScope scope q false rest := by
  induction h generalizing p found with
  | nil => exact ⟨p, by rw [List.append_nil, hSettle], fun _ => rfl⟩
  | @cons o v text now later given hText hSpells hLater ih =>
    have hEntry : (o, v) ∈ found ++ (o, v) :: given := by simp
    have hRead : o.read text = .ok v := read_of_denotes (hAccepts.takes _ hEntry) hText
    have hNew : o ∉ found.map Prod.fst := by
      intro hMem
      have hNodup := hAccepts.nodup
      rw [List.map_append, List.map_cons] at hNodup
      exact (List.nodup_append.mp hNodup).2.2 o hMem o List.mem_cons_self rfl
    obtain ⟨q, hSettleNow, hNow⟩ :=
      readScope_spells hSettle (hAccepts.admits _ hEntry) hRead hSpells hNew
    -- the option now counts as found, and the rest is spelled after it
    have hAssoc : found ++ (o, v) :: given = (found ++ [(o, v)]) ++ given := by simp
    rw [hAssoc] at hAccepts ⊢
    obtain ⟨r, hSettleLater, hRest⟩ := ih hSettleNow hAccepts
    refine ⟨r, hSettleLater, ?_⟩
    intro rest
    rw [List.append_assoc, hNow, hRest]

/-- An option can be spelled with each value of its kind. -/
theorem exists_spells {o : Opt} {v : Value} (hTakes : o.Takes v) :
    ∃ text now, Denotes v text ∧ Spells o text now := by
  obtain ⟨text, hText⟩ := exists_denotes v
  cases hTakes with
  | config | target | proxy | workers | maxConcurrent | jitterMaxMs | timeoutSecs | expect =>
    exact ⟨text, _, hText, .attached rfl rfl text⟩
  | json | verboseOutcomes =>
    cases hText
    exact ⟨"", _, .given, .flag rfl rfl⟩
  | shell sh =>
    have hPlain : sh.name.toList.head? ≠ some '-' := by cases sh <;> decide
    exact ⟨sh.name, _, .shell sh, .unnamed hPlain⟩

theorem exists_spelled {given : List (Opt × Value)}
    (h : ∀ entry ∈ given, entry.1.Takes entry.2) : ∃ args, Spelled given args := by
  induction given with
  | nil => exact ⟨[], .nil⟩
  | cons entry given ih =>
    obtain ⟨later, hLater⟩ := ih fun other hOther => h other (List.mem_cons_of_mem _ hOther)
    obtain ⟨text, now, hText, hSpells⟩ := exists_spells (h entry List.mem_cons_self)
    exact ⟨now ++ later, .cons hText hSpells hLater⟩

end ProxyAudit.CommandLine
