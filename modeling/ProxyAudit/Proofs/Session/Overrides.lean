import Mathlib
import ProxyAudit.Proofs.Session.Phases

/-!
# Options over a configuration

The options of a command are taken over the configuration that was loaded for it. What is given
replaces what was there, and the rest is kept. One option reaches further: an upper bound on the
waiting time lowers the lower bound to it.

A configuration is refused for one of its flaws. A flaw after the options is either the fault of an
option, or it was there before. So options that are not at fault themselves keep a sound
configuration sound, and an upper bound on the waiting time mends a range that was inverted.

Main results:

* `withRunOptions_eq_iff`     — the configuration with the options of a run, field by field.
* `flaw_withRunOptions_cases` — where a flaw comes from.
* `override_keeps_validity`   — what the options of a command do to the configuration it goes by.
-/

namespace ProxyAudit

-- ---------------------------------------------------------------------------
-- Options over values
-- ---------------------------------------------------------------------------

/-- An option is taken over a value: if it is given it replaces the value, else the value is
kept. -/
structure Takes {α : Type} (given : Option α) (kept now : α) : Prop where
  taken : ∀ v, given = some v → now = v
  kept : given = none → now = kept

theorem takes_iff {α : Type} {given : Option α} {kept now : α} :
    Takes given kept now ↔ now = given.getD kept := by
  constructor
  · rintro ⟨hTaken, hKept⟩
    cases given with
    | none => exact hKept rfl
    | some v => exact hTaken v rfl
  · rintro rfl
    exact ⟨fun v h => by rw [h, Option.getD_some], fun h => by rw [h, Option.getD_none]⟩

theorem Takes.unique {α : Type} {given : Option α} {kept now now' : α} (h : Takes given kept now)
    (h' : Takes given kept now') : now = now' :=
  (takes_iff.mp h).trans (takes_iff.mp h').symm

/-- The options of a command that override the configuration, as options of a run. -/
def Command.overrides : Command → RunOptions
  | run o => o
  | reference target _ => ⟨target, none, none, none, none, none, false, false⟩
  | fetch target proxy => ⟨target, proxy, none, none, none, none, false, false⟩
  | completions _ => ⟨none, none, none, none, none, none, false, false⟩

/-- Each command overrides the configuration like a run with its options. -/
theorem Command.override_eq (command : Command) (c : Config) :
    command.override c = c.withRunOptions command.overrides := by
  cases command <;> rfl

/-- What an option is at fault for by itself, whatever configuration it is taken over. -/
inductive RunOptions.AtFault (o : RunOptions) : Config.Fault → Prop where
  | target {url : String} {cause : UrlError} (given : o.target = some url)
      (h : Url.parse url = .error cause) : AtFault o (.badTarget url cause)
  | timeout (given : o.timeoutSecs = some 0) : AtFault o .noTotalTimeout
  | proxy {address : String} (given : o.proxy = some address)
      (h : Text.isAllBlank address = true) : AtFault o .blankProxy
  | concurrency (given : o.maxConcurrent = some 0) : AtFault o .noConcurrency

namespace Config

-- ---------------------------------------------------------------------------
-- Configurations with options
-- ---------------------------------------------------------------------------

/-- A configuration with the options of a run, field by field. -/
structure Overridden (o : RunOptions) (c e : Config) : Prop where
  targetUrl : Takes o.target c.targetUrl e.targetUrl
  proxy : Takes o.proxy c.proxy e.proxy
  workers : Takes o.workers c.workers e.workers
  maxConcurrent : Takes (o.maxConcurrent.map some) c.maxConcurrent e.maxConcurrent
  maxMs : Takes o.jitterMaxMs c.jitter.maxMs e.jitter.maxMs
  minMs : Takes (o.jitterMaxMs.map (min c.jitter.minMs)) c.jitter.minMs e.jitter.minMs
  totalSecs : Takes o.timeoutSecs c.timeouts.totalSecs e.timeouts.totalSecs
  connectSecs : e.timeouts.connectSecs = c.timeouts.connectSecs

theorem Overridden.unique {o : RunOptions} {c e e' : Config} (h : Overridden o c e)
    (h' : Overridden o c e') : e = e' := by
  obtain ⟨targetUrl, proxy, workers, maxConcurrent, ⟨minMs, maxMs⟩, ⟨connectSecs, totalSecs⟩⟩ := e
  obtain ⟨targetUrl', proxy', workers', maxConcurrent', ⟨minMs', maxMs'⟩,
    ⟨connectSecs', totalSecs'⟩⟩ := e'
  simp only [mk.injEq, JitterSection.mk.injEq, TimeoutSection.mk.injEq]
  exact ⟨h.targetUrl.unique h'.targetUrl, h.proxy.unique h'.proxy, h.workers.unique h'.workers,
    h.maxConcurrent.unique h'.maxConcurrent, ⟨h.minMs.unique h'.minMs, h.maxMs.unique h'.maxMs⟩,
    h.connectSecs.trans h'.connectSecs.symm, h.totalSecs.unique h'.totalSecs⟩

variable (o : RunOptions) (c : Config)

theorem overridden_withRunOptions : Overridden o c (c.withRunOptions o) := by
  obtain ⟨target, proxy, workers, maxConcurrent, jitterMaxMs, timeoutSecs, json, verbose⟩ := o
  refine ⟨takes_iff.mpr rfl, takes_iff.mpr rfl, takes_iff.mpr rfl, takes_iff.mpr ?maxConcurrent,
    takes_iff.mpr ?maxMs, takes_iff.mpr ?minMs, takes_iff.mpr rfl, rfl⟩
  case maxConcurrent => cases maxConcurrent <;> rfl
  case maxMs => cases jitterMaxMs <;> rfl
  case minMs => cases jitterMaxMs <;> rfl

/-- **The configuration with the options of a run is the one that takes each of them.** -/
theorem withRunOptions_eq_iff {e : Config} : c.withRunOptions o = e ↔ Overridden o c e := by
  constructor
  · rintro rfl
    exact overridden_withRunOptions o c
  · intro h
    exact (overridden_withRunOptions o c).unique h

/-- An upper bound on the waiting time brings the range in order. -/
theorem jitter_withRunOptions {ms : UInt64} (h : o.jitterMaxMs = some ms) :
    (c.withRunOptions o).jitter = ⟨min c.jitter.minMs ms, ms⟩ := by
  simp only [withRunOptions, h]

theorem jitter_le_withRunOptions {ms : UInt64} (h : o.jitterMaxMs = some ms) :
    (c.withRunOptions o).jitter.minMs ≤ (c.withRunOptions o).jitter.maxMs := by
  rw [jitter_withRunOptions o c h]
  exact UInt64.le_iff_toNat_le.mpr (by simp [UInt64.toNat_min])

/-- Options that are taken twice are taken once. -/
theorem withRunOptions_idem : (c.withRunOptions o).withRunOptions o = c.withRunOptions o := by
  have h := overridden_withRunOptions o c
  rw [withRunOptions_eq_iff]
  refine ⟨⟨h.targetUrl.taken, fun _ => rfl⟩, ⟨h.proxy.taken, fun _ => rfl⟩,
    ⟨h.workers.taken, fun _ => rfl⟩, ⟨h.maxConcurrent.taken, fun _ => rfl⟩,
    ⟨h.maxMs.taken, fun _ => rfl⟩, ⟨fun v hv => ?_, fun _ => rfl⟩,
    ⟨h.totalSecs.taken, fun _ => rfl⟩, rfl⟩
  -- the lower bound is not above the option any more, and so it is not lowered again
  obtain ⟨ms, hms, rfl⟩ := Option.map_eq_some_iff.mp hv
  have hOrder := jitter_le_withRunOptions o c hms
  rw [h.maxMs.taken ms hms] at hOrder
  exact (if_pos hOrder).symm

-- ---------------------------------------------------------------------------
-- Flaws
-- ---------------------------------------------------------------------------

/-- What is wrong with a configuration; it is refused for one of its flaws. -/
inductive Flaw (c : Config) : Fault → Prop where
  | target {cause : UrlError} (h : Url.parse c.targetUrl = .error cause) :
      Flaw c (.badTarget c.targetUrl cause)
  | timeout (h : c.timeouts.totalSecs = 0) : Flaw c .noTotalTimeout
  | proxy (h : Text.isAllBlank c.proxy = true) : Flaw c .blankProxy
  | jitter (h : c.jitter.maxMs < c.jitter.minMs) :
      Flaw c (.invertedJitter c.jitter.minMs c.jitter.maxMs)
  | concurrency (h : c.maxConcurrent = some 0) : Flaw c .noConcurrency

/-- The faults that a direct fetch is refused for. -/
def Fault.IsOfTarget : Fault → Prop
  | badTarget _ _ | noTotalTimeout => True
  | blankProxy | invertedJitter _ _ | noConcurrency => False

variable {c}

theorem flaw_of_checkTarget {fault : Fault} (h : c.checkTarget = .error fault) :
    Flaw c fault ∧ fault.IsOfTarget := by
  unfold checkTarget at h
  split at h
  case h_1 cause hParse =>
    cases h
    exact ⟨.target hParse, trivial⟩
  case h_2 =>
    split at h
    case isTrue hZero =>
      cases h
      exact ⟨.timeout hZero, trivial⟩
    case isFalse => contradiction

theorem flaw_of_check {fault : Fault} (h : c.check = .error fault) : Flaw c fault := by
  unfold check at h
  split at h
  case h_1 e hTarget =>
    cases h
    exact (flaw_of_checkTarget hTarget).1
  case h_2 =>
    split_ifs at h with hBlank hInverted hNone <;> cases h
    · exact .proxy hBlank
    · exact .jitter hInverted
    · exact .concurrency hNone

theorem SoundTarget.not_flaw (h : c.SoundTarget) {fault : Fault} (hTarget : fault.IsOfTarget) :
    ¬ Flaw c fault := by
  rintro (hParse | hZero | _ | _ | _)
  case target =>
    obtain ⟨u, hUrl⟩ := h.url
    cases hUrl.symm.trans hParse
  case timeout => exact h.timeout hZero
  all_goals exact hTarget

/-- A sound configuration has no flaw. -/
theorem Sound.not_flaw (h : c.Sound) {fault : Fault} : ¬ Flaw c fault := by
  intro hFlaw
  cases hFlaw with
  | target hParse =>
    obtain ⟨u, hUrl⟩ := h.target.url
    cases hUrl.symm.trans hParse
  | timeout hZero => exact h.target.timeout hZero
  | proxy hBlank => exact Bool.false_ne_true (h.proxy.symm.trans hBlank)
  | jitter hInverted => exact UInt64.not_lt.mpr h.jitter hInverted
  | concurrency hNone => exact h.concurrency hNone

variable {o}

/-- **A flaw after the options is the fault of one of them, or it was there before.** -/
theorem flaw_withRunOptions_cases {fault : Fault} (h : Flaw (c.withRunOptions o) fault) :
    o.AtFault fault ∨ Flaw c fault := by
  -- the field of the flaw is an option, which is then at fault, or it is as it was
  have hTakes := overridden_withRunOptions o c
  generalize hEffective : c.withRunOptions o = e at h hTakes
  cases h with
  | target hParse =>
    cases hGiven : o.target with
    | some url =>
      have hUrl := hTakes.targetUrl.taken url hGiven
      rw [hUrl] at hParse ⊢
      exact .inl (.target hGiven hParse)
    | none =>
      have hUrl := hTakes.targetUrl.kept hGiven
      rw [hUrl] at hParse ⊢
      exact .inr (.target hParse)
  | timeout hZero =>
    cases hGiven : o.timeoutSecs with
    | some secs =>
      obtain rfl : secs = 0 := (hTakes.totalSecs.taken secs hGiven).symm.trans hZero
      exact .inl (.timeout hGiven)
    | none => exact .inr (.timeout ((hTakes.totalSecs.kept hGiven).symm.trans hZero))
  | proxy hBlank =>
    cases hGiven : o.proxy with
    | some address =>
      rw [hTakes.proxy.taken address hGiven] at hBlank
      exact .inl (.proxy hGiven hBlank)
    | none =>
      rw [hTakes.proxy.kept hGiven] at hBlank
      exact .inr (.proxy hBlank)
  | jitter hInverted =>
    cases hGiven : o.jitterMaxMs with
    | some ms =>
      -- an upper bound that is given mends the range, so this flaw cannot be there
      subst hEffective
      exact (UInt64.not_lt.mpr (jitter_le_withRunOptions o c hGiven) hInverted).elim
    | none =>
      have hMax := hTakes.maxMs.kept hGiven
      have hMin := hTakes.minMs.kept (by rw [hGiven, Option.map_none])
      rw [hMax, hMin] at hInverted ⊢
      exact .inr (.jitter hInverted)
  | concurrency hNone =>
    cases hGiven : o.maxConcurrent with
    | some n =>
      have hTaken := hTakes.maxConcurrent.taken (some n) (by rw [hGiven, Option.map_some])
      rw [Option.some.inj (hTaken.symm.trans hNone)] at hGiven
      exact .inl (.concurrency hGiven)
    | none =>
      have hKept := hTakes.maxConcurrent.kept (by rw [hGiven, Option.map_none])
      exact .inr (.concurrency (hKept.symm.trans hNone))

/-- An option at fault is a flaw of every configuration that it is taken over. -/
theorem flaw_of_atFault {fault : Fault} (h : o.AtFault fault) (c : Config) :
    Flaw (c.withRunOptions o) fault := by
  have hTakes := overridden_withRunOptions o c
  cases h with
  | target hGiven hParse =>
    obtain rfl := hTakes.targetUrl.taken _ hGiven
    exact .target hParse
  | timeout hGiven => exact .timeout (hTakes.totalSecs.taken _ hGiven)
  | proxy hGiven hBlank =>
    refine .proxy ?_
    rw [hTakes.proxy.taken _ hGiven]
    exact hBlank
  | concurrency hGiven =>
    exact .concurrency (hTakes.maxConcurrent.taken _ (by rw [hGiven, Option.map_some]))

/-- Options over a sound configuration are refused only for an option at fault. -/
theorem atFault_of_check (hSound : c.check = .ok ()) {fault : Fault}
    (h : (c.withRunOptions o).check = .error fault) : o.AtFault fault := by
  rcases flaw_withRunOptions_cases (flaw_of_check h) with hOption | hBefore
  · exact hOption
  · exact (((check_eq_ok_iff c).mp hSound).not_flaw hBefore).elim

theorem atFault_of_checkTarget (hSound : c.checkTarget = .ok ()) {fault : Fault}
    (h : (c.withRunOptions o).checkTarget = .error fault) : o.AtFault fault := by
  obtain ⟨hFlaw, hTarget⟩ := flaw_of_checkTarget h
  rcases flaw_withRunOptions_cases hFlaw with hOption | hBefore
  · exact hOption
  · exact (((checkTarget_eq_ok_iff c).mp hSound).not_flaw hTarget hBefore).elim

/-- A sound configuration stays sound exactly if no option is at fault. -/
theorem check_withRunOptions_eq_ok_iff (hSound : c.check = .ok ()) :
    (c.withRunOptions o).check = .ok () ↔ ∀ fault, ¬ o.AtFault fault := by
  constructor
  · intro h fault hFault
    exact ((check_eq_ok_iff _).mp h).not_flaw (flaw_of_atFault hFault c)
  · intro hNone
    cases hCheck : (c.withRunOptions o).check with
    | ok => rfl
    | error fault => exact (hNone fault (atFault_of_check hSound hCheck)).elim

end Config

-- ---------------------------------------------------------------------------
-- Commands
-- ---------------------------------------------------------------------------

namespace Session

/--
**Options keep a configuration sound.** Whatever a configuration `c` holds and whatever a command
gives, let `e` be what the command makes of `c`. Then:

* `e` takes each option that is given and keeps everything else, but for the lower bound on the
  waiting time, which becomes the lesser of what it was and an upper bound that is given. Once the
  options are taken, taking them again changes nothing;
* if `c` passes the check of a run or a fetch, then `e` fails it only for an option that is at fault
  by itself: a target that cannot be read, a blank proxy, no concurrency, or no time. The same holds
  of the check of a reference;
* if an upper bound on the waiting time is given, the range of `e` is in order, whatever that of
  `c` is, and `e` is never refused for it;
* a reference touches the target alone, and a fetch the target and the proxy;
* a session that has loaded `c` for the command carries it out by `e`.
-/
theorem override_keeps_validity (c : Config) (command : Command) :
    let e := command.override c
    let o := command.overrides
    c.Overridden o e ∧ command.override e = e ∧
      (c.check = .ok () → ∀ fault, e.check = .error fault → o.AtFault fault) ∧
      (c.checkTarget = .ok () → ∀ fault, e.checkTarget = .error fault → o.AtFault fault) ∧
      (∀ ms, o.jitterMaxMs = some ms →
        e.jitter = ⟨min c.jitter.minMs ms, ms⟩ ∧ e.jitter.minMs ≤ e.jitter.maxMs ∧
          ∀ a b, e.check ≠ .error (.invertedJitter a b)) ∧
      (∀ target expect, command = .reference target expect →
        e = { c with targetUrl := e.targetUrl }) ∧
      (∀ target proxy, command = .fetch target proxy →
        e = { c with targetUrl := e.targetUrl, proxy := e.proxy }) ∧
      (∀ {σ : Type} (s : Surroundings σ) (l : Locations) (args : List String) (w : World σ)
        (path : Option String), CommandLine.parse args = .ok ⟨path, command⟩ →
        command.gate?.isSome → ((loading s l path).run w).1 = .ok c →
          (runIn s.platform l args).run w
            = (obey s e command >>= settle s).run ((loading s l path).run w).2) := by
  intro e o
  have hOverride : e = c.withRunOptions o := command.override_eq c
  refine ⟨?overridden, ?again, ?sound, ?soundTarget, ?jitter, ?reference, ?fetch, ?session⟩
  case overridden => exact (c.withRunOptions_eq_iff o).mp hOverride.symm
  case again =>
    rw [command.override_eq, hOverride]
    exact c.withRunOptions_idem o
  case sound =>
    rw [hOverride]
    -- what was sound before has no flaw, so one that is found is that of an option
    exact fun hSound fault => Config.atFault_of_check hSound
  case soundTarget =>
    rw [hOverride]
    exact fun hSound fault => Config.atFault_of_checkTarget hSound
  case jitter =>
    intro ms hGiven
    have hOrder := c.jitter_le_withRunOptions o hGiven
    have hJitter := c.jitter_withRunOptions o hGiven
    rw [← hOverride] at hOrder hJitter
    refine ⟨hJitter, hOrder, fun a b hRefused => ?_⟩
    cases Config.flaw_of_check hRefused with
    | jitter hInverted => exact UInt64.not_lt.mpr hOrder hInverted
  case reference =>
    rintro target expect rfl
    rfl
  case fetch =>
    rintro target proxy rfl
    rfl
  case session =>
    intro σ s l args w path hParse hGate hLoaded
    obtain ⟨gate, hGate⟩ := Option.isSome_iff_exists.mp hGate
    exact run_of_loaded s l w hParse hGate hLoaded

/-- A run with an upper bound on the waiting time of five milliseconds, by a file whose range is
inverted; the bound mends it. A fetch by a sound configuration is refused only for its blank
proxy. -/
theorem override_keeps_validity_of_inverted :
    let text := "target_url='x:'\nproxy='p'\nworkers=2\n[jitter]\nmin_ms=9\nmax_ms=3\n"
    let c : Config := ⟨"x:", "p", 2, none, ⟨9, 3⟩, .default⟩
    let sound : Config := ⟨"x:", "p", 2, none, ⟨3, 9⟩, .default⟩
    let o : RunOptions := ⟨none, none, none, none, some 5, none, false, false⟩
    let s := Surroundings.unreachable true (fun _ => none) "/"
    let l : Locations := ⟨"/root", none, none⟩
    let w : World Unit := .fresh () (FileTree.empty.put ["c"] (.file (Bytes.ofText text)))
    let args := ["--config=/c", "run", "--jitter-max-ms", "5"]
    c.check = .error (.invertedJitter 9 3) ∧ (c.withRunOptions o).jitter = ⟨5, 5⟩ ∧
      (∀ a b, (c.withRunOptions o).check ≠ .error (.invertedJitter a b)) ∧
      (runIn s.platform l args).run w
        = (obey s (c.withRunOptions o) (.run o) >>= settle s).run
            ((loading s l (some "/c")).run w).2 ∧
      (Command.overrides (.fetch none (some " "))).AtFault .blankProxy ∧
      (∀ fault, (sound.withTarget none none).checkTarget = .error fault →
        (Command.overrides (.reference none none)).AtFault fault) := by
  intro text c sound o s l w args
  have hParse : CommandLine.parse args = .ok ⟨some "/c", .run o⟩ := by decide +kernel
  -- errors cannot be told apart by evaluation, so what was loaded is compared as an option
  have hLoaded : ((loading s l (some "/c")).run w).1 = .ok c := by
    have hFound : ((loading s l (some "/c")).run w).1.toOption = some c := by decide +kernel
    cases hResult : ((loading s l (some "/c")).run w).1 with
    | error e =>
      rw [hResult] at hFound
      cases hFound
    | ok d =>
      rw [hResult] at hFound
      exact congrArg Except.ok (Option.some.inj hFound)
  have hSound : sound.check = .ok () := by decide +kernel
  have hBlank : (Command.override sound (.fetch none (some " "))).check = .error .blankProxy := by
    decide +kernel
  obtain ⟨-, -, -, -, hMended, -, -, hSession⟩ := override_keeps_validity c (.run o)
  obtain ⟨hJitter, -, hKept⟩ := hMended 5 rfl
  obtain ⟨-, -, hOnly, -⟩ := override_keeps_validity sound (.fetch none (some " "))
  obtain ⟨-, -, -, hTarget, -⟩ := override_keeps_validity sound (.reference none none)
  exact ⟨by decide +kernel, hJitter, hKept, hSession s l args w (some "/c") hParse rfl hLoaded,
    hOnly hSound _ hBlank, hTarget (Config.checkTarget_of_check hSound)⟩

end Session

end ProxyAudit
