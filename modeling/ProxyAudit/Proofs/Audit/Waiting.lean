import Mathlib
import ProxyAudit.Proofs.Audit.Keeping
import ProxyAudit.Proofs.Audit.Observed
import ProxyAudit.Proofs.Pool.Thorough

/-!
# Waiting times

A worker draws the time that it waits before it fetches. A source of random spans is only relied on
for ranges with room, and a range without room is never drawn from; so a waiting time comes about in
any case, within the range, and no worker dies of it. Ranges are given and reported in milliseconds,
which lose nothing on the way to spans and back.

Main results:

* `sample_between`   — a waiting time between two spans.
* `sample_toJitter`  — the waiting time of a section, in milliseconds.
* `runWorker_waits`  — a worker reports the time that it has waited.
* `waits_in_range`   — workers and reports keep to the range of their configuration.
-/

namespace ProxyAudit

-- ---------------------------------------------------------------------------
-- Spans
-- ---------------------------------------------------------------------------

/-- What is relied on of a source of random spans: it draws from a range with room, and it fails on
a range without. -/
structure Draw.IsSound (draw : Draw) : Prop where
  draws : ∀ lo hi : Span, lo.nanos < hi.nanos →
    ∃ d, draw lo hi = some d ∧ lo.nanos ≤ d.nanos ∧ d.nanos < hi.nanos
  fails : ∀ lo hi : Span, hi.nanos ≤ lo.nanos → draw lo hi = none

theorem Draw.isSound_ofNumber (random : Nat) : (Draw.ofNumber random).IsSound where
  draws lo hi hRoom := by
    obtain ⟨d, hDrawn⟩ := Option.isSome_iff_exists.mp (isSome_ofNumber random hRoom)
    have hRest := Nat.mod_lt random (Nat.sub_pos_of_lt hRoom)
    have hNanos : d.nanos = lo.nanos + random % (hi.nanos - lo.nanos) := by
      rw [ofNumber, if_pos hRoom, Span.ofNanos?] at hDrawn
      split at hDrawn
      · rw [← Option.some.inj hDrawn]
      · contradiction
    exact ⟨d, hDrawn, by omega, by omega⟩
  fails lo hi hNone := if_neg (Nat.not_lt.mpr hNone)

/-- A span of the range between two others, or the first of them if there is no room. -/
def Span.IsWithin (d a b : Span) : Prop :=
  (a.nanos < b.nanos → a.nanos ≤ d.nanos ∧ d.nanos < b.nanos) ∧ (b.nanos ≤ a.nanos → d = a)

/-- A number of milliseconds in the range of a section, or its lower end if there is no room. -/
def JitterSection.Allows (j : JitterSection) (ms : UInt64) : Prop :=
  (j.minMs < j.maxMs → j.minMs ≤ ms ∧ ms < j.maxMs) ∧ (j.maxMs ≤ j.minMs → ms = j.minMs)

/-- What a range in order allows is no less than its lower end and no more than its upper end. -/
theorem JitterSection.Allows.between {j : JitterSection} {ms : UInt64} (h : j.Allows ms)
    (hOrder : j.minMs ≤ j.maxMs) : j.minMs ≤ ms ∧ ms ≤ j.maxMs := by
  rcases UInt64.lt_or_le j.minMs j.maxMs with hRoom | hNone
  · exact ⟨(h.1 hRoom).1, UInt64.le_of_lt (h.1 hRoom).2⟩
  · rw [h.2 hNone]
    exact ⟨UInt64.le_refl _, hOrder⟩

theorem Span.toNat_millis (s : Span) : s.millis.toNat = min (s.nanos / 1000000) (2 ^ 64 - 1) := by
  rw [millis, UInt64.toNat_ofNat_of_lt']
  · rfl
  · rw [UInt64.size]
    omega

variable {draw : Draw}

/-- **A waiting time** comes about between any two spans, in the range between them. -/
theorem Jitter.sample_between (hDraw : draw.IsSound) (a b : Span) :
    ∃ d, (between a b).sample draw = some d ∧ d.IsWithin a b := by
  by_cases hRoom : a.nanos < b.nanos
  · obtain ⟨d, hDrawn, hRange⟩ := hDraw.draws a b hRoom
    have hMax : b.max a = b := by
      rw [Span.max, if_neg (by omega)]
    refine ⟨d, ?_, fun _ => hRange, fun hNone => absurd hRoom (by omega)⟩
    rw [between, hMax, sample, if_neg (Nat.not_le.mpr hRoom), hDrawn]
  · -- the upper end is raised to the lower one, so nothing is drawn
    have hMax : b.max a = a := by
      unfold Span.max
      split
      · rfl
      · omega
    refine ⟨a, ?_, fun h => absurd h hRoom, fun _ => rfl⟩
    rw [between, hMax]
    exact sample_of_le draw (Nat.le_refl _)

/-- **The waiting time of a section**, in whole milliseconds. -/
theorem Jitter.sample_toJitter (hDraw : draw.IsSound) (j : JitterSection) :
    ∃ d, j.toJitter.sample draw = some d ∧ j.Allows d.millis := by
  obtain ⟨d, hSample, hRange, hFixed⟩ := sample_between hDraw (.ofMillis j.minMs) (.ofMillis j.maxMs)
  refine ⟨d, hSample, ?room, ?fixed⟩
  case room =>
    -- with room to draw from, the draw lies between the ends, and milliseconds keep that
    intro hRoom
    have hMax := j.maxMs.toNat_lt
    have hMillis := d.toNat_millis
    rw [UInt64.lt_iff_toNat_lt] at hRoom
    simp only [Span.ofMillis] at hRange
    rw [UInt64.le_iff_toNat_le, UInt64.lt_iff_toNat_lt]
    omega
  case fixed =>
    -- without room there is nothing to draw: it is the lower end
    intro hNone
    rw [UInt64.le_iff_toNat_le] at hNone
    obtain rfl : d = .ofMillis j.minMs := hFixed (by simp only [Span.ofMillis]; omega)
    exact Span.ofMillis_millis j.minMs

-- ---------------------------------------------------------------------------
-- Workers
-- ---------------------------------------------------------------------------

variable {σ α : Type} {machine : Machine (StateM σ)}

/-- **A worker reports the time that it has waited**, whatever its machine draws, and it does not
die of the draw. -/
theorem Assignment.runWorker_waits (hDraw : Yields Draw.IsSound machine.draw) {a : Assignment}
    {j : JitterSection} (hJitter : a.jitter = j.toJitter) (index : UInt64) (w : σ) :
    ∃ d r, a.jitter.sample (machine.draw.run w).1 = some d ∧
      ((a.runWorker machine index).run w).1 = some r ∧ r.index = index ∧
      r.jitterMs = d.millis ∧ j.Allows d.millis := by
  obtain ⟨d, hSample, hAllows⟩ := Jitter.sample_toJitter (hDraw w) j
  rw [← hJitter] at hSample
  simp only [runWorker, StateM.run_bind]
  split
  · next hNone =>
    have hSome := hNone.symm.trans hSample
    contradiction
  · next hDelay =>
    obtain rfl := Option.some.inj (hDelay.symm.trans hSample)
    exact ⟨_, _, hSample, rfl, rfl, rfl, hAllows⟩

-- ---------------------------------------------------------------------------
-- Reports
-- ---------------------------------------------------------------------------

variable {s : Setting σ α} {c : Config}

/-- What a run of the workers reports was made by workers. -/
theorem Setting.mem_results_of_runWorkers (hSchedule : s.schedule.Proceeds) {reference : Digest}
    {Q : WorkerResult → Prop}
    (hWork : ∀ i w r w', ((c.assignment reference).runWorker s.machine i).run w = (some r, w') →
      r.index = i ∧ Q r)
    {onResult : WorkerResult → StateM σ Unit} {w : σ} {report : Report}
    (h : ((c.runWorkers s.machine reference onResult).run w).1 = .ok report) :
    ∀ r ∈ report.results, Q r := by
  unfold Config.runWorkers at h
  split at h
  · replace h : c.conclude reference
      ((c.pool.runIn s.schedule ((c.assignment reference).runWorker s.machine) onResult).run w).1
        = .ok report := h
    -- whatever the pool handles at the end was made by a worker
    have hFresh : c.pool.handled = [] := rfl
    have hHandled : ∀ r ∈ ((c.pool.runIn s.schedule
        ((c.assignment reference).runWorker s.machine) onResult).run w).1.handled, Q r :=
      Pool.runFor_handled hSchedule hWork (by simp [hFresh]) c.pool.measure 0
    unfold Config.conclude at h
    split at h
    · split at h <;> contradiction
    · contradiction
    · contradiction
    · -- the results of the report are those that were delivered
      obtain rfl := Except.ok.inj h
      exact fun r hr => hHandled r (List.mem_append_right _ hr)
  · contradiction

/-- **A report keeps to the range** of the configuration, whatever the schedule of its pool. -/
theorem Setting.report_waits (hSchedule : s.schedule.Proceeds) (hDraw : Yields Draw.IsSound s.draw)
    (onReference : Digest → StateM σ Unit) (onResult : WorkerResult → StateM σ Unit) {w : σ}
    {report : Report}
    (h : ((c.audit s.machine onReference onResult).run w).1 = .ok report) :
    ∀ r ∈ report.results, c.jitter.Allows r.jitterMs := by
  unfold Config.audit at h
  split at h
  · contradiction
  · rw [StateM.run_bind] at h
    split at h
    · contradiction
    · next body _ =>
      -- what a worker reports is the time that it has waited
      have hWork : ∀ i w r w',
          ((c.assignment body.digest).runWorker s.machine i).run w = (some r, w') →
            r.index = i ∧ c.jitter.Allows r.jitterMs := by
        intro i w r w' hRun
        have hDrawn : Yields Draw.IsSound s.machine.draw := hDraw
        obtain ⟨d, r', -, hSome, hIndex, hMillis, hAllows⟩ :=
          Assignment.runWorker_waits hDrawn (a := c.assignment body.digest) rfl i w
        rw [hRun] at hSome
        obtain rfl := Option.some.inj hSome
        exact ⟨hIndex, hMillis ▸ hAllows⟩
      exact mem_results_of_runWorkers hSchedule hWork h

/--
**Waiting times keep to their range.** For every source of random spans that is sound:

* between any two spans, in either order and up to the largest, a waiting time comes about: one of
  the range between them, and the first of them if there is no room;
* a worker of any section does not die of its draw, and reports the whole milliseconds of the time
  that it waits, which are in the range of the section, or its lower end if there is no room;
* so what a worker of a sound configuration reports is between the ends of its section;
* and so is all that the report of an audit says, whatever the schedule of its pool is.
-/
theorem waits_in_range :
    (∀ (draw : Draw) (a b : Span), draw.IsSound →
      ∃ d, (Jitter.between a b).sample draw = some d ∧ d.IsWithin a b) ∧
    (∀ (σ : Type) (machine : Machine (StateM σ)) (a : Assignment) (j : JitterSection)
      (index : UInt64) (w : σ), Yields Draw.IsSound machine.draw → a.jitter = j.toJitter →
        ∃ d r, a.jitter.sample (machine.draw.run w).1 = some d ∧
          ((a.runWorker machine index).run w).1 = some r ∧
          r.jitterMs.toNat = min (d.nanos / 1000000) (2 ^ 64 - 1) ∧ j.Allows r.jitterMs) ∧
    (∀ (σ : Type) (machine : Machine (StateM σ)) (c : Config) (reference : Digest)
      (index : UInt64) (w : σ), Yields Draw.IsSound machine.draw → c.check = .ok () →
        ∃ r, (((c.assignment reference).runWorker machine index).run w).1 = some r ∧
          c.jitter.minMs ≤ r.jitterMs ∧ r.jitterMs ≤ c.jitter.maxMs) ∧
    (∀ (σ α : Type) (s : Setting σ α) (c : Config) (onReference : Digest → StateM σ Unit)
      (onResult : WorkerResult → StateM σ Unit) (w : σ) (report : Report),
      Yields Draw.IsSound s.draw → s.schedule.Proceeds →
      ((c.audit s.machine onReference onResult).run w).1 = .ok report →
        ∀ r ∈ report.results, c.jitter.Allows r.jitterMs) := by
  refine ⟨fun draw a b hDraw => Jitter.sample_between hDraw a b, ?worker, ?sound, ?report⟩
  case worker =>
    intro σ machine a j index w hDraw hJitter
    obtain ⟨d, r, hSample, hRun, -, hMillis, hAllows⟩ :=
      Assignment.runWorker_waits hDraw hJitter index w
    refine ⟨d, r, hSample, hRun, ?_, hMillis ▸ hAllows⟩
    rw [hMillis, Span.toNat_millis]
  case sound =>
    intro σ machine c reference index w hDraw hCheck
    obtain ⟨d, r, -, hRun, -, hMillis, hAllows⟩ :=
      -- the same worker, and its two bounds are in order
      Assignment.runWorker_waits hDraw (a := c.assignment reference) rfl index w
    have hOrder : c.jitter.minMs ≤ c.jitter.maxMs := ((Config.check_eq_ok_iff c).mp hCheck).jitter
    exact ⟨r, hRun, hMillis ▸ hAllows.between hOrder⟩
  case report =>
    intro σ α s c onReference onResult w report hDraw hSchedule hReport
    exact Setting.report_waits hSchedule hDraw onReference onResult hReport

/-- The last nanosecond before the largest span, and two workers that wait from five to eight
milliseconds. -/
theorem waits_in_range_of_last :
    let last : Span := ⟨0x10000000000000000 * 1000000000 - 1, by decide⟩
    let before : Span := ⟨0x10000000000000000 * 1000000000 - 2, by decide⟩
    let body : FetchedBody := ⟨⟨List.replicate 32 0, by decide⟩, 11⟩
    let c : Config := { Config.default with targetUrl := "x:", workers := 2, jitter := ⟨5, 8⟩ }
    let s : Setting Unit FetchResult :=
      { transfer := fun _ _ _ => pure (.ok body)
        result := id
        draw := pure (Draw.ofNumber 1999999)
        sleep := fun _ => pure ()
        now := pure 0
        schedule := Pool.eager }
    let run := ((c.audit s.machine (fun _ => pure ()) (fun _ => pure ())).run ()).1
    (Jitter.between before last).sample (Draw.ofNumber 7) = some before ∧
      ∃ report, run = .ok report ∧ report.results.length = 2 ∧
        ∀ r ∈ report.results, 5 ≤ r.jitterMs ∧ r.jitterMs < 8 := by
  intro last before body c s run
  obtain ⟨hSpans, -, -, hReports⟩ := waits_in_range
  constructor
  · -- the largest spans there are: what is drawn is all that lies between them
    obtain ⟨d, hSample, hRange, -⟩ := hSpans _ before last (Draw.isSound_ofNumber 7)
    obtain ⟨hLower, hUpper⟩ := hRange (by decide)
    obtain ⟨nanos, hLimit⟩ := d
    obtain rfl : nanos = before.nanos := Nat.le_antisymm (Nat.lt_succ_iff.mp hUpper) hLower
    exact hSample
  · have hRun : run.map (fun report => report.results.length) = .ok 2 := by decide +kernel
    cases hReport : run with
    | error e =>
      rw [hReport] at hRun
      contradiction
    | ok report =>
      rw [hReport] at hRun
      refine ⟨report, rfl, Except.ok.inj hRun, fun r hr => ?_⟩
      have hAllows := hReports Unit FetchResult s c _ _ () report
        (fun _ => Draw.isSound_ofNumber 1999999) Pool.eager_isPeaceful.isComplete.proceeds hReport r hr
      exact hAllows.1 (by decide)

end ProxyAudit
