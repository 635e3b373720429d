import Mathlib
import ProxyAudit.Proofs.Audit.Keeping
import ProxyAudit.Proofs.Audit.Order

/-!
# Where sightings come from

What an observer sees to come of a fetch is what the transfer brings in the world of that moment.
The first fetch of an audit is the direct one, and all that are seen after it go through the proxy.
None of this depends on how far the workers come, or on whether the audit has a report in the end.

Main results:

* `runWorkers_sources`  — the workers add fetches through the proxy, and nothing else but results.
* `observe_sources`     — an audit fetches directly first, and then through the proxy alone.
* `came_of_mem_fetchesIn`  — what workers bring comes from transfers through the proxy.
-/

namespace ProxyAudit

variable {σ α β : Type}

/-- What may be seen once the reference is there: the fetches of workers, each with what the
transfer brought in some world, and what is told and handed over. -/
def Setting.ShowsWorkers (s : Setting σ α) (c : Config) : Sighting α → Prop
  | .fetched _ url route limits came =>
    url = c.targetUrl ∧ route = .proxy c.proxy ∧ limits = c.timeouts ∧
      ∃ w, came = ((s.transfer url route limits).run w).1
  | .told _ | .took _ => True

/-- Since some sightings, only workers have been seen. -/
def Observed.SeenSince (s : Setting σ α) (c : Config) (seen : List (Sighting α))
    (o : Observed σ α) : Prop :=
  ∃ rest, o.seen = seen ++ rest ∧ ∀ x ∈ rest, s.ShowsWorkers c x

namespace Observed

variable {s : Setting σ α} {c : Config} {seen : List (Sighting α)}

theorem SeenSince.refl (o : Observed σ α) : SeenSince s c o.seen o :=
  ⟨[], (List.append_nil _).symm, by simp⟩

theorem SeenSince.extend {o q : Observed σ α} (h : SeenSince s c seen o) {x : Sighting α}
    (hSeen : q.seen = o.seen ++ [x]) (hShows : s.ShowsWorkers c x) : SeenSince s c seen q := by
  obtain ⟨rest, hRest, hAll⟩ := h
  refine ⟨rest ++ [x], by rw [hSeen, hRest, List.append_assoc], ?_⟩
  exact List.forall_mem_append.mpr ⟨hAll, List.forall_mem_singleton.mpr hShows⟩

/-- What acts on the world alone is not seen. -/
theorem keeps_act (x : StateM σ β) : Keeps (SeenSince s c seen) (act x) :=
  fun _ h => h

/-- Who has the turn is not seen. -/
theorem keeps_turnOf {x : StateM (Observed σ α) β} (index : UInt64)
    (h : Keeps (SeenSince s c seen) x) : Keeps (SeenSince s c seen) (turnOf index x) :=
  fun o hSeen => h { o with worker := some index } hSeen

theorem keeps_noteResult (onResult : WorkerResult → StateM σ Unit) (r : WorkerResult) :
    Keeps (SeenSince s c seen) (Setting.noteResult onResult r) := by
  intro o h
  exact h.extend (q := ((Setting.noteResult onResult r).run o).2) (x := .took r) rfl trivial

theorem keepsFor_observed : s.observed.KeepsFor (SeenSince s c seen) c where
  fetch := by
    intro o h
    refine h.extend (q := ((s.observed.fetch c.targetUrl (.proxy c.proxy) c.timeouts).run o).2)
      (x := .fetched o.worker c.targetUrl (.proxy c.proxy) c.timeouts
        ((s.transfer c.targetUrl (.proxy c.proxy) c.timeouts).run o.world).1) rfl ?_
    exact ⟨rfl, rfl, rfl, o.world, rfl⟩
  draw := keeps_act _
  sleep := ⟨fun _ => True, fun _ => trivial, fun _ span _ _ => keeps_act (s.sleep span)⟩
  now := keeps_act _
  runPool p work onTake hWork hTake :=
    keeps_runFor (fun i => keeps_turnOf i (hWork i)) hTake s.schedule p.measure 0 p

end Observed

variable (s : Setting σ α) (c : Config)

theorem runWorkers_sources (reference : Digest) (onResult : WorkerResult → StateM σ Unit)
    (o : Observed σ α) :
    ∃ rest, ((c.runWorkers s.observed reference (Setting.noteResult onResult)).run o).2.seen
        = o.seen ++ rest ∧ ∀ x ∈ rest, s.ShowsWorkers c x :=
  keeps_runWorkers Observed.keepsFor_observed (Observed.keeps_noteResult onResult) reference o
    (.refl o)

/-- **An audit fetches directly first, and then through the proxy alone.** -/
theorem observe_sources (onReference : Digest → StateM σ Unit)
    (onResult : WorkerResult → StateM σ Unit) (w : σ) :
    let seen := ((c.observe s onReference onResult).run (.fresh w)).2.seen
    (seen = [] ∧ c.check ≠ .ok ()) ∨ ∃ rest, c.check = .ok () ∧
      seen = .fetched none c.targetUrl .direct c.timeouts
        ((s.transfer c.targetUrl .direct c.timeouts).run w).1 :: rest ∧
      ∀ x ∈ rest, s.ShowsWorkers c x := by
  intro seen
  rcases Config.observe_cases onReference onResult w (c := c) (s := s) with
    ⟨fault, hCheck, -, hSeen⟩ | ⟨e, hCheck, -, -, hSeen⟩ | ⟨body, o, hCheck, -, hTold, hRun⟩
  · exact .inl ⟨hSeen, by simp [hCheck]⟩
  · exact .inr ⟨[], hCheck, hSeen, by simp⟩
  · obtain ⟨rest, hRest, hAll⟩ := runWorkers_sources s c body.digest onResult o
    refine .inr ⟨.told body.digest :: rest, hCheck, ?_, List.forall_mem_cons.mpr ⟨trivial, hAll⟩⟩
    refine (congrArg (fun run => run.2.seen) hRun).trans ?_
    rw [hRest, hTold]
    rfl

/-- What workers bring is what transfers through the proxy bring, each in some world. -/
theorem came_of_mem_fetchesIn {s : Setting σ α} {c : Config} {onReference : Digest → StateM σ Unit}
    {onResult : WorkerResult → StateM σ Unit} {w : σ} {first : Sighting α}
    {rest : List (Sighting α)}
    (hSeen : ((c.observe s onReference onResult).run (.fresh w)).2.seen = first :: rest)
    {index : UInt64} {came : α} (h : (index, came) ∈ fetchesIn rest) :
    ∃ w', ((s.transfer c.targetUrl (.proxy c.proxy) c.timeouts).run w').1 = came := by
  obtain ⟨x, hx, hFetch⟩ := List.mem_filterMap.mp h
  rcases observe_sources s c onReference onResult w with ⟨hNothing, -⟩ | ⟨rest', -, hShown, hAll⟩
  · rw [hSeen] at hNothing
    contradiction
  · rw [hSeen] at hShown
    obtain rfl : rest = rest' := (List.cons.inj hShown).2
    have hShows := hAll x hx
    -- a fetch with a worker is all that counts as one
    cases x with
    | told reference => contradiction
    | took r => contradiction
    | fetched worker url route limits brought =>
      obtain ⟨rfl, rfl, rfl, w', rfl⟩ := hShows
      cases worker with
      | none => contradiction
      | some i =>
        cases hFetch
        exact ⟨w', rfl⟩

end ProxyAudit
