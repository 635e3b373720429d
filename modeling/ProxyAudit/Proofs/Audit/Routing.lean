import Mathlib
import ProxyAudit.Proofs.Audit.Provenance
import ProxyAudit.Proofs.Audit.Verdict
import ProxyAudit.Proofs.Fetch.Routes

/-!
# Routes and the environment

An audit compares two ways to a target, so each fetch must go the way it is told. The environment
cannot lead it astray, neither by naming a proxy for the direct fetch nor by exempting hosts from
the proxy of the workers, and no redirect can either. Audits are observed here with the requests
that each transfer sends.

Main results:

* `tracked_environment` — what is observed is the same in any environment.
* `sent_direct`, `sent_proxy`  — all requests of a transfer go the way of its route.
* `routes_isolated`     — the routes of an audit, and that a match takes the proxy.
-/

namespace ProxyAudit

variable {σ : Type}

/-- What a transfer comes to, and the requests that were sent for it. -/
structure Journey where
  delivery : Delivery
  sent : List Request

namespace Surroundings

variable (s : Surroundings σ)

/-- The setting of a described world in which the requests of each transfer are kept. -/
def tracked : Setting (World σ) Journey where
  transfer url route limits := fun w =>
    let (delivery, w') := (s.setting.transfer url route limits).run w
    (⟨delivery, w'.requests.drop w.requests.length⟩, w')
  result journey := journey.delivery.result
  draw := s.machine.draw
  sleep := s.machine.sleep
  now := s.machine.now
  schedule := s.schedule

theorem machine_tracked : s.tracked.machine = s.machine :=
  rfl

-- ---------------------------------------------------------------------------
-- The environment
-- ---------------------------------------------------------------------------

theorem setting_environment (env : Environment) :
    { s with environment := env }.setting = s.setting := by
  have hDeliver : ∀ url route limits,
      s.network.deliver env url route limits
        = s.network.deliver s.environment url route limits := by
    intro url route limits
    rw [Network.deliver, Transfer.fetch_environment env s.environment]
    rfl
  simp only [setting]
  congr 1
  funext url route limits
  exact congrArg (World.record (.fetching url route limits) >>= fun _ => ·)
    (hDeliver url route limits)

/-- **What is observed of transfers is the same in any environment.** -/
theorem tracked_environment (env : Environment) :
    { s with environment := env }.tracked = s.tracked := by
  have hSetting := s.setting_environment env
  simp only [tracked, hSetting]
  rfl

-- ---------------------------------------------------------------------------
-- One transfer
-- ---------------------------------------------------------------------------

theorem requests_of_fetch {w w' : World σ} {url : String} {route : Route}
    {limits : TimeoutSection} {sent : List Request}
    (h : w'.trace = w.trace ++ .fetching url route limits :: sent.map .asked) :
    w'.requests = w.requests ++ sent := by
  rw [World.requests, h, List.filterMap_append, List.filterMap_cons_none rfl]
  refine congrArg (w.requests ++ ·) ?_
  clear h
  induction sent with
  | nil => rfl
  | cons request sent ih => exact congrArg (request :: ·) ih

/-- The requests of a transfer are those that its world sees. They go the way of the route, and
without one there is no body. -/
theorem run_tracked (url : String) (route : Route) (limits : TimeoutSection) (w : World σ) :
    let run := (s.tracked.transfer url route limits).run w
    run.2.requests = w.requests ++ run.1.sent ∧
      (route.IsNamed → ∀ request ∈ run.1.sent, route.Carries request) ∧
      ((∃ body, run.1.delivery.result = .ok body) → run.1.sent ≠ []) := by
  intro run
  obtain ⟨sent, hTrace, hCarries, hBody⟩ := s.run_fetch url route limits w
  have hRequests : run.2.requests = w.requests ++ sent := requests_of_fetch hTrace
  -- what was sent is what came on top of the requests before
  have hSent : run.1.sent = sent := by
    have hDrop : run.1.sent = run.2.requests.drop w.requests.length := rfl
    rw [hDrop, hRequests, List.drop_left]
  rw [hSent]
  exact ⟨hRequests, hCarries, hBody⟩

theorem sent_direct (url : String) (limits : TimeoutSection) (w : World σ) :
    ∀ request ∈ ((s.tracked.transfer url .direct limits).run w).1.sent, request.via = none :=
  (s.run_tracked url .direct limits w).2.1 trivial

/-- A proxy that is not blank carries all requests of its route. -/
theorem sent_proxy (url : String) {proxy : String} (hProxy : Text.isAllBlank proxy = false)
    (limits : TimeoutSection) (w : World σ) :
    ∀ request ∈ ((s.tracked.transfer url (.proxy proxy) limits).run w).1.sent,
      ∃ a, Address.parseProxy proxy = .ok a ∧ request.via = some a := by
  refine (s.run_tracked url (.proxy proxy) limits w).2.1 fun hEmpty => ?_
  rw [hEmpty] at hProxy
  contradiction

end Surroundings

-- ---------------------------------------------------------------------------
-- Audits
-- ---------------------------------------------------------------------------

/-- A result that was handed over was seen, with the fetch that it is about before it. -/
theorem Course.exists_fetch {α : Type} {a : Assignment} {result : α → FetchResult}
    {workers : UInt64} {results : List WorkerResult} {seen : List (Sighting α)}
    (hCourse : Course a result workers results seen) {r : WorkerResult} (hr : r ∈ results) :
    ∃ came, a.fetch r.index came ∈ seen ∧ r.outcome = .ofFetch a.reference (result came) := by
  rw [← hCourse.results_eq] at hr
  obtain ⟨x, hx, hResult⟩ := List.mem_filterMap.mp hr
  -- only what is handed over counts as a result
  obtain rfl : x = .took r := by
    cases x with
    | took r' => exact congrArg _ (Option.some.inj hResult)
    | _ => contradiction
  obtain ⟨before, after, hSplit⟩ := List.append_of_mem hx
  have hPrefix : before ++ [.took r] <+: seen := ⟨after, by rw [hSplit, List.append_assoc]; rfl⟩
  obtain ⟨came, hFetch, hOutcome⟩ := hCourse.causes before r hPrefix
  exact ⟨came, hPrefix.subset (List.mem_append_left _ hFetch), hOutcome⟩

/-- A match says that a body with the digest of the reference arrived. -/
theorem body_of_matched {reference : Digest} {fetched : FetchResult} {n : UInt64}
    (h : Outcome.matched n = .ofFetch reference fetched) :
    ∃ body, fetched = .ok body ∧ body.digest = reference ∧ body.bytes = n := by
  cases fetched with
  | error e => contradiction
  | ok body =>
    simp only [Outcome.ofFetch, Outcome.compare] at h
    split at h
    · next hSame => exact ⟨body, rfl, hSame, (Outcome.matched.inj h).symm⟩
    · contradiction

/--
**Routes are isolated from the environment.** Let a described world be given, and any other
environment for it.

* Every transfer comes to the same in both environments: the result, the requests, and the world in
  the end. So do audits and whole sessions.
* On the direct route no request of a transfer goes through a proxy, and on a route through a proxy
  that is not blank all of them go to it, wherever redirects lead.
* An audit that is not refused fetches directly first, and sends nothing through a proxy for it. All
  fetches after that send their requests to the proxy of the configuration.
* Whoever is reported to match has sent a request, and all of its requests went to the proxy.
-/
theorem routes_isolated (s : Surroundings σ) (env : Environment) (c : Config)
    (hSchedule : s.schedule.IsComplete) (onReference : Digest → StateM (World σ) Unit)
    (onResult : WorkerResult → StateM (World σ) Unit) (w : World σ) :
    let s' : Surroundings σ := { s with environment := env }
    let run := (c.observe s.tracked onReference onResult).run (.fresh w)
    (∀ url route limits, ∀ w, (s'.tracked.transfer url route limits).run w
      = (s.tracked.transfer url route limits).run w) ∧
    c.audit s'.machine onReference onResult = c.audit s.machine onReference onResult ∧
    (∀ l args, Session.runIn s'.platform l args = Session.runIn s.platform l args) ∧
    (∀ url limits w, ∀ request ∈ ((s.tracked.transfer url .direct limits).run w).1.sent,
      request.via = none) ∧
    (∀ url proxy limits w, Text.isAllBlank proxy = false →
      ∀ request ∈ ((s.tracked.transfer url (.proxy proxy) limits).run w).1.sent,
        ∃ a, Address.parseProxy proxy = .ok a ∧ request.via = some a) ∧
    (c.audit s.machine onReference onResult).run w = (run.1, run.2.world) ∧
    ((run.2.seen = [] ∧ c.check ≠ .ok ()) ∨
      ∃ journey rest, run.2.seen = .fetched none c.targetUrl .direct c.timeouts journey :: rest ∧
        (∀ request ∈ journey.sent, request.via = none) ∧
        ∀ worker url route limits journey, .fetched worker url route limits journey ∈ rest →
          url = c.targetUrl ∧ route = .proxy c.proxy ∧ limits = c.timeouts ∧
          ∀ request ∈ journey.sent,
            ∃ a, Address.parseProxy c.proxy = .ok a ∧ request.via = some a) ∧
    (∀ report, run.1 = .ok report → ∀ r ∈ report.results, ∀ n, r.outcome = .matched n →
      ∃ journey,
        .fetched (some r.index) c.targetUrl (.proxy c.proxy) c.timeouts journey ∈ run.2.seen ∧
        (∃ body, journey.delivery.result = .ok body ∧ body.digest = report.reference ∧
          body.bytes = n) ∧
        journey.sent ≠ [] ∧
        ∀ request ∈ journey.sent,
          ∃ a, Address.parseProxy c.proxy = .ok a ∧ request.via = some a) := by
  intro s' run
  -- the two environments give one machine, so nothing that is built on it can differ
  have hTracked : s'.tracked = s.tracked := s.tracked_environment env
  have hMachine : s'.machine = s.machine := by
    rw [← s'.machine_tracked, ← s.machine_tracked, hTracked]
  have hPlatform : s'.platform = s.platform := by
    simp only [Surroundings.platform, hMachine]
    rfl
  obtain ⟨hResult, hWorld⟩ := c.observe_world s.tracked onReference onResult (.fresh w)
  have hSources := observe_sources s.tracked c onReference onResult w
  have hProxy : c.check = .ok () → Text.isAllBlank c.proxy = false := fun hCheck =>
    ((Config.check_eq_ok_iff c).mp hCheck).proxy
  refine ⟨fun url route limits w => by rw [hTracked], by rw [hMachine],
    fun l args => by rw [hPlatform], s.sent_direct,
    fun url proxy limits w hProxy => s.sent_proxy url hProxy limits w,
    Prod.ext hResult.symm hWorld.symm, ?fetch, ?matched⟩
  case fetch =>
    rcases hSources with hNothing | ⟨rest, hCheck, hSeen, hRest⟩
    · exact .inl hNothing
    · refine .inr ⟨_, rest, hSeen, s.sent_direct _ _ _, ?_⟩
      -- every fetch of a worker is a transfer along the route of the configuration
      intro worker url route limits journey hFetch
      obtain ⟨rfl, rfl, rfl, w', rfl⟩ := hRest _ hFetch
      exact ⟨rfl, rfl, rfl, s.sent_proxy _ (hProxy hCheck) _ _⟩
  case matched =>
    intro report hReport r hr n hMatched
    obtain ⟨came, reference, seen, -, hRebuilt, hSeen, hCourse, -⟩ :=
      Config.observe_of_report onReference onResult hSchedule hReport
    obtain ⟨journey, hFetch, hOutcome⟩ := hCourse.exists_fetch hr
    obtain ⟨body, hBody, hDigest, hBytes⟩ := body_of_matched (hMatched.symm.trans hOutcome)
    have hReference : report.reference = reference.digest := by rw [hRebuilt]; rfl
    -- a report needs a reference, so something was seen
    rcases hSources with ⟨hNothing, -⟩ | ⟨rest, hCheck, hShown, hRest⟩
    · rw [hSeen] at hNothing
      contradiction
    · rw [hSeen] at hShown
      obtain rfl : Sighting.told reference.digest :: seen = rest := (List.cons.inj hShown).2
      obtain ⟨-, -, -, w', rfl⟩ := hRest _ (List.mem_cons_of_mem _ hFetch)
      refine ⟨_, ?_, ⟨body, hBody, hDigest.trans hReference.symm, hBytes⟩, ?_,
        s.sent_proxy _ (hProxy hCheck) _ w'⟩
      · rw [hSeen]
        exact List.mem_cons_of_mem _ (List.mem_cons_of_mem _ hFetch)
      · -- a body came, so a request was sent for it
        exact (s.run_tracked _ _ _ w').2.2 ⟨body, hBody⟩

/-- One worker, in an environment that names another proxy and exempts every host. Its match took
the proxy of the configuration. -/
theorem routes_isolated_of_exemption :
    let c : Config := { Config.default with targetUrl := "http://[::1]/", workers := 1 }
    let env : Environment := fun name =>
      if name = "no_proxy" then some "*" else if name = "http_proxy" then some "x:1" else none
    let s : Surroundings Nat := .replying fun _ => [[1]]
    let w : World Nat := .fresh 0 .empty
    ∃ report r journey,
      ((c.audit { s with environment := env }.machine (fun _ => pure ()) (fun _ => pure ())).run w).1
        = .ok report ∧
      r ∈ report.results ∧ r.outcome = .matched 1 ∧ journey.sent ≠ [] ∧
      .fetched (some r.index) c.targetUrl (.proxy "localhost:8080") c.timeouts journey
        ∈ ((c.observe s.tracked (fun _ => pure ()) (fun _ => pure ())).run (.fresh w)).2.seen ∧
      ∀ request ∈ journey.sent,
        ∃ a, Address.parseProxy "localhost:8080" = .ok a ∧ request.via = some a := by
  intro c env s w
  have hMatched : (((c.audit s.machine (fun _ => pure ()) (fun _ => pure ())).run w).1.map
      fun report => report.results.map (·.outcome)) = .ok [.matched 1] := by decide +kernel
  obtain ⟨-, hAudit, -, -, -, hObserved, -, hProof⟩ := routes_isolated s env c
    Pool.eager_isPeaceful.isComplete (fun _ => pure ()) (fun _ => pure ()) w
  rw [hObserved] at hMatched
  -- both environments and the observer have the same audit
  rw [hAudit, hObserved]
  cases hReport : ((c.observe s.tracked (fun _ => pure ()) (fun _ => pure ())).run (.fresh w)).1 with
  | error e =>
    rw [hReport] at hMatched
    contradiction
  | ok report =>
    rw [hReport] at hMatched
    obtain ⟨r, hOne, hOutcome⟩ := List.map_eq_singleton_iff.mp (Except.ok.inj hMatched)
    have hr : r ∈ report.results := by
      rw [hOne]
      exact List.mem_singleton_self r
    obtain ⟨journey, hSeen, -, hSent, hProxy⟩ := hProof report hReport r hr 1 hOutcome
    exact ⟨report, r, journey, rfl, hr, hOutcome, hSent, hSeen, hProxy⟩

end ProxyAudit
