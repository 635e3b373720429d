import Mathlib
import ProxyAudit.Proofs.Fetch.Routes
import ProxyAudit.Proofs.Session.Keeping

/-!
# The traffic of a session

Every request is sent for a fetch, the last one that had begun before it. A session that carries a
command out by some configuration begins no fetch but of that configuration's target, within its
limits and along its routes, and sleeps no longer than its jitter allows. It goes through the proxy
and sleeps only if the whole configuration is sound. All of this holds at any moment of an audit,
so it does not matter how far its pool comes.

Main results:

* `Conduct.append`   — what comes after good conduct may be judged by itself.
* `keptBy_conduct`   — a command keeps to the configuration that it is carried out by.
-/

namespace ProxyAudit

variable {σ β : Type}

-- ---------------------------------------------------------------------------
-- Requests and their fetches
-- ---------------------------------------------------------------------------

/-- A fetch that has begun. -/
structure Fetching where
  url : String
  route : Route
  limits : TimeoutSection
  deriving DecidableEq, Repr

/-- The requests among some events, each with the fetch that had begun last. -/
def requestsFor (begun : Option Fetching) : List Event → List (Option Fetching × Request)
  | [] => []
  | .fetching url route limits :: events => requestsFor (some ⟨url, route, limits⟩) events
  | .asked request :: events => (begun, request) :: requestsFor begun events
  | .printed _ :: events | .complained _ :: events | .logged _ _ :: events
  | .slept _ :: events => requestsFor begun events

theorem mem_requestsFor_append {begun : Option Fetching} {events more : List Event}
    {x : Option Fetching × Request} (h : x ∈ requestsFor begun (events ++ more)) :
    x ∈ requestsFor begun events ∨ ∃ begun', x ∈ requestsFor begun' more := by
  induction events generalizing begun with
  | nil => exact .inr ⟨begun, h⟩
  | cons e events ih =>
    cases e with
    | asked request =>
      rcases List.mem_cons.mp h with rfl | hLater
      · exact .inl List.mem_cons_self
      · exact (ih hLater).imp_left (List.mem_cons_of_mem _)
    | _ => exact ih h

theorem requestsFor_map_asked (begun : Option Fetching) (sent : List Request) :
    requestsFor begun (sent.map .asked) = sent.map fun request => (begun, request) := by
  induction sent with
  | nil => rfl
  | cons request sent ih => exact congrArg ((begun, request) :: ·) ih

theorem requestsFor_of_idle (begun : Option Fetching) {events : List Event}
    (h : ∀ e ∈ events, e.IsIdle) : requestsFor begun events = [] := by
  induction events generalizing begun with
  | nil => rfl
  | cons e events ih =>
    obtain ⟨hFirst, hMore⟩ := List.forall_mem_cons.mp h
    cases e with
    | asked request => exact hFirst.elim
    | slept span => exact hFirst.elim
    | _ => exact ih _ hMore

theorem map_snd_requestsFor (begun : Option Fetching) (events : List Event) :
    (requestsFor begun events).map Prod.snd
      = events.filterMap fun
        | .asked request => some request
        | _ => none := by
  induction events generalizing begun with
  | nil => rfl
  | cons e events ih =>
    cases e with
    | asked request => exact congrArg (request :: ·) (ih begun)
    | _ => exact ih _

/-- All requests of a world belong to some fetch, or none. -/
theorem World.requests_of_trace {w w' : World σ} {events : List Event}
    (h : w'.trace = w.trace ++ events) (begun : Option Fetching) :
    w'.requests = w.requests ++ (requestsFor begun events).map Prod.snd := by
  rw [requests, h, List.filterMap_append, map_snd_requestsFor]
  rfl

-- ---------------------------------------------------------------------------
-- Conduct
-- ---------------------------------------------------------------------------

/-- The routes that a command may take by a configuration: the direct one, and the one through its
proxy if all of it is sound. -/
def Config.Permits (c : Config) : Route → Prop
  | .direct => True
  | .proxy address => address = c.proxy ∧ c.check = .ok ()

theorem Config.permits_direct (c : Config) : c.Permits .direct :=
  trivial

theorem Config.permits_proxy {c : Config} (hCheck : c.check = .ok ()) :
    c.Permits (.proxy c.proxy) :=
  ⟨rfl, hCheck⟩

theorem Config.Permits.isNamed {c : Config} {route : Route} (h : c.Permits route) :
    route.IsNamed := by
  cases route with
  | direct => trivial
  | proxy address =>
    obtain ⟨rfl, hCheck⟩ := h
    intro hEmpty
    have hBlank := ((check_eq_ok_iff c).mp hCheck).proxy
    rw [hEmpty] at hBlank
    contradiction

/-- Events that keep to a configuration. -/
structure Conduct (s : Surroundings σ) (c : Config) (events : List Event) : Prop where
  /-- Each request is sent for a fetch of the target, and goes the way of its route. -/
  requests : ∀ begun, ∀ x ∈ requestsFor begun events, ∃ route, c.Permits route ∧
    x.1 = some ⟨c.targetUrl, route, c.timeouts⟩ ∧ route.Carries x.2
  /-- Each sleep was drawn from the jitter. -/
  sleeps : ∀ span, .slept span ∈ events →
    c.check = .ok () ∧ ∃ n, c.jitter.toJitter.sample (s.draw n) = some span

namespace Conduct

variable {s : Surroundings σ} {c : Config} {events more : List Event}

theorem of_idle (h : ∀ e ∈ events, e.IsIdle) : Conduct s c events where
  requests begun x hx := by
    rw [requestsFor_of_idle begun h] at hx
    contradiction
  sleeps span hSlept := (h _ hSlept).elim

theorem append (h : Conduct s c events) (hMore : Conduct s c more) :
    Conduct s c (events ++ more) where
  requests begun x hx := by
    rcases mem_requestsFor_append hx with hBefore | ⟨begun', hAfter⟩
    · exact h.requests begun x hBefore
    · exact hMore.requests begun' x hAfter
  sleeps span hSlept := by
    rcases List.mem_append.mp hSlept with hBefore | hAfter
    · exact h.sleeps span hBefore
    · exact hMore.sleeps span hAfter

theorem fetch {route : Route} (hPermits : c.Permits route) {sent : List Request}
    (hCarries : ∀ request ∈ sent, route.Carries request) :
    Conduct s c (.fetching c.targetUrl route c.timeouts :: sent.map .asked) where
  requests begun x hx := by
    rw [requestsFor, requestsFor_map_asked] at hx
    obtain ⟨request, hSent, rfl⟩ := List.mem_map.mp hx
    exact ⟨route, hPermits, rfl, hCarries request hSent⟩
  sleeps span hSlept := by simp at hSlept

theorem sleep (hCheck : c.check = .ok ()) {n : Nat} {span : Span}
    (hSpan : c.jitter.toJitter.sample (s.draw n) = some span) : Conduct s c [.slept span] where
  requests begun x hx := by cases hx
  sleeps other hOther := by
    obtain rfl : span = other := by simpa using (List.mem_singleton.mp hOther).symm
    exact ⟨hCheck, n, hSpan⟩

end Conduct

-- ---------------------------------------------------------------------------
-- Commands
-- ---------------------------------------------------------------------------

namespace Session

open World

variable {s : Surroundings σ} {c : Config} {w₀ : World σ}

/-- All that has happened since a moment keeps to a configuration. -/
def ConductSince (s : Surroundings σ) (c : Config) (w₀ w : World σ) : Prop :=
  ∃ events, w.trace = w₀.trace ++ events ∧ Conduct s c events

theorem ConductSince.refl (w : World σ) : ConductSince s c w w :=
  ⟨[], (List.append_nil _).symm, .of_idle (by simp)⟩

theorem ConductSince.extend {w w' : World σ} (h : ConductSince s c w₀ w) {more : List Event}
    (hTrace : w'.trace = w.trace ++ more) (hMore : Conduct s c more) :
    ConductSince s c w₀ w' := by
  obtain ⟨events, hBefore, hEvents⟩ := h
  refine ⟨events ++ more, ?_, hEvents.append hMore⟩
  rw [hTrace, hBefore, List.append_assoc]

theorem keeps_of_records {x : StateM (World σ) β} (h : Records Event.IsIdle x) :
    Keeps (ConductSince s c w₀) x := by
  intro w hw
  obtain ⟨more, hTrace, hIdle⟩ := h w
  exact hw.extend hTrace (.of_idle hIdle)

theorem keeps_record {e : Event} (h : e.IsIdle) : Keeps (ConductSince s c w₀) (record e) :=
  keeps_of_records (records_record h)

theorem keeps_fetch {route : Route} (hPermits : c.Permits route) :
    Keeps (ConductSince s c w₀) (s.machine.fetch c.targetUrl route c.timeouts) := by
  intro w hw
  obtain ⟨sent, hTrace, hCarries, -⟩ := s.run_fetch c.targetUrl route c.timeouts w
  exact hw.extend hTrace (.fetch hPermits (hCarries hPermits.isNamed))

/-- With a sound configuration the workers keep to it. -/
theorem keepsFor_machine (hCheck : c.check = .ok ()) :
    s.machine.KeepsFor (ConductSince s c w₀) c where
  fetch := keeps_fetch (Config.permits_proxy hCheck)
  draw := keeps_of_records (records_tick.bind fun _ => .pure _)
  sleep := by
    refine ⟨fun draw => ∃ n, draw = s.draw n, fun w => ⟨w.ticks, rfl⟩, ?_⟩
    rintro _ span ⟨n, rfl⟩ hSpan w hw
    exact hw.extend (trace_record (.slept span) w) (.sleep hCheck hSpan)
  now := keeps_of_records (records_tick.bind fun _ => .pure _)
  runPool p work onTake hWork hTake := keeps_runFor hWork hTake s.schedule p.measure 0 p

/-- **A command keeps to the configuration that it is carried out by.** -/
theorem keptBy_conduct : KeptBy (ConductSince s c w₀) s c where
  words _ := keeps_record
  direct := keeps_fetch c.permits_direct
  workers := keepsFor_machine

end Session

end ProxyAudit
