import Mathlib
import ProxyAudit.Proofs.Audit.Routing

/-!
# Journeys of transfers

What a transfer in a described world comes to, and which requests it sends for that. A transfer is
opened if its options are accepted and its target is on the network; then it asks for the target
first. What it does with a reply depends on where the reply leads: nowhere, so that the transfer is
over, or on to another address, which a redirect tells.

An address on the network stays on the network over redirects, and the proxy of a route is the same
for all of them.

Main results:

* `tracked_of_opens`    — a transfer that is opened goes to its target.
* `tracked_of_refused`, `tracked_of_unread`, `tracked_of_notServed`, `tracked_of_noProxy` — one that
  is not asks nobody.
* `shows_visit_of_end`  — a reply that leads nowhere ends the transfer.
* `sent_le`             — no transfer sends more requests than one and one for each redirect.
-/

namespace ProxyAudit

-- ---------------------------------------------------------------------------
-- Addresses on the network
-- ---------------------------------------------------------------------------

/-- An address that is asked over the network. -/
structure Address.IsRemote (a : Address) : Prop where
  served : a.isServed = true
  notFile : a.isFile = false
  host : a.host ≠ []

namespace Address

theorem isRemote_of_parse? {url : String} {a : Address} (h : parse? url = some a)
    (hServed : a.isServed = true) (hFile : a.isFile = false) : a.IsRemote :=
  ⟨hServed, hFile, (hasHost_of_parse? h).resolve_left (by simp [hFile])⟩

theorem served_of_resolved {found : Option Address} {a : Address}
    (h : (match found with
      | some b => if b.isServed && !b.isFile then Except.ok b else .error Fault.unsupported
      | none => .error .malformedUrl) = .ok a) : a.isServed = true ∧ a.isFile = false := by
  cases found with
  | none => contradiction
  | some b =>
    dsimp only at h
    split at h
    · next hServed =>
      cases h
      simpa using hServed
    · contradiction

/-- A redirect leads from an address on the network to another one. -/
theorem isRemote_of_resolve {base a : Address} {location : String} (hBase : base.IsRemote)
    (h : base.resolve location = .ok a) : a.IsRemote := by
  have hHost := hasHost_of_resolve (.inr hBase.host) h
  suffices hServed : a.isServed = true ∧ a.isFile = false from
    ⟨hServed.1, hServed.2, hHost.resolve_left (by simp [hServed.2])⟩
  unfold resolve at h
  dsimp only at h
  split at h
  · contradiction
  split at h
  · -- a location with a scheme
    split at h
    · exact served_of_resolved h
    · contradiction
  · -- a location without one keeps the scheme
    split at h
    · exact served_of_resolved h
    all_goals
      cases h
      exact ⟨hBase.served, hBase.notFile⟩

end Address

-- ---------------------------------------------------------------------------
-- The proxy of a route
-- ---------------------------------------------------------------------------

/-- The proxy that a route leads to, whatever the target. -/
def Route.via : Route → Except Fault (Option Address)
  | direct => .ok none
  | proxy address => if address = "" then .ok none else (Address.parseProxy address).map some

theorem Transfer.proxyFor_eq (env : Environment) (route : Route) {target : Address}
    (hHost : target.host ≠ []) : proxyFor env route target = route.via := by
  unfold proxyFor
  cases route with
  | direct =>
    rw [Route.choose_direct env _ (map_host_ne_nil hHost)]
    rfl
  | proxy address =>
    rw [Route.choose_proxy, Route.via]
    by_cases hNone : address = "" <;> simp [hNone]

-- ---------------------------------------------------------------------------
-- Replies
-- ---------------------------------------------------------------------------

namespace Reply

/-- Where a reply from an address sends a transfer on to, if it is a redirect. -/
def next? (address : Address) : Reply → Option (Except Fault Address)
  | .broken _ _ => none
  | .complete status location _ => (redirection? status location).map address.resolve

/-- What a reply brings to a transfer that ends with it. -/
def delivery : Reply → Delivery
  | .broken _ f => .broken f
  | .complete status _ pieces => .whole status pieces

end Reply

namespace Transfer

variable {address : Address} {reply : Reply} {goOn : Option (Address → Transfer)}

theorem receive_of_end (h : reply.next? address = none) :
    receive address goOn reply = .done reply.delivery := by
  cases reply with
  | broken pieces f => rfl
  | complete status location pieces =>
    have hNone : redirection? status location = none := Option.map_eq_none_iff.mp h
    simp only [receive, hNone]
    rfl

theorem receive_of_next {next : Address} {goOn : Address → Transfer}
    (h : reply.next? address = some (.ok next)) :
    receive address (some goOn) reply = goOn next := by
  cases reply with
  | broken pieces f => contradiction
  | complete status location pieces =>
    obtain ⟨location', hSome, hNext⟩ := Option.map_eq_some_iff.mp h
    simp only [receive, hSome, hNext]

theorem receive_of_stray {f : Fault} {goOn : Address → Transfer}
    (h : reply.next? address = some (.error f)) :
    receive address (some goOn) reply = failed f := by
  cases reply with
  | broken pieces f => contradiction
  | complete status location pieces =>
    obtain ⟨location', hSome, hNext⟩ := Option.map_eq_some_iff.mp h
    simp only [receive, hSome, hNext]

/-- Where no redirect is followed any more, another one is one too many. -/
theorem receive_of_limit (h : (reply.next? address).isSome = true) :
    receive address none reply = failed .tooManyRedirects := by
  cases reply with
  | broken pieces f => contradiction
  | complete status location pieces =>
    obtain ⟨location', hSome⟩ :=
      Option.isSome_iff_exists.mp (by simpa [Reply.next?] using h)
    simp only [receive, hSome]

end Transfer

-- ---------------------------------------------------------------------------
-- Journeys
-- ---------------------------------------------------------------------------

variable {σ : Type}

namespace Surroundings

variable (s : Surroundings σ)

/-- What a transfer shows in a world: what it comes to, and the requests that are sent for it. -/
def Shows (limits : TimeoutSection) (t : Transfer) (w : World σ) (j : Journey) : Prop :=
  ((t.runIn s.network limits).run w).1 = j.delivery ∧
    ((t.runIn s.network limits).run w).2.trace = w.trace ++ j.sent.map .asked

/-- The reply to a request in a world. -/
def replyTo (limits : TimeoutSection) (q : Request) (w : World σ) : Reply :=
  ((s.answer limits q).run w.far).1

variable {s} {limits : TimeoutSection}

theorem shows_done (d : Delivery) (w : World σ) : s.Shows limits (.done d) w ⟨d, []⟩ :=
  ⟨rfl, (List.append_nil _).symm⟩

theorem shows_failed (f : Fault) (w : World σ) :
    s.Shows limits (Transfer.failed f) w ⟨.broken f, []⟩ :=
  shows_done _ w

theorem shows_watch {next : Bool → Transfer} {w : World σ} {j : Journey}
    (h : s.Shows limits (next s.isWatchable) w j) : s.Shows limits (.watch next) w j :=
  h

theorem shows_ask {q : Request} {next : Reply → Transfer} {w : World σ} {j : Journey}
    (h : s.Shows limits (next (s.replyTo limits q w)) ((s.network.answer limits q).run w).2 j) :
    s.Shows limits (.ask q next) w ⟨j.delivery, q :: j.sent⟩ := by
  refine ⟨h.1, h.2.trans ?_⟩
  have hAsked : ((s.network.answer limits q).run w).2.trace = w.trace ++ [.asked q] := rfl
  rw [hAsked, List.append_assoc]
  rfl

/-- A visit to an address on the network asks for it along the way of the route. -/
theorem shows_visit {route : Route} {via : Option Address} {target : Address}
    {goOn : Option (Address → Transfer)} {w : World σ} {j : Journey} (hVia : route.via = .ok via)
    (hRemote : target.IsRemote)
    (h : s.Shows limits (Transfer.receive target goOn (s.replyTo limits ⟨via, target⟩ w))
      ((s.network.answer limits ⟨via, target⟩).run w).2 j) :
    s.Shows limits (Transfer.visit s.environment route goOn target) w
      ⟨j.delivery, ⟨via, target⟩ :: j.sent⟩ := by
  rw [Transfer.visit, if_neg (by simp [hRemote.notFile]), Transfer.proxyFor_eq _ _ hRemote.host,
    hVia]
  exact shows_ask h

/-- **A reply that leads nowhere ends the transfer.** -/
theorem shows_visit_of_end {route : Route} {via : Option Address} {target : Address}
    {goOn : Option (Address → Transfer)} {w : World σ} (hVia : route.via = .ok via)
    (hRemote : target.IsRemote)
    (hEnd : (s.replyTo limits ⟨via, target⟩ w).next? target = none) :
    s.Shows limits (Transfer.visit s.environment route goOn target) w
      ⟨(s.replyTo limits ⟨via, target⟩ w).delivery, [⟨via, target⟩]⟩ := by
  refine shows_visit (j := ⟨_, []⟩) hVia hRemote ?_
  rw [Transfer.receive_of_end hEnd]
  exact shows_done _ _

/-- The world in which a transfer has begun. -/
def begun (url : String) (route : Route) (limits : TimeoutSection) (w : World σ) : World σ :=
  ((World.record (.fetching url route limits)).run w).2

theorem tracked_of_shows {url : String} {route : Route} {w : World σ} {j : Journey}
    (h : s.Shows limits (Transfer.fetch s.environment url route limits)
      (begun url route limits w) j) :
    ((s.tracked.transfer url route limits).run w).1 = j := by
  obtain ⟨hDelivery, hTrace⟩ := h
  have hBegun : (begun url route limits w).trace = w.trace ++ [.fetching url route limits] := rfl
  rw [hBegun, List.append_assoc] at hTrace
  -- the requests are read off the trace, which the transfer only adds to
  have hRequests : ((s.tracked.transfer url route limits).run w).2.requests
      = w.requests ++ j.sent := requests_of_fetch hTrace
  have hSent : ((s.tracked.transfer url route limits).run w).1.sent = j.sent := by
    have hDrop : ((s.tracked.transfer url route limits).run w).1.sent
        = ((s.tracked.transfer url route limits).run w).2.requests.drop w.requests.length := rfl
    rw [hDrop, hRequests, List.drop_left]
  have hDelivered : ((s.tracked.transfer url route limits).run w).1.delivery = j.delivery :=
    hDelivery
  cases j
  exact congrArg₂ Journey.mk hDelivered hSent

end Surroundings

-- ---------------------------------------------------------------------------
-- How a transfer begins
-- ---------------------------------------------------------------------------

/-- A transfer whose options are accepted, to a target on the network. -/
structure Transfer.Opens (url : String) (route : Route) (limits : TimeoutSection)
    (target : Address) (via : Option Address) : Prop where
  accepted : refused? url route limits = none
  parsed : Address.parse? url = some target
  served : target.isServed = true
  notFile : target.isFile = false
  via : route.via = .ok via

theorem Transfer.Opens.isRemote {url : String} {route : Route} {limits : TimeoutSection}
    {target : Address} {via : Option Address} (h : Opens url route limits target via) :
    target.IsRemote :=
  Address.isRemote_of_parse? h.parsed h.served h.notFile

namespace Surroundings

variable {s : Surroundings σ} {url : String} {route : Route} {limits : TimeoutSection}

theorem tracked_of_refused {f : Fault} (h : Transfer.refused? url route limits = some f)
    (w : World σ) : ((s.tracked.transfer url route limits).run w).1 = ⟨.broken f, []⟩ := by
  refine tracked_of_shows ?_
  rw [Transfer.fetch, h]
  exact shows_failed f _

variable (hWatch : s.isWatchable = true) (hAccepted : Transfer.refused? url route limits = none)
include hWatch hAccepted

/-- A text that is no address is asked of nobody. -/
theorem tracked_of_unread (hParsed : Address.parse? url = none) (w : World σ) :
    ((s.tracked.transfer url route limits).run w).1 = ⟨.broken .malformedUrl, []⟩ := by
  refine tracked_of_shows ?_
  rw [Transfer.fetch, hAccepted]
  refine shows_watch ?_
  simp only [hWatch, hParsed, Bool.not_true, Bool.false_eq_true, if_false]
  exact shows_failed _ _

variable {target : Address} (hParsed : Address.parse? url = some target)
include hParsed

/-- An address that is not served is asked of nobody. -/
theorem tracked_of_notServed (hServed : target.isServed = false) (w : World σ) :
    ((s.tracked.transfer url route limits).run w).1 = ⟨.broken .unsupported, []⟩ := by
  refine tracked_of_shows ?_
  rw [Transfer.fetch, hAccepted]
  refine shows_watch ?_
  simp only [hWatch, hParsed, hServed, Bool.not_true, Bool.false_eq_true, if_false]
  exact shows_failed _ _

/-- **A transfer goes to a target that is served.** -/
theorem tracked_of_served (hServed : target.isServed = true) {w : World σ} {j : Journey}
    (h : s.Shows limits (Transfer.follow s.environment route Transfer.maxRedirects target)
      (begun url route limits w) j) : ((s.tracked.transfer url route limits).run w).1 = j := by
  refine tracked_of_shows ?_
  rw [Transfer.fetch, hAccepted]
  refine shows_watch ?_
  simp only [hWatch, hParsed, hServed, Bool.not_true, Bool.false_eq_true, if_false, if_true]
  exact h

/-- Without a proxy that can be read nobody is asked. -/
theorem tracked_of_noProxy (hServed : target.isServed = true) (hFile : target.isFile = false)
    {f : Fault} (hVia : route.via = .error f) (w : World σ) :
    ((s.tracked.transfer url route limits).run w).1 = ⟨.broken f, []⟩ := by
  refine tracked_of_served hWatch hAccepted hParsed hServed ?_
  have hRemote := Address.isRemote_of_parse? hParsed hServed hFile
  rw [Transfer.maxRedirects, Transfer.follow, Transfer.visit, if_neg (by simp [hFile]),
    Transfer.proxyFor_eq _ _ hRemote.host, hVia]
  exact shows_failed f _

end Surroundings

/-- A transfer that is opened goes to its target. -/
theorem Surroundings.tracked_of_opens {s : Surroundings σ} (hWatch : s.isWatchable = true)
    {url : String} {route : Route} {limits : TimeoutSection} {target : Address}
    {via : Option Address} (hOpens : Transfer.Opens url route limits target via) {w : World σ}
    {j : Journey}
    (h : s.Shows limits (Transfer.follow s.environment route Transfer.maxRedirects target)
      (begun url route limits w) j) : ((s.tracked.transfer url route limits).run w).1 = j :=
  tracked_of_served hWatch hOpens.accepted hOpens.parsed hOpens.served h

-- ---------------------------------------------------------------------------
-- How many requests
-- ---------------------------------------------------------------------------

namespace Transfer

/-- Whatever the answers are, a transfer sends no more than so many requests. -/
def AsksAtMost : Nat → Transfer → Prop
  | _, done _ => True
  | n, watch next | n, look _ next => ∀ b, AsksAtMost n (next b)
  | 0, ask _ _ => False
  | n + 1, ask _ next => ∀ reply, AsksAtMost n (next reply)

theorem asksAtMost_receive {n : Nat} {target : Address} {goOn : Option (Address → Transfer)}
    (hGoOn : ∀ next ∈ goOn, ∀ a, AsksAtMost n (next a)) (reply : Reply) :
    AsksAtMost n (receive target goOn reply) := by
  -- only a redirect that is followed asks again, and then for what is left
  cases hNext : reply.next? target with
  | none =>
    rw [receive_of_end hNext]
    trivial
  | some next =>
    cases goOn with
    | none =>
      rw [receive_of_limit (by simp [hNext])]
      trivial
    | some goOn =>
      cases next with
      | error f =>
        rw [receive_of_stray hNext]
        trivial
      | ok next =>
        rw [receive_of_next hNext]
        exact hGoOn goOn rfl next

theorem asksAtMost_visit {n : Nat} (env : Environment) (route : Route) {target : Address}
    {goOn : Option (Address → Transfer)}
    (hGoOn : ∀ next ∈ goOn, ∀ a, AsksAtMost n (next a)) :
    AsksAtMost (n + 1) (visit env route goOn target) := by
  unfold visit
  split
  · intro readable
    cases readable <;> trivial
  · split
    · trivial
    · exact asksAtMost_receive hGoOn

theorem asksAtMost_follow (env : Environment) (route : Route) (budget : Nat) (target : Address) :
    AsksAtMost (budget + 1) (follow env route budget target) := by
  induction budget generalizing target with
  | zero => exact asksAtMost_visit env route fun next hNone => nomatch hNone
  | succ budget ih =>
    refine asksAtMost_visit env route fun next hNext => ?_
    rw [← Option.some.inj hNext]
    exact ih

theorem asksAtMost_fetch (env : Environment) (url : String) (route : Route)
    (limits : TimeoutSection) : AsksAtMost (maxRedirects + 1) (fetch env url route limits) :=
  fetch_induction (fun _ => trivial) (fun _ hNext => hNext)
    fun target _ => asksAtMost_follow env route maxRedirects target

end Transfer

namespace Surroundings

variable {s : Surroundings σ} {limits : TimeoutSection}

theorem exists_shows (s : Surroundings σ) (limits : TimeoutSection) (t : Transfer) (w : World σ) :
    ∃ j, s.Shows limits t w j ∧ ∀ n, t.AsksAtMost n → j.sent.length ≤ n := by
  induction t generalizing w with
  | done d => exact ⟨_, shows_done d w, fun n _ => Nat.zero_le n⟩
  | watch next ih =>
    obtain ⟨j, hShows, hCount⟩ := ih s.isWatchable w
    exact ⟨j, shows_watch hShows, fun n hAsks => hCount n (by cases n <;> exact hAsks _)⟩
  | look path next ih =>
    -- looking for a file leaves the trace as it is
    obtain ⟨j, hShows, hCount⟩ :=
      ih ((s.network.isReadable path).run w).1 ((s.network.isReadable path).run w).2
    have hSame : ((s.network.isReadable path).run w).2.trace = w.trace := by
      simp only [network]
      split <;> rfl
    refine ⟨j, ⟨hShows.1, hShows.2.trans (by rw [hSame])⟩, fun n hAsks => hCount n ?_⟩
    cases n <;> exact hAsks _
  | ask q next ih =>
    obtain ⟨j, hShows, hCount⟩ :=
      ih (s.replyTo limits q w) ((s.network.answer limits q).run w).2
    refine ⟨_, shows_ask hShows, fun n hAsks => ?_⟩
    cases n with
    | zero => exact hAsks.elim
    | succ n => exact Nat.succ_le_succ (hCount n (hAsks _))

/-- **No transfer sends more requests than one and one for each redirect.** -/
theorem sent_le (s : Surroundings σ) (url : String) (route : Route) (limits : TimeoutSection)
    (w : World σ) :
    ((s.tracked.transfer url route limits).run w).1.sent.length ≤ Transfer.maxRedirects + 1 := by
  obtain ⟨j, hShows, hCount⟩ := exists_shows s limits
    (Transfer.fetch s.environment url route limits) (begun url route limits w)
  rw [tracked_of_shows hShows]
  exact hCount _ (Transfer.asksAtMost_fetch s.environment url route limits)

end Surroundings

end ProxyAudit
