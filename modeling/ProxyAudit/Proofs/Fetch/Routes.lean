import Mathlib
import ProxyAudit.Proofs.Pool.Runs
import ProxyAudit.World

/-!
# The way of requests

A transfer is told its proxy and the hosts that need none, so it never asks its environment: it is
the same transfer whatever the variables say. On the direct route all its requests, those after
redirects among them, go straight to their targets, and on a route through a proxy all of them go
to that proxy. A transfer that brings a body has sent a request.

An address that is asked has a host. This matters, since a list of exempt hosts exempts no empty
name.

Main results:

* `fetch_environment`  — a transfer is the same in any two environments.
* `sendsOnly_fetch`    — every request of a transfer goes the way of its route.
* `run_transfer`       — the requests of a transfer in a described world.
-/

namespace ProxyAudit

-- ---------------------------------------------------------------------------
-- Hosts
-- ---------------------------------------------------------------------------

namespace Address

/-- An address of a local file, or one with a host to ask. -/
def HasHost (a : Address) : Prop :=
  a.isFile = true ∨ a.host ≠ []

theorem parseHost?_ne_nil {cs : List Char} {host : Bytes} (h : parseHost? cs = some host) :
    host ≠ [] := by
  unfold parseHost? at h
  split at h
  · next hBracket =>
    split at h
    · cases h
      intro hNone
      -- a text without bytes is empty, but this one starts with a bracket
      have hNoBytes : Bytes.ofText "" = [] := by decide +kernel
      have hEmpty : String.ofList cs = "" := Bytes.ofText_inj (hNone.trans hNoBytes.symm)
      have hNil : cs = [] := by simpa using hEmpty
      rw [hNil] at hBracket
      contradiction
    · contradiction
  · dsimp only at h
    split at h
    · contradiction
    · next hGood =>
      intro hNone
      rw [Option.some.inj h, hNone] at hGood
      exact hGood rfl

theorem hasHost_of_parseRest? {scheme : Option (List Char)} {cs : List Char} {a : Address}
    (h : parseRest? scheme cs = some a) : a.HasHost := by
  simp only [parseRest?, parseAuthority?, bind, Option.bind_eq_some_iff, pure,
    Option.some.injEq] at h
  obtain ⟨_, ⟨_, -, _, hHost, rfl⟩, rfl⟩ := h
  exact .inr (parseHost?_ne_nil hHost)

theorem hasHost_of_parseAfterScheme? {scheme rest : List Char} {a : Address}
    (h : parseAfterScheme? scheme rest = some a) : a.HasHost := by
  unfold parseAfterScheme? at h
  split at h
  · next hFile =>
    obtain ⟨path, -, rfl⟩ := Option.map_eq_some_iff.mp h
    exact .inl (by simp [isFile, hFile])
  · dsimp only at h
    split at h
    · contradiction
    split at h
    · contradiction
    · exact hasHost_of_parseRest? h

theorem hasHost_of_parse? {s : String} {a : Address} (h : parse? s = some a) : a.HasHost := by
  unfold parse? at h
  split at h
  · contradiction
  split at h
  · exact hasHost_of_parseAfterScheme? h
  · exact hasHost_of_parseRest? h

theorem hasHost_of_served {found : Option Address} {a : Address}
    (h : (match found with
      | some b => if b.isServed && !b.isFile then Except.ok b else .error Fault.unsupported
      | none => .error .malformedUrl) = .ok a)
    (hFound : ∀ b, found = some b → b.HasHost) : a.HasHost := by
  cases found with
  | none => contradiction
  | some b =>
    dsimp only at h
    split at h
    · cases h
      exact hFound a rfl
    · contradiction

/-- A redirect leads from an address with a host to another one. -/
theorem hasHost_of_resolve {base a : Address} {location : String} (hBase : base.HasHost)
    (h : base.resolve location = .ok a) : a.HasHost := by
  unfold resolve at h
  dsimp only at h
  split at h
  · contradiction
  split at h
  · -- a location with a scheme
    split at h
    · exact hasHost_of_served h fun _ => hasHost_of_parseAfterScheme?
    · contradiction
  · -- a location without one names another host after two slashes, or keeps the host
    split at h
    · exact hasHost_of_served h fun _ => hasHost_of_parseAfterScheme?
    all_goals
      cases h
      exact hBase

end Address

-- ---------------------------------------------------------------------------
-- One request
-- ---------------------------------------------------------------------------

namespace Route

/-- A route that is direct or names a proxy. -/
def IsNamed : Route → Prop
  | direct => True
  | proxy address => address ≠ ""

/-- A request goes the way of a route: straight to its target, or to the proxy of the route. -/
def Carries : Route → Request → Prop
  | direct, request => request.via = none
  | proxy address, request => ∃ a, Address.parseProxy address = .ok a ∧ request.via = some a

end Route

namespace Transfer

variable {route : Route} {target : Address}

theorem map_host_ne_nil (hHost : target.host ≠ []) :
    target.host.map (fun b => Char.ofNat b.toNat) ≠ [] := by
  simpa using hHost

/-- The proxy of a request is not chosen by the environment. -/
theorem proxyFor_environment (env env' : Environment) (route : Route)
    (hHost : target.host ≠ []) : proxyFor env route target = proxyFor env' route target := by
  unfold proxyFor
  cases route with
  | direct =>
    rw [Route.choose_direct env _ (map_host_ne_nil hHost),
      Route.choose_direct env' _ (map_host_ne_nil hHost)]
  | proxy address => rw [Route.choose_proxy, Route.choose_proxy]

/-- The proxy of a request is the one that the route names. -/
theorem carries_of_proxyFor {env : Environment} {via : Option Address} (hRoute : route.IsNamed)
    (hHost : target.host ≠ []) (h : proxyFor env route target = .ok via) :
    route.Carries ⟨via, target⟩ := by
  unfold proxyFor at h
  cases route with
  | direct =>
    rw [Route.choose_direct env _ (map_host_ne_nil hHost)] at h
    exact (Except.ok.inj h).symm
  | proxy address =>
    rw [Route.choose_proxy, if_neg hRoute] at h
    dsimp only at h
    -- a proxy that cannot be read is a fault, and then there is no request
    cases hParsed : Address.parseProxy address with
    | error f =>
      rw [hParsed] at h
      contradiction
    | ok a =>
      rw [hParsed] at h
      exact ⟨a, hParsed, (Except.ok.inj h).symm⟩

-- ---------------------------------------------------------------------------
-- The environment
-- ---------------------------------------------------------------------------

/-- A step of a transfer asks its environment nothing, if the way on does not. -/
theorem visit_environment (env env' : Environment) (route : Route)
    {goOn goOn' : Option (Address → Transfer)} (hHost : target.HasHost)
    (hGoOn : ∀ reply, receive target goOn reply = receive target goOn' reply) :
    visit env route goOn target = visit env' route goOn' target := by
  unfold visit
  split
  · rfl
  · next hNetwork =>
    rw [proxyFor_environment env env' route (hHost.resolve_left hNetwork)]
    split
    · rfl
    · next via _ =>
      show ask ⟨via, target⟩ (receive target goOn) = ask ⟨via, target⟩ (receive target goOn')
      rw [funext hGoOn]

theorem follow_environment (env env' : Environment) (route : Route) (budget : Nat)
    (hHost : target.HasHost) :
    follow env route budget target = follow env' route budget target := by
  induction budget generalizing target with
  | zero => exact visit_environment env env' route hHost fun _ => rfl
  | succ budget ih =>
    refine visit_environment env env' route hHost fun reply => ?_
    -- the reply decides where to go on, and that is looked at without the environment
    cases reply with
    | broken pieces f => rfl
    | complete status location pieces =>
      cases hNext : redirection? status location with
      | none => simp only [receive, hNext]
      | some location =>
        cases hResolved : target.resolve location with
        | error f => simp only [receive, hNext, hResolved]
        | ok next =>
          simp only [receive, hNext, hResolved]
          exact ih (Address.hasHost_of_resolve hHost hResolved)

/-- **The environment has no say.** -/
theorem fetch_environment (env env' : Environment) (url : String) (route : Route)
    (limits : TimeoutSection) : fetch env url route limits = fetch env' url route limits := by
  unfold fetch
  cases hParsed : Address.parse? url with
  | none => rfl
  | some target =>
    dsimp only
    rw [follow_environment env env' route maxRedirects (Address.hasHost_of_parse? hParsed)]

/-- A transfer fails at once, or watches and then fails or goes to its target. -/
theorem fetch_induction {env : Environment} {url : String} {limits : TimeoutSection}
    {P : Transfer → Prop} (hFailed : ∀ f, P (failed f))
    (hWatch : ∀ next, (∀ b, P (next b)) → P (watch next))
    (hFollow : ∀ target, target.HasHost → P (follow env route maxRedirects target)) :
    P (fetch env url route limits) := by
  unfold fetch
  cases refused? url route limits with
  | some f => exact hFailed f
  | none =>
    -- a transfer fails at each of its gates, or it follows its URL
    refine hWatch _ fun watchable => ?_
    cases watchable with
    | false => exact hFailed _
    | true =>
      cases hParsed : Address.parse? url with
      | none => exact hFailed _
      | some target =>
        cases hServed : target.isServed with
        | false => simpa [hServed] using hFailed _
        | true => simpa [hServed] using hFollow target (Address.hasHost_of_parse? hParsed)

-- ---------------------------------------------------------------------------
-- All requests of a transfer
-- ---------------------------------------------------------------------------

/-- Whatever the answers are, all requests of a transfer are of a kind, and a look for a local file
ends it without a body. -/
def SendsOnly (kind : Request → Prop) : Transfer → Prop
  | done _ => True
  | watch next => ∀ b, SendsOnly kind (next b)
  | look _ next => ∀ b, ∃ delivery, next b = .done delivery ∧ delivery.result.toOption = none
  | ask request next => kind request ∧ ∀ reply, SendsOnly kind (next reply)

/-- Without a request a transfer brings no body. -/
def AsksFirst : Transfer → Prop
  | done delivery => ∀ body, delivery.result ≠ .ok body
  | watch next | look _ next => ∀ b, AsksFirst (next b)
  | ask _ _ => True

theorem sendsOnly_visit {kind : Request → Prop} {env : Environment}
    {goOn : Option (Address → Transfer)} (hHost : target.HasHost)
    (hKind : ∀ via, target.host ≠ [] → proxyFor env route target = .ok via → kind ⟨via, target⟩)
    (hGoOn : ∀ reply, SendsOnly kind (receive target goOn reply)) :
    SendsOnly kind (visit env route goOn target) := by
  unfold visit
  split
  · intro readable
    -- a local file comes without a status
    cases readable <;> exact ⟨_, rfl, rfl⟩
  · next hNetwork =>
    split
    · trivial
    · next via hVia => exact ⟨hKind via (hHost.resolve_left hNetwork) hVia, hGoOn⟩

theorem sendsOnly_receive {kind : Request → Prop} {goOn : Option (Address → Transfer)}
    (hHost : target.HasHost)
    (hGoOn : ∀ next ∈ goOn, ∀ target : Address, target.HasHost → SendsOnly kind (next target))
    (reply : Reply) : SendsOnly kind (receive target goOn reply) := by
  -- a reply that is followed leads to an address with a host
  cases reply with
  | broken pieces f => trivial
  | complete status location pieces =>
    cases hNext : redirection? status location with
    | none =>
      simp only [receive, hNext]
      trivial
    | some location =>
      cases goOn with
      | none =>
        simp only [receive, hNext]
        trivial
      | some goOn =>
        cases hResolved : target.resolve location with
        | error f =>
          simp only [receive, hNext, hResolved]
          trivial
        | ok next =>
          simp only [receive, hNext, hResolved]
          exact hGoOn goOn rfl next (Address.hasHost_of_resolve hHost hResolved)

theorem sendsOnly_follow (env : Environment) (hRoute : route.IsNamed) (budget : Nat)
    (hHost : target.HasHost) : SendsOnly route.Carries (follow env route budget target) := by
  induction budget generalizing target with
  | zero =>
    refine sendsOnly_visit hHost (fun via => carries_of_proxyFor hRoute) ?_
    exact sendsOnly_receive hHost fun next hNone => nomatch hNone
  | succ budget ih =>
    refine sendsOnly_visit hHost (fun via => carries_of_proxyFor hRoute) ?_
    refine sendsOnly_receive hHost fun next hNext target hHost => ?_
    rw [← Option.some.inj hNext]
    exact ih hHost

/-- **Every request goes the way of its route.** -/
theorem sendsOnly_fetch (env : Environment) (url : String) (hRoute : route.IsNamed)
    (limits : TimeoutSection) : SendsOnly route.Carries (fetch env url route limits) :=
  fetch_induction (fun _ => trivial) (fun _ hNext => hNext)
    fun _ => sendsOnly_follow env hRoute maxRedirects

theorem asksFirst_failed (f : Fault) : AsksFirst (failed f) := by
  intro body hBody
  contradiction

theorem asksFirst_visit (env : Environment) (goOn : Option (Address → Transfer)) :
    AsksFirst (visit env route goOn target) := by
  unfold visit
  split
  · intro readable
    cases readable with
    | false => exact asksFirst_failed _
    | true =>
      -- a local file comes without a status
      intro body hBody
      contradiction
  · split
    · exact asksFirst_failed _
    · trivial

theorem asksFirst_fetch (env : Environment) (url : String) (route : Route)
    (limits : TimeoutSection) : AsksFirst (fetch env url route limits) :=
  fetch_induction asksFirst_failed (fun _ hNext => hNext) fun _ _ => asksFirst_visit env _

end Transfer

-- ---------------------------------------------------------------------------
-- Described worlds
-- ---------------------------------------------------------------------------

namespace Surroundings

variable {σ : Type} (s : Surroundings σ)

/-- **What a transfer shows.** The trace grows by the requests that are sent, and by nothing
else. -/
theorem run_transfer (limits : TimeoutSection) (t : Transfer) (w : World σ) :
    let run := (t.runIn s.network limits).run w
    ∃ sent, run.2.trace = w.trace ++ sent.map .asked ∧
      (∀ kind, t.SendsOnly kind → ∀ request ∈ sent, kind request) ∧
      (t.AsksFirst → (∃ body, run.1.result = .ok body) → sent ≠ []) := by
  induction t generalizing w with
  | done delivery =>
    refine ⟨[], (List.append_nil _).symm, by simp, ?_⟩
    rintro hAsks ⟨body, hBody⟩
    exact (hAsks body hBody).elim
  | watch next ih =>
    obtain ⟨sent, hTrace, hKind, hAsks⟩ := ih s.isWatchable w
    exact ⟨sent, hTrace, fun kind hSends => hKind kind (hSends _), fun hFirst => hAsks (hFirst _)⟩
  | look path next ih =>
    -- looking for a file leaves the trace as it is
    obtain ⟨sent, hTrace, hKind, hAsks⟩ :=
      ih ((s.network.isReadable path).run w).1 ((s.network.isReadable path).run w).2
    have hSame : ((s.network.isReadable path).run w).2.trace = w.trace := by
      simp only [network]
      split <;> rfl
    rw [hSame] at hTrace
    refine ⟨sent, hTrace, fun kind hSends => hKind kind ?_, fun hFirst => hAsks (hFirst _)⟩
    obtain ⟨delivery, hDone, -⟩ := hSends ((s.network.isReadable path).run w).1
    rw [hDone]
    trivial
  | ask request next ih =>
    obtain ⟨sent, hTrace, hKind, -⟩ :=
      ih ((s.network.answer limits request).run w).1 ((s.network.answer limits request).run w).2
    have hAsked : ((s.network.answer limits request).run w).2.trace
        = w.trace ++ [.asked request] := rfl
    rw [hAsked, List.append_assoc] at hTrace
    refine ⟨request :: sent, hTrace, ?_, by simp⟩
    rintro kind ⟨hFirst, hMore⟩ q hq
    rcases List.mem_cons.mp hq with rfl | hRest
    · exact hFirst
    · exact hKind kind (hMore _) q hRest

/-- What a fetch shows: that it begins, and its requests. -/
theorem run_fetch (url : String) (route : Route) (limits : TimeoutSection) (w : World σ) :
    let run := (s.machine.fetch url route limits).run w
    ∃ sent, run.2.trace = w.trace ++ .fetching url route limits :: sent.map .asked ∧
      (route.IsNamed → ∀ request ∈ sent, route.Carries request) ∧
      ((∃ body, run.1 = .ok body) → sent ≠ []) := by
  obtain ⟨sent, hTrace, hKind, hAsks⟩ := s.run_transfer limits
    (Transfer.fetch s.environment url route limits)
    ((World.record (.fetching url route limits)).run w).2
  have hBegun : ((World.record (.fetching url route limits)).run w).2.trace
      = w.trace ++ [.fetching url route limits] := rfl
  rw [hBegun, List.append_assoc] at hTrace
  refine ⟨sent, hTrace, fun hRoute => ?_, fun hBody => ?_⟩
  · exact hKind _ (Transfer.sendsOnly_fetch _ _ hRoute _)
  · exact hAsks (Transfer.asksFirst_fetch _ _ _ _) hBody

end Surroundings

end ProxyAudit
