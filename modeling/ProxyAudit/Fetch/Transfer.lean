import ProxyAudit.Config.Basic
import ProxyAudit.Fetch.Body
import ProxyAudit.Fetch.Proxy

/-!
# Transfers

A transfer fetches a target along a route and follows redirects, at most ten of them. It is a
tree of what it asks of the network; each answer leads to the rest of the tree. So a transfer can
be run against any network, and what it may ask can be seen without one.

The body of a redirect counts for nothing. A reply that breaks off fails the transfer whatever its
status is and however much of its body has arrived.

Main results:

* `runIn_done`    — a transfer that is over asks nothing.
* `fetch_refused` — a transfer whose options are refused asks nothing.
-/

namespace ProxyAudit

-- ---------------------------------------------------------------------------
-- Requests and replies
-- ---------------------------------------------------------------------------

/-- A request for a target, sent to a proxy or straight to the target's host. -/
structure Request where
  via : Option Address
  target : Address
  deriving DecidableEq, Repr

/-- What a request leads to. The pieces of a body are as they arrived. -/
inductive Reply where
  /-- The reply broke off, or never came. -/
  | broken (pieces : List Bytes) (fault : Fault)
  /-- The reply arrived whole. -/
  | complete (status : UInt32) (location : Option String) (pieces : List Bytes)
  deriving DecidableEq, Repr

/-- What a transfer comes to: the last reply, if it arrived whole, or the fault that ended the
transfer. -/
inductive Delivery where
  | whole (status : UInt32) (pieces : List Bytes)
  | broken (fault : Fault)
  deriving DecidableEq, Repr

/-- What a fetch makes of a delivery. -/
def Delivery.result : Delivery → FetchResult
  | whole status pieces => .ofReply status pieces
  | broken fault => .error (.ofFault fault)

/-- Where a whole reply sends the transfer on to. -/
def redirection? (status : UInt32) (location : Option String) : Option String :=
  if 300 ≤ status ∧ status < 400 then location.filter (· ≠ "") else none

-- ---------------------------------------------------------------------------
-- Transfers
-- ---------------------------------------------------------------------------

/-- A transfer: what it asks, and how it goes on after each answer. -/
inductive Transfer where
  | done (delivery : Delivery)
  /-- Asks whether connections can be watched at all. -/
  | watch (next : Bool → Transfer)
  /-- Asks whether a local file can be read. -/
  | look (path : Bytes) (next : Bool → Transfer)
  | ask (request : Request) (next : Reply → Transfer)

namespace Transfer

/-- A transfer that ends with a fault. -/
def failed (f : Fault) : Transfer :=
  .done (.broken f)

/-- How many redirects are followed. -/
def maxRedirects : Nat := 10

/-- The proxy of a request on a route. -/
def proxyFor (env : Environment) (route : Route) (target : Address) :
    Except Fault (Option Address) :=
  match route.settings.choose env target.scheme (target.host.map fun b => Char.ofNat b.toNat) with
  | none => .ok none
  | some address => (Address.parseProxy address).map some

/-- What a transfer does with a reply, given how it goes on to where a redirect leads; without a
way to go on there have been too many redirects. -/
def receive (target : Address) (goOn : Option (Address → Transfer)) : Reply → Transfer
  | .broken _ f => failed f
  | .complete status location pieces =>
    match redirection? status location, goOn with
    | none, _ => .done (.whole status pieces)
    | some _, none => failed .tooManyRedirects
    | some location, some goOn =>
      match target.resolve location with
      | .error f => failed f
      | .ok target => goOn target

/-- Asks for a target, or looks for it if it is a local file. -/
def visit (env : Environment) (route : Route) (goOn : Option (Address → Transfer))
    (target : Address) : Transfer :=
  if target.isFile then
    .look (Host.percentDecode (Bytes.ofText (String.ofList target.path))) fun readable =>
      if readable then .done (.whole 0 []) else failed .unreadableFile
  else
    match proxyFor env route target with
    | .error f => failed f
    | .ok via => .ask ⟨via, target⟩ (receive target goOn)

/-- Fetches a target and follows so many redirects. -/
def follow (env : Environment) (route : Route) : Nat → Address → Transfer
  | 0 => visit env route none
  | budget + 1 => visit env route (some (follow env route budget))

/-- A text that no option of a transfer can hold. -/
def holdsNul (s : String) : Bool :=
  s.toList.contains '\x00'

/-- A limit in seconds is kept in a signed word. -/
def limitFits (secs : UInt64) : Bool :=
  secs.toNat < 0x8000000000000000

/-- The first option that is refused. -/
def refused? (url : String) (route : Route) (limits : TimeoutSection) : Option Fault :=
  if holdsNul url then some .embeddedNul
  else if !limitFits limits.connectSecs || !limitFits limits.totalSecs then some .badArgument
  else
    match route with
    | .proxy address => if holdsNul address then some .embeddedNul else none
    | .direct => none

/-- Fetches a target that is given as a text. -/
def fetch (env : Environment) (url : String) (route : Route) (limits : TimeoutSection) : Transfer :=
  match refused? url route limits with
  | some f => failed f
  | none =>
    .watch fun watchable =>
      if !watchable then failed .badArgument
      else
        match Address.parse? url with
        | none => failed .malformedUrl
        | some target =>
          if target.isServed then follow env route maxRedirects target else failed .unsupported

end Transfer

-- ---------------------------------------------------------------------------
-- Running
-- ---------------------------------------------------------------------------

/-- A network that answers what transfers ask. -/
structure Network (m : Type → Type) where
  isWatchable : m Bool
  isReadable : Bytes → m Bool
  /-- Sends a request and waits for what comes of it, no longer than the limits allow. -/
  answer : TimeoutSection → Request → m Reply

/-- Runs a transfer in a network. -/
def Transfer.runIn {m : Type → Type} [Monad m] (net : Network m) (limits : TimeoutSection) :
    Transfer → m Delivery
  | done delivery => pure delivery
  | watch next => net.isWatchable >>= fun b => (next b).runIn net limits
  | look path next => net.isReadable path >>= fun b => (next b).runIn net limits
  | ask request next => net.answer limits request >>= fun r => (next r).runIn net limits

/-- Transfers a target in a network. -/
def Network.deliver {m : Type → Type} [Monad m] (net : Network m) (env : Environment)
    (url : String) (route : Route) (limits : TimeoutSection) : m Delivery :=
  (Transfer.fetch env url route limits).runIn net limits

/-- Fetches a target in a network. -/
def Network.fetch {m : Type → Type} [Monad m] (net : Network m) (env : Environment) (url : String)
    (route : Route) (limits : TimeoutSection) : m FetchResult := do
  return (← net.deliver env url route limits).result

theorem Transfer.runIn_done {m : Type → Type} [Monad m] (net : Network m)
    (limits : TimeoutSection) (delivery : Delivery) :
    (done delivery).runIn net limits = pure delivery :=
  rfl

theorem Network.fetch_refused {m : Type → Type} [Monad m] [LawfulMonad m] (net : Network m)
    (env : Environment) {url : String} {route : Route} {limits : TimeoutSection} {f : Fault}
    (h : Transfer.refused? url route limits = some f) :
    net.fetch env url route limits = pure (.error (.ofFault f)) := by
  simp [Network.fetch, Network.deliver, Transfer.fetch, h, Transfer.failed, Transfer.runIn,
    Delivery.result]

end ProxyAudit
