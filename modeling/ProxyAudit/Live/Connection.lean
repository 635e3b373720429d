import Std.Async.DNS
import Std.Async.TCP
import Std.Async.Timer
import ProxyAudit.Files
import ProxyAudit.Http.Message

/-!
# Real connections

A request over TCP: the host is looked up, a connection is made, the request is sent, and the
reply is read until it is whole or the connection ends. Each wait is cut off when its time is up.
Only plain HTTP is spoken, to proxies too.
-/

namespace ProxyAudit.Live

open Std.Async Std.Net

/-- The milliseconds on a clock that never goes back. -/
def nowMillis : IO Nat := do
  return (← IO.monoNanosNow) / 1000000

/-- The last moment of something that may take so many seconds; none if it may take for ever. -/
def deadlineAfter (secs : UInt64) : IO (Option Nat) := do
  if secs = 0 then return none
  return some ((← nowMillis) + 1000 * secs.toNat)

/-- The earlier of two moments, where none is later than any. -/
def earlier : Option Nat → Option Nat → Option Nat
  | some a, some b => some (min a b)
  | a, b => a <|> b

/-- The longest wait of a timer, in milliseconds. -/
def longestWait : Nat := 0x7fffffff

/-- Waits for something, but not beyond a moment. -/
def before {α : Type} (deadline : Option Nat) (act : Async α) : IO (Option α) := do
  match deadline with
  | none => return some (← act.block)
  | some moment =>
    let left := min (moment - (← nowMillis)) longestWait
    let expire : Async (Option α) := do
      Std.Async.sleep (Std.Time.Millisecond.Offset.ofNat left)
      return none
    (Async.race (do return some (← act)) expire).block

/-- The socket address of a host's address and a port. -/
def socketAddress (ip : IPAddr) (port : Nat) : SocketAddress :=
  match ip with
  | .v4 addr => .v4 ⟨addr, UInt16.ofNat port⟩
  | .v6 addr => .v6 ⟨addr, UInt16.ofNat port⟩

/-- The addresses of a host. -/
def lookUp (deadline : Option Nat) (host : Bytes) : IO (List IPAddr) := do
  let cs := host.map fun b => (Char.ofNat b.toNat).toLower
  let name := String.ofList (ProxySettings.withoutLastPoint cs)
  match Host.ipv4? cs, IPv6Addr.ofString (String.ofList ((cs.drop 1).dropLast)) with
  | some n, _ =>
    let byte (k : Nat) : UInt8 := UInt8.ofNat (n >>> (8 * k))
    return [.v4 (.ofParts (byte 3) (byte 2) (byte 1) (byte 0))]
  | none, some addr => return if cs.head? = some '[' then [.v6 addr] else []
  | none, none =>
    if name = "localhost" ∨ name.endsWith ".localhost" then return [.v4 (.ofParts 127 0 0 1)]
    else if name.endsWith ".onion" then return []
    else
      try
        return ((← before deadline (DNS.getAddrInfo name "")).getD #[]).toList
      catch _ => return []

/-- Connects to the first address that takes a connection. -/
def connect (deadline : Option Nat) (port : Nat) :
    List IPAddr → IO (Except Fault TCP.Socket.Client)
  | [] => return .error .unreachable
  | ip :: more => do
    try
      let socket ← TCP.Socket.Client.mk
      match ← before deadline (socket.connect (socketAddress ip port)) with
      | some () => return .ok socket
      | none => return .error .timedOut
    catch _ => connect deadline port more

partial def receive (deadline : Option Nat) (socket : TCP.Socket.Client) (r : Http.Reader)
    (pieces : List Bytes) : IO Reply := do
  let finish (ending : Http.Ending) : Reply := r.conclude pieces.reverse ending
  if r.isOver then return finish .closed
  try
    match ← before deadline (socket.recv? 65536) with
    | none => return finish .late
    | some none => return finish .closed
    | some (some segment) =>
      let (r, piece) := r.scan segment.toList
      receive deadline socket r (if piece.isEmpty then pieces else piece :: pieces)
  catch _ => return finish .reset

/-- The host and the port that a request is sent to, and the fault if the host is unknown. -/
def receiver (q : Request) : Bytes × Nat × Fault :=
  match q.via with
  | some proxy => (proxy.host, proxy.proxyPort, .unresolvedProxy)
  | none => (q.target.host, q.target.targetPort, .unresolvedHost)

/-- Both ends of a request speak plain HTTP. -/
def isPlain (q : Request) : Bool :=
  ((q.via.toList ++ [q.target]).map (·.scheme)).all (· == "http".toList)

/-- Sends a request and reads the reply, all before a moment. -/
def exchange (deadline : Option Nat) (limits : TimeoutSection) (q : Request) : IO Reply := do
  if !isPlain q then return .broken [] .insecure
  let (host, port, unknown) := receiver q
  let connectDeadline := earlier deadline (← deadlineAfter limits.connectSecs)
  match ← lookUp connectDeadline host with
  | [] => return .broken [] unknown
  | ips =>
    match ← connect connectDeadline port ips with
    | .error fault => return .broken [] fault
    | .ok socket =>
      try
        match ← before deadline (socket.send ⟨q.bytes.toArray⟩) with
        | some () => receive deadline socket .start []
        | none => return .broken [] .timedOut
      catch _ => return .broken [] .receiveFailure

/-- The network, for a fetch that has to be over at a moment. -/
def network (files : Files IO) (deadline : Option Nat) : Network IO where
  isWatchable := return true
  isReadable path := do
    match Bytes.toText? path with
    | none => return false
    | some path => return (← files.read path).isOk
  answer limits q := exchange deadline limits q

end ProxyAudit.Live
