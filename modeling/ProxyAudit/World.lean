import ProxyAudit.CommandLine.Session

/-!
# Described worlds

A machine that exists only as a description: what the far side of the network answers, which files
there are, how time passes, and in which order the threads of a pool get their turn. A session in
such a world is a function, and the world keeps a trace of what it saw.

Main results:

* `trace_record`       — the trace grows by what is recorded.
* `answer_unreachable` — where nobody listens, every request ends without a reply.
-/

namespace ProxyAudit

/-- What a world sees a session do. -/
inductive Event where
  /-- A fetch begins. -/
  | fetching (url : String) (route : Route) (limits : TimeoutSection)
  /-- A request is sent, or the attempt is made. -/
  | asked (request : Request)
  | printed (text : String)
  | complained (text : String)
  | logged (toFile : Bool) (text : String)
  | slept (span : Span)

/-- What does not change in a world. The far side of the network has a state of its own. -/
structure Surroundings (σ : Type) where
  /-- Connections can be watched. -/
  isWatchable : Bool
  answer : TimeoutSection → Request → StateM σ Reply
  environment : Environment
  /-- The directory where paths start that do not start at the root. -/
  current : String
  /-- What is drawn each time, and the time each time it is asked. -/
  draw : Nat → Draw
  clock : Nat → Nat
  schedule : Pool.Schedule

/-- What changes in a world. -/
structure World (σ : Type) where
  far : σ
  tree : FileTree
  /-- How often something was drawn or the time was asked. -/
  ticks : Nat
  /-- What was seen, oldest first. -/
  trace : List Event

namespace World

variable {σ : Type}

/-- A world with a far side and some files, in which nothing has been seen yet. -/
def fresh (far : σ) (tree : FileTree) : World σ :=
  ⟨far, tree, 0, []⟩

def record (e : Event) : StateM (World σ) Unit :=
  modify fun w => { w with trace := w.trace ++ [e] }

def tick : StateM (World σ) Nat :=
  modifyGet fun w => (w.ticks, { w with ticks := w.ticks + 1 })

/-- Lets the far side act. -/
def onFar {α : Type} (act : StateM σ α) : StateM (World σ) α := fun w =>
  let (a, far) := act.run w.far
  (a, { w with far })

/-- Lets the files change. -/
def onTree {α : Type} (act : StateM FileTree α) : StateM (World σ) α := fun w =>
  let (a, tree) := act.run w.tree
  (a, { w with tree })

/-- What was written to the standard output. -/
def printed (w : World σ) : List String :=
  w.trace.filterMap fun
    | .printed text => some text
    | _ => none

/-- What was written to the standard error, apart from the log. -/
def complaints (w : World σ) : List String :=
  w.trace.filterMap fun
    | .complained text => some text
    | _ => none

/-- A line of the log went to the standard error. -/
def logsToError (w : World σ) : Bool :=
  w.trace.any fun
    | .logged toFile _ => !toFile
    | _ => false

/-- The requests that were sent. -/
def requests (w : World σ) : List Request :=
  w.trace.filterMap fun
    | .asked request => some request
    | _ => none

theorem trace_record (e : Event) (w : World σ) :
    ((record e).run w).2.trace = w.trace ++ [e] :=
  rfl

end World

namespace Surroundings

variable {σ : Type}

/-- The network of a world. -/
def network (s : Surroundings σ) : Network (StateM (World σ)) where
  isWatchable := pure s.isWatchable
  isReadable path := do
    match Bytes.toText? path with
    | none => return false
    | some path => return (← World.onTree ((FileTree.files s.current).read path)).isOk
  answer limits request := do
    World.record (.asked request)
    World.onFar (s.answer limits request)

/-- The machine that workers run on in a world. -/
def machine (s : Surroundings σ) : Machine (StateM (World σ)) where
  fetch url route limits := do
    World.record (.fetching url route limits)
    s.network.fetch s.environment url route limits
  draw := do return s.draw (← World.tick)
  sleep span := World.record (.slept span)
  now := do return s.clock (← World.tick)
  runPool p work onTake := p.runIn s.schedule work onTake

/-- The platform of sessions in a world. -/
def platform (s : Surroundings σ) : Platform (StateM (World σ)) where
  toMachine := s.machine
  files :=
    let files := FileTree.files s.current
    { makeDirectories := fun path => World.onTree (files.makeDirectories path)
      seek := fun path => World.onTree (files.seek path)
      read := fun path => World.onTree (files.read path)
      write := fun path content => World.onTree (files.write path content)
      touch := fun path => World.onTree (files.touch path) }
  print text := World.record (.printed text)
  complain text := World.record (.complained text)
  log toFile text := World.record (.logged toFile text)

-- ---------------------------------------------------------------------------
-- A network without anybody
-- ---------------------------------------------------------------------------

/-- A name of this machine, or an address in numbers: what is known without asking anybody. -/
def isKnownHost (host : Bytes) : Bool :=
  let name := host.map fun b => (Char.ofNat b.toNat).toLower
  let isLocal (cs : List Char) : Bool :=
    cs == "localhost".toList || ".localhost".toList.isSuffixOf cs
  name.head? == some '[' || (Host.ipv4? name).isSome
    || isLocal (ProxySettings.withoutLastPoint name)

/-- What a request leads to where nobody listens and no name but that of this machine is known. -/
def answerUnreachable (request : Request) : Reply :=
  match request.via with
  | some proxy => .broken [] (if isKnownHost proxy.host then .unreachable else .unresolvedProxy)
  | none => .broken [] (if isKnownHost request.target.host then .unreachable else .unresolvedHost)

/-- Surroundings in which nobody listens. -/
def unreachable (isWatchable : Bool) (environment : Environment) (current : String) :
    Surroundings Unit where
  isWatchable
  answer _ request := pure (answerUnreachable request)
  environment
  current
  draw := Draw.ofNumber
  clock := id
  schedule := Pool.eager

theorem answer_unreachable (request : Request) : ∃ f, answerUnreachable request = .broken [] f := by
  unfold answerUnreachable
  split
  · exact ⟨_, rfl⟩
  · exact ⟨_, rfl⟩

end Surroundings

end ProxyAudit
