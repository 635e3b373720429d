import ProxyAudit.CommandLine.Arguments
import ProxyAudit.CommandLine.Completion
import ProxyAudit.CommandLine.Help
import ProxyAudit.Config.File
import ProxyAudit.Verify.Audit

/-!
# Sessions

A session is one use of the program: it opens the log, reads the command line, loads the
configuration, lets the options override it, and carries the command out. It ends with a status: 0
for success, 1 for a failure, and 2 for a command line that cannot be read.

What a session needs of the machine is gathered in a record, so that the same session runs on a
real machine and on a described one.

Main results:

* `carryOut_completions`  — a completion script needs no configuration.
* `runIn_of_refusal`      — a command line that is refused loads nothing and fetches nothing.
-/

namespace ProxyAudit

/-- What a session needs of a machine. -/
structure Platform (m : Type → Type) extends Machine m where
  files : Files m
  /-- Writes a text and a line end to the standard output. -/
  print : String → m Unit
  /-- Writes a text and a line end to the standard error. -/
  complain : String → m Unit
  /-- Writes a line of the log: to its file, or else to the standard error. -/
  log : Bool → String → m Unit

namespace Session

/-- The status of a session that did what it was asked. -/
def success : UInt32 := 0

/-- The status of a session that failed. -/
def failure : UInt32 := 1

/-- The status of a session whose command line cannot be read. -/
def misuse : UInt32 := 2

/-- Why a command failed. -/
inductive Failure where
  | load (e : Config.LoadError)
  | refused (fault : Config.Fault)
  | reference (url : String) (e : FetchError)
  | fetch (url proxy : String) (e : FetchError)
  | audit (e : AuditError)

def Failure.message : Failure → String
  | load e => e.message
  | refused fault => fault.message
  | reference url e => "fetch " ++ url ++ ": " ++ e.message
  | fetch url proxy e => "fetch " ++ url ++ " via " ++ proxy ++ ": " ++ e.message
  | audit e => e.message

/-- The status of a command that came to a verdict. -/
def statusOf (isGood : Bool) : UInt32 :=
  if isGood then success else failure

variable {m : Type → Type} [Monad m]

-- ---------------------------------------------------------------------------
-- Commands
-- ---------------------------------------------------------------------------

/-- Audits the proxy. Without options each worker has one word on a line of its own; a report in
JSON stands alone. -/
def runAudit (platform : Platform m) (c : Config) (o : RunOptions) : m (Except Failure UInt32) := do
  let unlessJson (text : String) : m Unit := if o.json then pure () else platform.print text
  let result ← c.audit platform.toMachine (fun d => unlessJson d.text)
    (fun r => unlessJson (r.line o.verboseOutcomes))
  match result with
  | .error e => return .error (.audit e)
  | .ok report =>
    if o.json then platform.print report.toJson.pretty
    else if o.verboseOutcomes then platform.print report.summary
    return .ok (statusOf report.passed)

/-- Fetches the target directly and shows its digest, which may be expected. -/
def runReference (platform : Platform m) (c : Config) (expect : Option Digest) :
    m (Except Failure UInt32) :=
  match c.checkTarget with
  | .error fault => return .error (.refused fault)
  | .ok () => do
    match ← platform.fetch c.targetUrl .direct c.timeouts with
    | .error e => return .error (.reference c.targetUrl e)
    | .ok body =>
      platform.print body.digest.text
      match expect with
      | none => return .ok success
      | some expected =>
        if expected = body.digest then return .ok success
        platform.complain ("digest mismatch: expected " ++ expected.text)
        return .ok failure

/-- Fetches the target once through the proxy and shows its digest and its length. -/
def runFetch (platform : Platform m) (c : Config) : m (Except Failure UInt32) :=
  match c.check with
  | .error fault => return .error (.refused fault)
  | .ok () => do
    match ← platform.fetch c.targetUrl (.proxy c.proxy) c.timeouts with
    | .error e => return .error (.fetch c.targetUrl c.proxy e)
    | .ok body =>
      platform.print (body.digest.text ++ "  " ++ Decimal.text body.bytes.toNat ++ " bytes")
      return .ok success

def loadTask (l : Locations) : Option String → FileTask (Except Config.LoadError Config)
  | some path => Config.loadFrom path
  | none => Config.loadOrInit l

def withConfig (platform : Platform m) (l : Locations) (path : Option String)
    (use : Config → m (Except Failure UInt32)) : m (Except Failure UInt32) := do
  match ← (loadTask l path).runIn platform.files with
  | .error e => return .error (.load e)
  | .ok c => use c

/-- Carries an invocation out. -/
def carryOut (platform : Platform m) (l : Locations) (i : Invocation) : m (Except Failure UInt32) :=
  match i.command with
  | .completions shell => do
    platform.print (shell.completionScript)
    return .ok success
  | .run o => withConfig platform l i.config fun c => runAudit platform (c.withRunOptions o) o
  | .reference target expect =>
    withConfig platform l i.config fun c => runReference platform (c.withTarget target none) expect
  | .fetch target proxy =>
    withConfig platform l i.config fun c => runFetch platform (c.withTarget target proxy)

-- ---------------------------------------------------------------------------
-- Sessions
-- ---------------------------------------------------------------------------

def logTask (l : Locations) : FileTask (Except FileFault Unit) :=
  .makeDirectories l.logDirectory fun
    | .error fault => .done (.error fault)
    | .ok () => .touch l.logFile .done

/-- Opens the log and says so in it; without a log file the log goes to the standard error. -/
def openLog (platform : Platform m) (l : Locations) : m Unit := do
  match ← (logTask l).runIn platform.files with
  | .ok () => platform.log true ("fetchcheck logging initialized at " ++ l.logFile)
  | .error fault =>
    platform.log false ("log file unavailable, logging to stderr: " ++ fault.message)

/-- Answers a command line that asks for no command: with the help that it asks for, or with what
is wrong about it. -/
def answerRefusal (platform : Platform m) (e : CommandLine.Refusal) : m UInt32 := do
  if e.isFailure then
    platform.complain e.text
    return misuse
  else
    platform.print e.text
    return success

/-- Runs a session to its status. -/
def runIn (platform : Platform m) (l : Locations) (args : List String) : m UInt32 := do
  openLog platform l
  match CommandLine.parse args with
  | .error e => answerRefusal platform e
  | .ok i =>
    match ← carryOut platform l i with
    | .ok status => return status
    | .error e =>
      platform.complain ("fetchcheck error: " ++ e.message)
      return failure

theorem carryOut_completions (platform : Platform m) (l : Locations) {i : Invocation} {shell : Shell}
    (h : i.command = .completions shell) :
    carryOut platform l i = (do platform.print shell.completionScript; return .ok success) := by
  simp [carryOut, h]

theorem runIn_of_refusal (platform : Platform m) (l : Locations) {args : List String}
    {e : CommandLine.Refusal} (h : CommandLine.parse args = .error e) :
    runIn platform l args = (do openLog platform l; answerRefusal platform e) := by
  simp [runIn, h]

end Session

end ProxyAudit
