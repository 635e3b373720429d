import ProxyAudit.CommandLine.Session
import ProxyAudit.Live.Connection
import ProxyAudit.Live.Storage
import ProxyAudit.Live.Threads

/-!
# The program

Runs a session on the machine that the program was started on.
-/

namespace ProxyAudit.Live

/-- The variables that say where files are kept. -/
def locationVariables : List String :=
  ["HOME", "XDG_CONFIG_HOME", "XDG_STATE_HOME"]

/-- The variables that could name a proxy or the hosts that need none. -/
def proxyVariables : List String :=
  ["http_proxy", "https_proxy", "HTTPS_PROXY", "all_proxy", "ALL_PROXY", "no_proxy", "NO_PROXY"]

/-- The environment, as far as the given variables go. -/
def environment (names : List String) : IO Environment := do
  let set ← names.mapM fun name => do return (name, ← IO.getEnv name)
  return fun name => (set.lookup name).join

/-- A number drawn at random. -/
def randomNumber : IO Nat := do
  return (← IO.getRandomBytes 16).toList.foldl (fun n b => 256 * n + b.toNat) 0

/-- Sleeps for so many milliseconds, in stretches that a timer can hold. -/
partial def sleepMillis (ms : Nat) : IO Unit := do
  if ms ≤ longestWait then IO.sleep (UInt32.ofNat ms)
  else
    IO.sleep (UInt32.ofNat longestWait)
    sleepMillis (ms - longestWait)

/-- The machine. -/
def machine (env : Environment) : Machine IO where
  fetch url route limits := do
    (network files (← deadlineAfter limits.totalSecs)).fetch env url route limits
  draw := do return Draw.ofNumber (← randomNumber)
  sleep span := sleepMillis ((span.nanos + 999999) / 1000000)
  now := IO.monoNanosNow
  runPool := runPool

/-- Writes a line of the log. A log that cannot be written is no reason to stop. -/
def writeLog (l : Locations) (toFile : Bool) (text : String) : IO Unit := do
  if toFile then
    discard (attempt (do (← IO.FS.Handle.mk l.logFile .append).putStrLn text))
  else IO.eprintln text

/-- The platform. -/
def platform (l : Locations) (env : Environment) : Platform IO where
  toMachine := machine env
  files
  print := IO.println
  complain := IO.eprintln
  log := writeLog l

end ProxyAudit.Live

/-- Runs a session and ends with its status. -/
def main (args : List String) : IO UInt32 := do
  let l := ProxyAudit.Locations.ofEnvironment "/"
    (← ProxyAudit.Live.environment ProxyAudit.Live.locationVariables)
  let env ← ProxyAudit.Live.environment ProxyAudit.Live.proxyVariables
  ProxyAudit.Session.runIn (ProxyAudit.Live.platform l env) l args
