import ProxyAudit.Config.Basic
import ProxyAudit.Digest.Basic

/-!
# Invocations

What a command line asks for: one of four commands with its options, and the configuration file to
use instead of the usual one.

The options of a command override the values of the configuration. A lower bound on the waiting
time that would exceed the given upper bound is lowered to it.
-/

namespace ProxyAudit

/-- The shells for which there is a completion script. -/
inductive Shell where
  | bash
  | elvish
  | fish
  | powershell
  | zsh
  deriving DecidableEq, Repr

def Shell.name : Shell → String
  | bash => "bash"
  | elvish => "elvish"
  | fish => "fish"
  | powershell => "powershell"
  | zsh => "zsh"

def Shell.all : List Shell :=
  [bash, elvish, fish, powershell, zsh]

/-- The shell of a name. -/
def Shell.ofName? (name : String) : Option Shell :=
  Shell.all.find? (·.name == name)

structure RunOptions where
  target : Option String
  proxy : Option String
  workers : Option UInt64
  maxConcurrent : Option UInt64
  jitterMaxMs : Option UInt64
  timeoutSecs : Option UInt64
  json : Bool
  verboseOutcomes : Bool
  deriving DecidableEq, Repr

/-- A command with its options. -/
inductive Command where
  /-- Audit the proxy. -/
  | run (options : RunOptions)
  /-- Fetch the target directly and show its digest. -/
  | reference (target : Option String) (expect : Option Digest)
  /-- Fetch the target once through the proxy and show its digest. -/
  | fetch (target proxy : Option String)
  /-- Write a completion script. -/
  | completions (shell : Shell)
  deriving DecidableEq

/-- A command and the configuration file it is to use. -/
structure Invocation where
  config : Option String
  command : Command
  deriving DecidableEq

-- ---------------------------------------------------------------------------
-- Overrides
-- ---------------------------------------------------------------------------

namespace Config

/-- The configuration with the target and the proxy that are given. -/
def withTarget (c : Config) (target proxy : Option String) : Config :=
  { c with
    targetUrl := target.getD c.targetUrl
    proxy := proxy.getD c.proxy }

/-- The configuration with the options of a run. -/
def withRunOptions (c : Config) (o : RunOptions) : Config :=
  { c.withTarget o.target o.proxy with
    workers := o.workers.getD c.workers
    maxConcurrent := o.maxConcurrent.or c.maxConcurrent
    jitter := match o.jitterMaxMs with
      | some ms => ⟨min c.jitter.minMs ms, ms⟩
      | none => c.jitter
    timeouts := { c.timeouts with totalSecs := o.timeoutSecs.getD c.timeouts.totalSecs } }

end Config

end ProxyAudit
