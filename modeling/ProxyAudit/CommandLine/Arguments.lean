import ProxyAudit.CommandLine.Invocation
import ProxyAudit.Text.Plain

/-!
# Reading command lines

Options are written `--name value` or `--name=value`, and `--workers` also as `-n value`, `-nvalue`
or `-n=value`. Names are not shortened, no option is given twice, and an argument that starts with
a hyphen is never the value of the option before it. After `--` nothing is an option. The option
`--config` may stand before or after the name of the command; after it wins.

An argument that is no option is reported before a bad value of the option before it: values are
read when the next option begins or the line ends.
-/

namespace ProxyAudit.CommandLine

-- ---------------------------------------------------------------------------
-- Options
-- ---------------------------------------------------------------------------

/-- The options of all commands, and the one argument that has no name. -/
inductive Opt where
  | config
  | target
  | proxy
  | workers
  | maxConcurrent
  | jitterMaxMs
  | timeoutSecs
  | expect
  | json
  | verboseOutcomes
  | shell
  deriving DecidableEq, Repr

namespace Opt

/-- The name of an option after its two hyphens; the argument without a name has none. -/
def name? : Opt → Option String
  | config => some "config"
  | target => some "target"
  | proxy => some "proxy"
  | workers => some "workers"
  | maxConcurrent => some "max-concurrent"
  | jitterMaxMs => some "jitter-max-ms"
  | timeoutSecs => some "timeout-secs"
  | expect => some "expect"
  | json => some "json"
  | verboseOutcomes => some "verbose-outcomes"
  | shell => none

/-- What the value of an option is called; flags have no value. -/
def valueName? : Opt → Option String
  | config => some "PATH"
  | target => some "URL"
  | proxy => some "ADDR"
  | workers | maxConcurrent => some "N"
  | jitterMaxMs => some "MS"
  | timeoutSecs => some "SECS"
  | expect => some "DIGEST"
  | shell => some "SHELL"
  | json | verboseOutcomes => none

/-- An option that takes a value. -/
def takesValue (o : Opt) : Bool :=
  o.valueName?.isSome

/-- An option as messages show it. -/
def usage (o : Opt) : String :=
  match o.name?, o.valueName? with
  | some n, some v => "--" ++ n ++ " <" ++ v ++ ">"
  | some n, none => "--" ++ n
  | none, some v => "<" ++ v ++ ">"
  | none, none => ""

end Opt

/-- The places where options are read: before a command, and after each of them. -/
inductive Scope where
  | program
  | run
  | reference
  | fetch
  | completions
  deriving DecidableEq, Repr

namespace Scope

def options : Scope → List Opt
  | program => [.config]
  | run => [.config, .target, .proxy, .workers, .maxConcurrent, .jitterMaxMs, .timeoutSecs, .json,
      .verboseOutcomes]
  | reference => [.config, .target, .expect]
  | fetch => [.config, .target, .proxy]
  | completions => [.config]

def option? (s : Scope) (name : String) : Option Opt :=
  s.options.find? (·.name? == some name)

def ofName? : String → Option Scope
  | "run" => some run
  | "reference" => some reference
  | "fetch" => some fetch
  | "completions" => some completions
  | _ => none

/-- What a command does, in a line. -/
def about : Scope → String
  | program => "Verify a forward proxy delivers a resource intact under concurrent load"
  | run => "Compute the reference digest, then fetch through the proxy from N concurrent workers "
      ++ "and compare"
  | reference => "Fetch the target directly and print its SHA-256 digest"
  | fetch => "Fetch the target once through the proxy and print its SHA-256 digest"
  | completions => "Print a shell completion script"

end Scope

-- ---------------------------------------------------------------------------
-- Values
-- ---------------------------------------------------------------------------

/-- Why a text is no number of 64 bits. -/
inductive NumberFault where
  | empty
  | badDigit
  | tooLarge
  deriving DecidableEq, Repr

def NumberFault.message : NumberFault → String
  | empty => "cannot parse integer from empty string"
  | badDigit => "invalid digit found in string"
  | tooLarge => "number too large to fit in target type"

/-- Reads the digits of a number after the number read so far; the first fault counts. -/
def readDigits (n : Nat) : List Char → Except NumberFault UInt64
  | [] => .ok (UInt64.ofNat n)
  | c :: rest =>
    match Decimal.value? c with
    | none => .error .badDigit
    | some d => if 10 * n + d < 0x10000000000000000 then readDigits (10 * n + d) rest else .error .tooLarge

/-- Reads a number, which may start with a plus sign. -/
def readNumber (s : String) : Except NumberFault UInt64 :=
  match s.toList with
  | [] => .error .empty
  | ['+'] => .error .badDigit
  | '+' :: ds => readDigits 0 ds
  | ds => readDigits 0 ds

inductive Value where
  | text (s : String)
  | number (n : UInt64)
  | digest (d : Digest)
  | shell (s : Shell)
  | given
  deriving DecidableEq

-- ---------------------------------------------------------------------------
-- Failures
-- ---------------------------------------------------------------------------

/-- What the help that was asked for is about. -/
inductive HelpTopic where
  | scope (s : Scope)
  | help
  deriving DecidableEq, Repr

/-- The first line of a help text. -/
def HelpTopic.firstLine : HelpTopic → String
  | scope s => s.about
  | help => "Print this message or the help of the given subcommand(s)"

/-- Why a command line asks for no command. -/
inductive Refusal where
  | unknownArgument (text : String)
  | unknownCommand (text : String)
  /-- An option lacks its value. -/
  | valueRequired (o : Opt)
  /-- The value is none of those that an option can have. -/
  | notAChoice (text : String) (o : Opt)
  /-- The value of an option cannot be read. -/
  | badValue (text : String) (o : Opt) (reason : String)
  | givenTwice (o : Opt)
  /-- A flag, named here, was given a value. -/
  | valueUnwanted (text : String) (flag : String)
  | commandRequired
  | argumentRequired
  | help (topic : HelpTopic)
  /-- The line says nothing at all, which is answered by the help. -/
  | nothingGiven
  deriving DecidableEq, Repr

/-- What is said about a refused command line, before any hints. The words of the command line
are shown as plain text. -/
def Refusal.message : Refusal → String
  | unknownArgument text => "error: unexpected argument '" ++ Text.plain text ++ "' found"
  | unknownCommand text => "error: unrecognized subcommand '" ++ Text.plain text ++ "'"
  | valueRequired o => "error: a value is required for '" ++ o.usage ++ "' but none was supplied"
  | notAChoice text o =>
    "error: invalid value '" ++ Text.plain text ++ "' for '" ++ o.usage ++ "'"
  | badValue text o reason =>
    "error: invalid value '" ++ Text.plain text ++ "' for '" ++ o.usage ++ "': " ++ reason
  | givenTwice o => "error: the argument '" ++ o.usage ++ "' cannot be used multiple times"
  | valueUnwanted text flag =>
    "error: unexpected value '" ++ Text.plain text ++ "' for '" ++ flag
      ++ "' found; no more were expected"
  | commandRequired => "error: 'fetchcheck' requires a subcommand but one was not provided"
  | argumentRequired => "error: the following required arguments were not provided:"
  | help topic => topic.firstLine
  | nothingGiven => Scope.program.about

/-- Help that was asked for is no failure. -/
def Refusal.isFailure : Refusal → Bool
  | help _ => false
  | _ => true

/-- The value that a text gives to an option. -/
def Opt.read (o : Opt) (s : String) : Except Refusal Value :=
  match o with
  | config => if s = "" then .error (.valueRequired o) else .ok (.text s)
  | target | proxy => .ok (.text s)
  | workers | maxConcurrent | jitterMaxMs | timeoutSecs =>
    match readNumber s with
    | .ok n => .ok (.number n)
    | .error e => .error (.badValue s o e.message)
  | expect =>
    match Digest.parse s with
    | .ok d => .ok (.digest d)
    | .error e => .error (.badValue s o e.message)
  | shell =>
    match Shell.ofName? s with
    | some sh => .ok (.shell sh)
    | none => .error (if s = "" then .valueRequired o else .notAChoice s o)
  | json | verboseOutcomes => .ok .given

-- ---------------------------------------------------------------------------
-- Reading a scope
-- ---------------------------------------------------------------------------

/-- What has been read of a scope: options with their values, and an option whose value has not
been read yet, or has not even been given. -/
structure Progress where
  found : List (Opt × Value)
  pending : Option (Opt × Option String)

namespace Progress

/-- Nothing has been read. -/
def start : Progress :=
  ⟨[], none⟩

/-- Keeps the value of an option, which must not have one. -/
def keep (p : Progress) (o : Opt) (s : String) : Except Refusal Progress :=
  if p.found.any (·.1 == o) then .error (.givenTwice o)
  else (o.read s).map fun v => { p with found := p.found ++ [(o, v)] }

/-- Reads the value that is pending. -/
def settle (p : Progress) : Except Refusal Progress :=
  match p.pending with
  | none => .ok p
  | some (o, none) => .error (.valueRequired o)
  | some (o, some s) => { p with pending := none }.keep o s

/-- The option that the next argument may be the value of. -/
def awaiting? (p : Progress) : Option Opt :=
  match p.pending with
  | some (o, none) => some o
  | _ => none

/-- The argument without a name has been given. -/
def hasShell (p : Progress) : Bool :=
  p.found.any (·.1 == .shell) || p.pending.any (·.1 == .shell)

/-- Begins an option: a flag, an option with its value attached, or one whose value follows. -/
def begin (p : Progress) (o : Opt) (attached : Option String) : Except Refusal Progress :=
  match o.takesValue, attached with
  | true, some s => p.settle.bind (·.keep o s)
  | true, none => p.settle.map ({ · with pending := some (o, none) })
  | false, some s => .error (.valueUnwanted s o.usage)
  | false, none => p.settle.bind (·.keep o "")

end Progress

/-- Cuts an argument at its first equals sign. -/
def cutAtEquals (cs : List Char) : String × Option String :=
  let name := cs.takeWhile (· ≠ '=')
  (String.ofList name, if name.length < cs.length then
    some (String.ofList (cs.drop (name.length + 1))) else none)

def readLong (scope : Scope) (p : Progress) (cs : List Char) : Except Refusal Progress :=
  let (name, attached) := cutAtEquals cs
  if name = "help" then
    match attached with
    | some s => .error (.valueUnwanted s "--help")
    | none => p.settle.bind fun _ => .error (.help (.scope scope))
  else
    match scope.option? name with
    | some o => p.begin o attached
    | none => .error (.unknownArgument ("--" ++ name))

def readShort (scope : Scope) (p : Progress) (c : Char) (cs : List Char) :
    Except Refusal Progress :=
  if c = 'h' then p.settle.bind fun _ => .error (.help (.scope scope))
  else if c = 'n' ∧ scope = .run then
    p.begin .workers <| match cs with
      | [] => none
      | '=' :: value => some (String.ofList value)
      | value => some (String.ofList value)
  else .error (.unknownArgument (String.ofList ['-', c]))

def readPlain (scope : Scope) (p : Progress) (afterDashes : Bool) (arg : String) :
    Except Refusal Progress :=
  match scope with
  | .completions =>
    if p.hasShell then .error (.unknownArgument arg)
    else p.settle.map ({ · with pending := some (.shell, some arg) })
  | .program =>
    if afterDashes ∧ (arg = "help" ∨ (Scope.ofName? arg).isSome) then
      .error (.unknownArgument arg)
    else .error (.unknownCommand arg)
  | _ => .error (.unknownArgument arg)

/-- The help that is asked for by the command `help` and its arguments. -/
def helpFor : List String → Refusal
  | [] => .help (.scope .program)
  | name :: more =>
    match (Scope.ofName? name).map HelpTopic.scope <|> (if name = "help" then some .help else none) with
    | none => .unknownCommand name
    | some topic =>
      match more with
      | [] => .help topic
      | extra :: _ => .unknownCommand extra

/-- Where the reading of a scope ended: at the end of the line, or at a command. -/
inductive Stop where
  | lineEnd
  | command (scope : Scope) (rest : List String)

def readScope (scope : Scope) (p : Progress) (afterDashes : Bool) :
    List String → Except Refusal (Progress × Stop)
  | [] => .ok (p, .lineEnd)
  | arg :: rest =>
    let next (r : Except Refusal Progress) : Except Refusal (Progress × Stop) :=
      r.bind fun p => readScope scope p afterDashes rest
    if afterDashes then next (readPlain scope p true arg)
    else if scope = .program ∧ p.awaiting?.isNone ∧ arg = "help" then .error (helpFor rest)
    else
      match if scope = .program ∧ p.awaiting?.isNone then Scope.ofName? arg else none with
      | some command => .ok (p, .command command rest)
      | none =>
        match arg.toList with
        | ['-', '-'] => readScope scope p true rest
        | '-' :: '-' :: cs => next (readLong scope p cs)
        | '-' :: c :: cs => next (readShort scope p c cs)
        | _ =>
          match p.awaiting? with
          | some o => next (.ok { p with pending := some (o, some arg) })
          | none => next (readPlain scope p false arg)

-- ---------------------------------------------------------------------------
-- Invocations
-- ---------------------------------------------------------------------------

def textOf (found : List (Opt × Value)) (o : Opt) : Option String :=
  found.findSome? fun
    | (o', .text s) => if o' = o then some s else none
    | _ => none

def numberOf (found : List (Opt × Value)) (o : Opt) : Option UInt64 :=
  found.findSome? fun
    | (o', .number n) => if o' = o then some n else none
    | _ => none

def digestOf (found : List (Opt × Value)) : Option Digest :=
  found.findSome? fun
    | (_, .digest d) => some d
    | _ => none

def shellOf (found : List (Opt × Value)) : Option Shell :=
  found.findSome? fun
    | (_, .shell s) => some s
    | _ => none

def commandOf (scope : Scope) (found : List (Opt × Value)) : Except Refusal Command :=
  match scope with
  | .program => .error (if found.isEmpty then .nothingGiven else .commandRequired)
  | .run =>
    .ok (.run
      { target := textOf found .target
        proxy := textOf found .proxy
        workers := numberOf found .workers
        maxConcurrent := numberOf found .maxConcurrent
        jitterMaxMs := numberOf found .jitterMaxMs
        timeoutSecs := numberOf found .timeoutSecs
        json := found.any (·.1 == .json)
        verboseOutcomes := found.any (·.1 == .verboseOutcomes) })
  | .reference => .ok (.reference (textOf found .target) (digestOf found))
  | .fetch => .ok (.fetch (textOf found .target) (textOf found .proxy))
  | .completions =>
    match shellOf found with
    | some s => .ok (.completions s)
    | none => .error .argumentRequired

def readToEnd (scope : Scope) (args : List String) :
    Except Refusal (Command × List (Opt × Value)) := do
  let (p, _) ← readScope scope .start false args
  let p ← p.settle
  return (← commandOf scope p.found, p.found)

/-- Reads the arguments of a command line. The options before the command are read last. -/
def parse (args : List String) : Except Refusal Invocation := do
  let (p, stop) ← readScope .program .start false args
  match stop with
  | .lineEnd =>
    let p ← p.settle
    return ⟨textOf p.found .config, ← commandOf .program p.found⟩
  | .command scope rest =>
    let (command, inner) ← readToEnd scope rest
    let p ← p.settle
    return ⟨(textOf inner .config).or (textOf p.found .config), command⟩

end ProxyAudit.CommandLine
