import ProxyAudit.CommandLine.Completion

/-!
# Help

What the program says about itself: for each scope what it does, how it is written and which
options it has. A refused command line is told where to find this.
-/

namespace ProxyAudit.CommandLine

/-- What an option is for. -/
def Opt.about : Opt → String
  | config => "Config file to use instead of ~/.config/fetchcheck/config.toml"
  | target => "Resource URL (overrides config target_url)"
  | proxy => "Proxy address, e.g. localhost:8080 (overrides config proxy)"
  | workers => "Number of workers (overrides config workers)"
  | maxConcurrent => "Run at most N workers at once"
  | jitterMaxMs => "Upper bound of each worker's random start delay, in milliseconds"
  | timeoutSecs => "Total deadline for each fetch, in seconds"
  | expect => "Known-good digest; exit non-zero if the target hashes differently"
  | json => "Print a JSON report instead of one line per worker"
  | verboseOutcomes => "Prefix lines with the worker index and include the failure reason"
  | shell => "Target shell"

namespace Scope

def usage : Scope → String
  | program => "Usage: fetchcheck [OPTIONS] <COMMAND>"
  | completions => "Usage: fetchcheck completions [OPTIONS] <SHELL>"
  | s => "Usage: fetchcheck " ++ s.name ++ " [OPTIONS]"

/-- The list of the commands, which only the program has. -/
def commandLines : Scope → List String
  | program =>
    ["", "Commands:"] ++ commands.map (fun c => "  " ++ c.name ++ "  " ++ c.about)
      ++ ["  help  Print this message or the help of the given subcommand(s)"]
  | _ => []

def help (s : Scope) : String :=
  "\n".intercalate <| [s.about, "", s.usage] ++ s.commandLines ++ ["", "Options:"]
    ++ s.options.map (fun o => "  " ++ o.usage ++ "  " ++ o.about) ++ ["  -h, --help  Print help"]

end Scope

def HelpTopic.text : HelpTopic → String
  | scope s => s.help
  | help => HelpTopic.help.firstLine

/-- All that is said about a refused command line. -/
def Refusal.text : Refusal → String
  | help topic => topic.text
  | nothingGiven => Scope.program.help
  | e => e.message ++ "\n\nFor more information, try '--help'."

end ProxyAudit.CommandLine
