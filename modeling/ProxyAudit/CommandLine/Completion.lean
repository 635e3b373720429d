import ProxyAudit.CommandLine.Arguments

/-!
# Completion scripts

A script that lets a shell complete the names of commands and options. All scripts offer the same
words; each says so in the language of its shell.
-/

namespace ProxyAudit

namespace CommandLine

/-- The commands that have a name. -/
def Scope.commands : List Scope :=
  [.run, .reference, .fetch, .completions]

def Scope.name : Scope → String
  | program => "fetchcheck"
  | run => "run"
  | reference => "reference"
  | fetch => "fetch"
  | completions => "completions"

def Scope.optionWords (s : Scope) : List String :=
  (s.options.filterMap (·.name?)).map ("--" ++ ·) ++ ["--help"]

/-- What may follow the program's name. -/
def programWords : List String :=
  Scope.commands.map Scope.name ++ ["help"] ++ Scope.program.optionWords

end CommandLine

open CommandLine in
/-- The completion script for a shell. -/
def Shell.completionScript (s : Shell) : String :=
  let join (between : String) (ws : List String) : String := between.intercalate ws
  let lines : List String :=
    match s with
    | bash =>
      ["_fetchcheck() \x7b", "  case \"$\x7bCOMP_WORDS[1]\x7d\" in"]
        ++ Scope.commands.map (fun c =>
          "    " ++ c.name ++ ") words=\"" ++ join " " c.optionWords ++ "\" ;;")
        ++ ["    *) words=\"" ++ join " " programWords ++ "\" ;;", "  esac",
          "  COMPREPLY=($(compgen -W \"$words\" -- \"$\x7bCOMP_WORDS[COMP_CWORD]\x7d\"))", "\x7d",
          "complete -F _fetchcheck fetchcheck"]
    | zsh =>
      ["#compdef fetchcheck", "case \"$words[2]\" in"]
        ++ Scope.commands.map (fun c =>
          "  " ++ c.name ++ ") compadd -- " ++ join " " c.optionWords ++ " ;;")
        ++ ["  *) compadd -- " ++ join " " programWords ++ " ;;", "esac"]
    | fish =>
      Scope.commands.map (fun c =>
          "complete -c fetchcheck -n __fish_use_subcommand -f -a " ++ c.name)
        ++ Scope.commands.flatMap (fun c => (c.options.filterMap (·.name?)).map fun o =>
          "complete -c fetchcheck -n '__fish_seen_subcommand_from " ++ c.name ++ "' -l " ++ o)
    | elvish =>
      ["set edit:completion:arg-completer[fetchcheck] = \x7b|@words|",
        "  put " ++ join " " programWords, "\x7d"]
    | powershell =>
      ["Register-ArgumentCompleter -Native -CommandName fetchcheck -ScriptBlock \x7b",
        "  param($word)",
        "  @(" ++ join ", " (programWords.map fun w => "'" ++ w ++ "'") ++ ") | "
          ++ "Where-Object \x7b $_ -like \"$word*\" \x7d", "\x7d"]
  join "\n" lines

end ProxyAudit
