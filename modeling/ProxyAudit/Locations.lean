import ProxyAudit.FileTree

/-!
# Locations

Where the configuration and the log are kept: in the directories that the environment names for
them, if it names them from the root, else in the usual places below the home directory.
-/

namespace ProxyAudit

/-- The part of an environment that says where files are kept. -/
structure Locations where
  home : String
  configHome : Option String
  stateHome : Option String
  deriving DecidableEq, Repr

namespace Locations

/-- The locations that an environment names. Without a home, or with an empty one, it is the home
of the account. -/
def ofEnvironment (accountHome : String) (env : String → Option String) : Locations where
  home := ((env "HOME").filter (· ≠ "")).getD accountHome
  configHome := env "XDG_CONFIG_HOME"
  stateHome := env "XDG_STATE_HOME"

def programName : String := "fetchcheck"

/-- A directory that the environment names, or a default below the home directory. -/
def chosen (l : Locations) (named : Option String) (default : String) : String :=
  match named with
  | some path => if FilePath.isAbsolute path then path else FilePath.join l.home default
  | none => FilePath.join l.home default

/-- The directory of the configuration. -/
def configDirectory (l : Locations) : String :=
  FilePath.join (l.chosen l.configHome ".config") programName

/-- The directory of the log. -/
def logDirectory (l : Locations) : String :=
  FilePath.join (l.chosen l.stateHome ".local/state") programName

/-- The configuration file. -/
def configFile (l : Locations) : String :=
  FilePath.join l.configDirectory "config.toml"

/-- The log file. -/
def logFile (l : Locations) : String :=
  FilePath.join l.logDirectory "fetchcheck.log"

end Locations

end ProxyAudit
