import ProxyAudit.Config.Document
import ProxyAudit.Files
import ProxyAudit.Locations

/-!
# The configuration file

A configuration is read from the file that the caller names, or else from the file of the user's
configuration directory. If that file is missing, it is made with the default configuration, and
the default is used.

Making the file takes several operations, each of which sees the files as other programs have left
them.

Main results:

* `loadFrom_unreadable`  — a file that cannot be read gives no configuration.
-/

namespace ProxyAudit.Config

/-- Why no configuration could be had. -/
inductive LoadError where
  /-- The directory of the configuration cannot be made. -/
  | unplaced (fault : FileFault)
  /-- The file cannot be read. -/
  | unreadable (path : String) (fault : FileFault)
  /-- The file holds no text. -/
  | notText (path : String)
  /-- The default cannot be written. -/
  | unwritable (fault : FileFault)
  /-- The default has a number that no document can hold. -/
  | undumpable (fault : DumpError)
  /-- The file is no TOML document. -/
  | notToml (path : String)
  /-- The document holds no configuration. -/
  | misfit (path : String) (m : Misfit)

namespace LoadError

/-- What was being done to a file when it failed. -/
def context (action path : String) : String :=
  action ++ " config " ++ path

def message : LoadError → String
  | unplaced fault | unwritable fault => fault.message
  | undumpable fault => fault.message
  | unreadable path fault => context "read" path ++ ": " ++ fault.message
  | notText path => context "read" path ++ ": stream did not contain valid UTF-8"
  | notToml path | misfit path _ => context "parse" path ++ ": TOML parse error"

end LoadError

-- ---------------------------------------------------------------------------
-- Reading
-- ---------------------------------------------------------------------------

def ofContent (path : String) (content : Bytes) : Except LoadError Config :=
  match Bytes.toText? content with
  | none => .error (.notText path)
  | some text =>
    match parse text with
    | .ok c => .ok c
    | .error .notToml => .error (.notToml path)
    | .error (.misfit m) => .error (.misfit path m)

def loadFrom (path : String) : FileTask (Except LoadError Config) :=
  .read path fun
    | .error fault => .done (.error (.unreadable path fault))
    | .ok content => .done (ofContent path content)

-- ---------------------------------------------------------------------------
-- First runs
-- ---------------------------------------------------------------------------

def writeNew (l : Locations) (text : String) : FileTask (Except LoadError Config) :=
  .makeDirectories l.configDirectory fun
    | .error fault => .done (.error (.unwritable fault))
    | .ok () =>
      .write l.configFile [] fun
        | .error fault => .done (.error (.unwritable fault))
        | .ok () =>
          .write l.configFile (Bytes.ofText text) fun
            | .error fault => .done (.error (.unwritable fault))
            | .ok () => .done (.ok .default)

/-- Reads the configuration of the configuration directory, or makes it. -/
def loadOrInit (l : Locations) : FileTask (Except LoadError Config) :=
  .makeDirectories l.configDirectory fun
    | .error fault => .done (.error (.unplaced fault))
    | .ok () =>
      .seek l.configFile fun isThere =>
        if isThere then loadFrom l.configFile
        else
          match Config.default.dump with
          | .error fault => .done (.error (.undumpable fault))
          | .ok text => writeNew l text

/-- Makes the directory of the configuration file and gives the file's path. -/
def placeFile (l : Locations) : FileTask (Except FileFault String) :=
  .makeDirectories l.configDirectory fun
    | .error fault => .done (.error fault)
    | .ok () => .done (.ok l.configFile)

theorem loadFrom_unreadable {t : FileTree} {current path : String} {fault : FileFault}
    (h : t.read (FilePath.stepsFrom current path) = .error fault) :
    t.perform current (loadFrom path) = (.error (.unreadable path fault), t) := by
  rw [loadFrom, FileTree.perform_read, h]
  rfl

end ProxyAudit.Config
