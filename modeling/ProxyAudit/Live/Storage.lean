import ProxyAudit.Files

/-!
# Real files

The file system of the machine that the program runs on, as file tasks see it.
-/

namespace ProxyAudit.Live

/-- The fault behind an error of the operating system. -/
def faultOf : IO.Error → FileFault
  | .noFileOrDirectory .. => .notFound
  | .alreadyExists .. => .alreadyExists
  | .inappropriateType .. => .isDirectory
  | .permissionDenied .. => .denied
  | e => .other (toString e)

/-- What came of an operation that may fail. -/
def attempt {α : Type} (act : IO α) : IO (Except FileFault α) := do
  try
    return .ok (← act)
  catch e => return .error (faultOf e)

/-- The file system. -/
def files : Files IO where
  makeDirectories path := attempt (IO.FS.createDirAll path)
  seek path := do
    match ← attempt (IO.FS.Handle.mk path .read) with
    | .ok _ | .error .denied => return true
    | .error _ => return false
  read path := attempt (do return (← IO.FS.readBinFile path).toList)
  write path content := attempt (IO.FS.writeBinFile path ⟨content.toArray⟩)
  touch path := attempt (do discard (IO.FS.Handle.mk path .append))

end ProxyAudit.Live
