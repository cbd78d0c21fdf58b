import Stagehand.Path
import Stagehand.SystemError

/-! # Failures to prepare a directory -/

set_option autoImplicit false

namespace Stagehand

/-- A directory that could not be made ready. -/
structure WorkspaceError where
  path : Path
  source : SystemError
deriving DecidableEq, Inhabited, Repr

namespace WorkspaceError

/-- The failure in words. -/
def message (failure : WorkspaceError) : String :=
  s!"Failed to create directory {failure.path.text}: {failure.source.message}"

/-- The texts of the failures behind this one, nearest first. -/
def causes (failure : WorkspaceError) : List String :=
  [failure.source.message]

end WorkspaceError
end Stagehand
