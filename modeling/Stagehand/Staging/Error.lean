import Stagehand.Store.Error
import Stagehand.Workspace.Error

/-! # Failures to stage a payload

The first object that fails ends the staging, so a failure names what it happened to.
-/

set_option autoImplicit false

namespace Stagehand

/-- Why a payload was not staged. -/
inductive StagingError where
  | listing (startingWith : String) (source : StoreError)
  | download (key : String) (source : StoreError)
  | writing (key : String) (path : Path) (source : SystemError)
  | unsafeKey (key : String)
  | workspace (failure : WorkspaceError)
deriving DecidableEq, Inhabited, Repr

namespace StagingError

/-- The failure in words; one of the workspace keeps its own. -/
def message : StagingError → String
  | .listing startingWith source =>
      s!"Failed to list objects under '{startingWith}': {source.message}"
  | .download key source => s!"Failed to download '{key}': {source.message}"
  | .writing key path source => s!"Failed to write '{key}' to {path.text}: {source.message}"
  | .unsafeKey key => s!"Object key '{key}' resolves outside the input directory"
  | .workspace failure => failure.message

/-- The texts of the failures behind this one, nearest first. -/
def causes : StagingError → List String
  | .listing _ source => [source.message]
  | .download _ source => [source.message]
  | .writing _ _ source => [source.message]
  | .unsafeKey _ => []
  | .workspace failure => failure.causes

end StagingError
end Stagehand
