import Stagehand.Path
import Stagehand.Workspace.Name

/-! # The directories of a job

A job owns one directory, named by its correlation id, in the working directory.  Below it the
workflows share one input directory, and each has an output directory of its own.
-/

set_option autoImplicit false

namespace Stagehand

/-- The directories of one job, all below one root. -/
structure Workspace where
  root : Path
deriving DecidableEq, Inhabited, Repr

namespace Workspace

def inputName : String := "input"

/-- The name of the directory that holds the output directories. -/
def outputName : String := "output"

/-- Where the directories of a job are, whether they exist or not. -/
def layout (workingDirectory : Path) (correlationId : String) : Workspace :=
  ⟨workingDirectory.join correlationId⟩

/-- The directory that the payload is staged into and every workflow reads. -/
def inputDirectory (workspace : Workspace) : Path :=
  workspace.root.join inputName

def outputDirectory (workspace : Workspace) (workflow : String) : Path :=
  (workspace.root.join outputName).join (directoryToken workflow)

end Workspace
end Stagehand
