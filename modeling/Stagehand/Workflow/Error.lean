import Stagehand.SystemError

/-! # Failures of a workflow

A failed workflow ends its own invocation only; the others of the job still run.
-/

set_option autoImplicit false

namespace Stagehand

/-- Why a workflow failed. -/
inductive WorkflowError where
  | launch (command : String) (source : SystemError)
  | unusableName (name : String)
  | exitStatus (status : String)
  | panicked (text : String)
deriving DecidableEq, Inhabited, Repr

namespace WorkflowError

/-- The failure in words. -/
def message : WorkflowError → String
  | .launch command source => s!"Failed to launch '{command}': {source.message}"
  | .unusableName name => s!"Workflow name '{name}' cannot form an output directory"
  | .exitStatus status => s!"Workflow exited with {status}"
  | .panicked text => s!"Workflow panicked: {text}"

/-- The texts of the failures behind this one, nearest first. -/
def causes : WorkflowError → List String
  | .launch _ source => [source.message]
  | _ => []

end WorkflowError
end Stagehand
