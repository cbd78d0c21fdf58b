import Stagehand.FileTree.Basic
import Stagehand.Path
import Stagehand.Workflow.Error

/-! # Workflow engines

An engine runs a workflow on an input directory and lets it write an output directory.  What it does
in between is its own affair: it may change the file tree and its own state, ask the dispatcher to
stop, and end well, with a failure, or in a panic.
-/

set_option autoImplicit false

namespace Stagehand

/-- What a panic carries: a text or something else. -/
inductive PanicPayload where
  | text (words : String)
  | other
deriving DecidableEq, Inhabited, Repr

def PanicPayload.words : PanicPayload → String
  | .text words => words
  | .other => "unknown panic payload"

inductive CallEnding where
  | success
  | failure (reason : WorkflowError)
  | panic (payload : PanicPayload)
deriving DecidableEq, Inhabited, Repr

/-- The result of a call: a panic is a failure like any other. -/
def CallEnding.result : CallEnding → Except WorkflowError Unit
  | .success => .ok ()
  | .failure reason => .error reason
  | .panic payload => .error (.panicked payload.words)

/-- What a call of an engine did: the engine's state and the tree after it, the number of times it
asked the dispatcher to stop, and how it ended. -/
structure EngineCall (state : Type) where
  next : state
  tree : FileTree
  stopRequests : Nat := 0
  ending : CallEnding

/-- An engine, by what a call of it does in a state of its own and a file tree. -/
structure Engine (state : Type) where
  execute : state → FileTree → (name : String) → (input output : Path) → EngineCall state

end Stagehand
