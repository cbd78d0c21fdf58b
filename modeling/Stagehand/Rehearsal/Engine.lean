import Stagehand.FileTree.Change
import Stagehand.Workflow.Engine

/-! # An engine that follows a script

The script says for each workflow what its first, second and later calls do; the last entry stands
for all calls after it, and a workflow without entries succeeds and does nothing.
-/

set_option autoImplicit false

namespace Stagehand.Rehearsal

/-- What one call does, in this order. -/
structure Behaviour where
  stopRequests : Nat := 0
  outputSteps : List FileTree.Step := []
  inputSteps : List FileTree.Step := []
  ending : CallEnding := .success
deriving Inhabited, Repr

/-- A step of a script whose path is taken below a directory. -/
def stepBelow (directory : Path) : FileTree.Step → FileTree.Step
  | .makeDirectories path => .makeDirectories (directory.join path.text)
  | .write path content => .write (directory.join path.text) content
  | .link target path => .link target (directory.join path.text)
  | .remove path => .remove (directory.join path.text)

/-- The behaviours of each workflow, call by call. -/
abbrev EngineScript := List (String × List Behaviour)

/-- What a call does, after a number of earlier calls of the same workflow. -/
def behaviourAt : Nat → List Behaviour → Behaviour
  | _, [] => {}
  | _, [last] => last
  | 0, first :: _ :: _ => first
  | earlier + 1, _ :: second :: later => behaviourAt earlier (second :: later)

/-- The engine that follows a script.  Its state is the list of the calls so far, by name. -/
def EngineScript.engine (script : EngineScript) : Engine (List String) where
  execute called tree name input output :=
    let behaviour := behaviourAt (called.count name) ((script.lookup name).getD [])
    let written := tree.applyAll (behaviour.outputSteps.map (stepBelow output))
    { next := name :: called
      tree := written.applyAll (behaviour.inputSteps.map (stepBelow input))
      stopRequests := behaviour.stopRequests
      ending := behaviour.ending }

end Stagehand.Rehearsal
