import Stagehand.Process.Host
import Stagehand.Workflow.Engine

/-! # Workflows as processes

A runner is a command that is started once for each workflow, with the workflow's name and its two
directories as arguments.  A workflow succeeds when the command does.
-/

set_option autoImplicit false

namespace Stagehand

structure Runner where
  command : String
  /-- The command is told to say less. -/
  quiet : Bool
deriving DecidableEq, Inhabited, Repr

namespace Runner

def arguments (runner : Runner) (name : String) (input output : Path) : List String :=
  "run" :: ((if runner.quiet then ["-q"] else []) ++ [name, input.text, output.text])

/-- What the end of the command means for the workflow. -/
def endingOf (runner : Runner) : Except SystemError ExitStatus → CallEnding
  | .error reason => .failure (.launch runner.command reason)
  | .ok status =>
      if status.isSuccess then .success else .failure (.exitStatus status.text)

def execute (runner : Runner) (host : Host) (name : String) (input output : Path) : CallEnding :=
  runner.endingOf (host.launch runner.command (runner.arguments name input output))

/-- The engine that runs each workflow as a process, one that leaves the job's files alone. -/
def engine (runner : Runner) (host : Host) : Engine Unit where
  execute _ tree name input output :=
    { next := (), tree := tree, ending := runner.execute host name input output }

end Runner
end Stagehand
