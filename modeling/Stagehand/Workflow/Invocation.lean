import Stagehand.Journal.Entry
import Stagehand.StopSignal
import Stagehand.Workflow.Engine
import Stagehand.Workspace.Layout

/-! # Running the workflows of a job

Each workflow of a job is invoked once, in order, whatever became of those before it.  Failures and
panics stay with the invocation they happened in.  A workflow whose name cannot name an output
directory fails without a call of the engine.
-/

set_option autoImplicit false

namespace Stagehand

inductive InvocationOutcome where
  | success
  | failed (reason : String)
deriving DecidableEq, Inhabited, Repr

def InvocationOutcome.isSuccess : InvocationOutcome → Bool
  | .success => true
  | .failed _ => false

structure Invocation where
  name : String
  inputDirectory : Path
  outputDirectory : Path
  outcome : InvocationOutcome
  elapsed : Duration
deriving DecidableEq, Inhabited, Repr

/-- What the workflows of a job work on: the file tree, the engine's own state, and the signal on
which they can ask for a stop. -/
structure Bench (state : Type) where
  tree : FileTree
  engine : state
  signal : StopSignal
deriving DecidableEq

/-- What running workflows came to: the bench they left, the journal, and a result. -/
structure BenchWork (state result : Type) where
  bench : Bench state
  journal : List Entry
  result : result

/-- How long each workflow takes, as a clock beside the program shows it. -/
abbrev WorkflowTimes := String → Duration

namespace Invocation

variable {state : Type}

/-- One call of the engine, announced and in a span of its own. -/
def launch (engine : Engine state) (bench : Bench state) (name : String) (input output : Path) :
    BenchWork state (Except WorkflowError Unit) :=
  let call := engine.execute bench.engine bench.tree name input output
  let announced := Message.workflowLaunched name input output
  let stops : List Entry :=
    List.replicate call.stopRequests (.call (.stopDuringJob bench.signal.mode))
  { bench := ⟨call.tree, call.next, bench.signal.requestTimes call.stopRequests⟩
    journal :=
      .log announced ::
        inSpan (announced.span "run_workflow")
          (.call (.execute name input output bench.tree) :: stops)
    result := call.ending.result }

def closing (times : WorkflowTimes) (name : String) (output : Path) :
    Except WorkflowError Unit → Message
  | .ok () => .workflowCompleted name output (times name)
  | .error reason => .workflowFailed name reason.message

/-- How an invocation ended, by the result of its call. -/
def outcomeOf : Except WorkflowError Unit → InvocationOutcome
  | .ok () => .success
  | .error reason => .failed reason.message

def run (engine : Engine state) (times : WorkflowTimes) (workspace : Workspace)
    (bench : Bench state) (name : String) : BenchWork state Invocation :=
  let input := workspace.inputDirectory
  let output := workspace.outputDirectory name
  if hasOutputDirectory name then
    let launched := launch engine bench name input output
    { bench := launched.bench
      journal := launched.journal ++ [.log (closing times name output launched.result)]
      result := ⟨name, input, output, outcomeOf launched.result, times name⟩ }
  else
    let refused : Except WorkflowError Unit := .error (.unusableName name)
    { bench := bench
      journal := [.log (closing times name output refused)]
      result := ⟨name, input, output, outcomeOf refused, .zero⟩ }

def runAll (engine : Engine state) (times : WorkflowTimes) (workspace : Workspace) :
    Bench state → List String → BenchWork state (List Invocation)
  | bench, [] => ⟨bench, [], []⟩
  | bench, name :: others =>
      let first := run engine times workspace bench name
      let rest := runAll engine times workspace first.bench others
      ⟨rest.bench, first.journal ++ rest.journal, first.result :: rest.result⟩

end Invocation
end Stagehand
