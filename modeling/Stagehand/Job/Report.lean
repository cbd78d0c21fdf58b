import Stagehand.Request.Rejection
import Stagehand.Staging.Error
import Stagehand.Workflow.Invocation

/-! # What became of a job

A job is rejected, fails before any workflow, or is executed, which says nothing yet about how its
workflows ended.  A run adds up its reports.
-/

set_option autoImplicit false

namespace Stagehand

inductive JobOutcome where
  /-- The delivery made no request; nothing was done. -/
  | rejected (reason : Rejection)
  /-- The workspace or the payload was not made ready; no workflow ran. -/
  | stagingFailed (reason : StagingError)
  /-- Every workflow was invoked. -/
  | executed (invocations : List Invocation)
deriving DecidableEq, Inhabited, Repr

namespace JobOutcome

def label : JobOutcome → String
  | .rejected _ => "rejected"
  | .stagingFailed _ => "fetch_failed"
  | .executed _ => "executed"

/-- The invocations of a job; there are none unless it was executed. -/
def invocations : JobOutcome → List Invocation
  | .executed invocations => invocations
  | _ => []

end JobOutcome

structure JobReport where
  tag : UInt64
  /-- The id of the job once it is known, before that the metadata's. -/
  correlationId : Option String
  outcome : JobOutcome
  acknowledged : Bool
  elapsed : Duration
deriving DecidableEq, Inhabited, Repr

namespace JobReport

def succeeded (report : JobReport) : Nat :=
  report.outcome.invocations.countP fun invocation => invocation.outcome.isSuccess

def failed (report : JobReport) : Nat :=
  report.outcome.invocations.length - report.succeeded

theorem succeeded_add_failed (report : JobReport) :
    report.succeeded + report.failed = report.outcome.invocations.length := by
  have : report.succeeded ≤ report.outcome.invocations.length := List.countP_le_length
  simp only [failed]
  omega

end JobReport

/-- The totals of a run. -/
structure RunSummary where
  processed : Nat := 0
  rejected : Nat := 0
  stagingFailed : Nat := 0
  executed : Nat := 0
  acknowledgmentFailures : Nat := 0
deriving DecidableEq, Inhabited, Repr

namespace RunSummary

def count (summary : RunSummary) : JobOutcome → RunSummary
  | .rejected _ => { summary with rejected := summary.rejected + 1 }
  | .stagingFailed _ => { summary with stagingFailed := summary.stagingFailed + 1 }
  | .executed _ => { summary with executed := summary.executed + 1 }

def record (summary : RunSummary) (report : JobReport) : RunSummary :=
  let counted := summary.count report.outcome
  { counted with
    processed := counted.processed + 1
    acknowledgmentFailures :=
      if report.acknowledged then counted.acknowledgmentFailures
      else counted.acknowledgmentFailures + 1 }

end RunSummary
end Stagehand
