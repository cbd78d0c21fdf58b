import Stagehand.Broker.Session
import Stagehand.Job.Report
import Stagehand.Staging.Payload
import Stagehand.Workflow.Invocation

/-! # One job from its delivery to its acknowledgment

A delivery is validated, its workspace made ready, its payload staged and its workflows run, in this
order and only as far as nothing fails.  Whatever it came to, it is acknowledged exactly once, and
its report says what happened.  Everything after the arrival of the delivery happens in the span of
the job.
-/

set_option autoImplicit false

namespace Stagehand

/-- What every job of a dispatcher has in common. -/
structure Settings where
  workingDirectory : Path
  bucket : String
  /-- Manifests are left out of the staged input. -/
  ignoreManifests : Bool
deriving DecidableEq, Inhabited, Repr

structure Dispatcher (state : Type) where
  settings : Settings
  store : Store
  engine : Engine state
  /-- What the parser of bodies says of one that it cannot read. -/
  wording : Bytes → String

namespace Dispatcher

variable {state : Type}

/-- A warning if the publisher announced another number of files than were listed. -/
def fileCountEntries (request : Request) (summary : StagingSummary) : List Entry :=
  match request.fileCount with
  | none => []
  | some announced =>
      if announced.toNat = summary.objectCount then []
      else [.log (.fileCountMismatch request.payloadId announced.toNat summary.objectCount)]

def readyWorkspace (dispatcher : Dispatcher state) (request : Request) (tree : FileTree) :
    Activity WorkspaceError Workspace :=
  Workspace.ensure tree dispatcher.settings.workingDirectory request.correlationId
    request.workflows

def stagedPayload (dispatcher : Dispatcher state) (conditions : Conditions) (request : Request)
    (workspace : Workspace) (tree : FileTree) : Activity StagingError StagingSummary :=
  Staging.stagePayload dispatcher.store conditions.stopwatch.downloads dispatcher.settings.bucket
    request.payloadId workspace.inputDirectory dispatcher.settings.ignoreManifests tree
    conditions.medium

/-- The workspace of a request made ready and its payload staged. -/
def prepare (dispatcher : Dispatcher state) (conditions : Conditions) (request : Request)
    (tree : FileTree) : Activity StagingError Workspace :=
  ((dispatcher.readyWorkspace request tree).mapFailure StagingError.workspace).andThen
    fun ready workspace =>
      (dispatcher.stagedPayload conditions request workspace ready).andThen fun staged summary =>
        ⟨staged, fileCountEntries request summary, .ok workspace⟩

/-- A request carried out as far as nothing fails. -/
def carryOut (dispatcher : Dispatcher state) (conditions : Conditions) (bench : Bench state)
    (request : Request) : BenchWork state JobOutcome :=
  let prepared := dispatcher.prepare conditions request bench.tree
  let left : Bench state := { bench with tree := prepared.tree }
  match prepared.outcome with
  | .error reason =>
      { bench := left
        journal := prepared.journal ++
          [.log (.payloadFailed request.correlationId request.payloadId reason.message)]
        result := .stagingFailed reason }
  | .ok workspace =>
      let work := Invocation.runAll dispatcher.engine conditions.stopwatch.workflows workspace left
        request.workflows
      { bench := work.bench
        journal := prepared.journal ++ work.journal
        result := .executed work.result }

/-- A delivery carried to its outcome, with the id of the job as far as it is known. -/
def process (dispatcher : Dispatcher state) (conditions : Conditions) (bench : Bench state)
    (delivery : Delivery) : BenchWork state (Option String × JobOutcome) :=
  match Request.ofDelivery dispatcher.wording delivery with
  | .error reason =>
      { bench := bench
        journal := [.log (.deliveryRejected delivery.tag reason.message)]
        result := (delivery.correlationId, .rejected reason) }
  | .ok request =>
      let work := dispatcher.carryOut conditions bench request
      { bench := work.bench
        journal := work.journal
        result := (some request.correlationId, work.result) }

def arrival (delivery : Delivery) : Message :=
  .deliveryReceived delivery.tag delivery.correlationId delivery.appId delivery.routingKey

def closing (report : JobReport) : Message :=
  .jobFinished (report.correlationId.getD Message.absent) report.tag report.outcome.label
    report.succeeded report.failed report.acknowledged report.elapsed

/-- A delivery carried to its outcome and acknowledged. -/
def handle (dispatcher : Dispatcher state) (conditions : Conditions) (bench : Bench state)
    (delivery : Delivery) : BenchWork state JobReport :=
  let work := dispatcher.process conditions bench delivery
  let acknowledgment := acknowledgeOnce conditions.acknowledgment delivery.tag
  let report : JobReport :=
    { tag := delivery.tag
      correlationId := work.result.1
      outcome := work.result.2
      acknowledged := acknowledgment.1
      elapsed := conditions.stopwatch.job }
  { bench := work.bench
    journal :=
      .log (arrival delivery) ::
        inSpan ((arrival delivery).span "handle")
          (work.journal ++ acknowledgment.2 ++ [.log (closing report)])
    result := report }

section

variable {dispatcher : Dispatcher state} {conditions : Conditions}

theorem prepare_of_unready {request : Request} {tree : FileTree} {failure : WorkspaceError}
    (unready : (dispatcher.readyWorkspace request tree).outcome = .error failure) :
    dispatcher.prepare conditions request tree =
      ⟨(dispatcher.readyWorkspace request tree).tree,
        (dispatcher.readyWorkspace request tree).journal, .error (.workspace failure)⟩ := by
  unfold prepare
  generalize dispatcher.readyWorkspace request tree = readying at unready ⊢
  exact Activity.andThen_of_error _ (by rw [Activity.outcome_mapFailure, unready]; rfl)

theorem prepare_of_ready {request : Request} {tree : FileTree} {workspace : Workspace}
    (ready : (dispatcher.readyWorkspace request tree).outcome = .ok workspace) :
    dispatcher.prepare conditions request tree =
      ((dispatcher.stagedPayload conditions request workspace
          (dispatcher.readyWorkspace request tree).tree).andThen fun staged summary =>
        ⟨staged, fileCountEntries request summary, .ok workspace⟩).after
          (dispatcher.readyWorkspace request tree).journal := by
  unfold prepare
  generalize dispatcher.readyWorkspace request tree = readying at ready ⊢
  exact Activity.andThen_of_ok _ (by rw [Activity.outcome_mapFailure, ready]; rfl)

theorem carryOut_of_unprepared {bench : Bench state} {request : Request} {reason : StagingError}
    (failed : (dispatcher.prepare conditions request bench.tree).outcome = .error reason) :
    dispatcher.carryOut conditions bench request =
      { bench := { bench with tree := (dispatcher.prepare conditions request bench.tree).tree }
        journal := (dispatcher.prepare conditions request bench.tree).journal ++
          [.log (.payloadFailed request.correlationId request.payloadId reason.message)]
        result := .stagingFailed reason } := by
  unfold carryOut
  generalize dispatcher.prepare conditions request bench.tree = prepared at failed ⊢
  obtain ⟨tree, journal, outcome⟩ := prepared
  cases failed
  rfl

theorem carryOut_of_prepared {bench : Bench state} {request : Request} {workspace : Workspace}
    (prepared : (dispatcher.prepare conditions request bench.tree).outcome = .ok workspace) :
    dispatcher.carryOut conditions bench request =
      let work := Invocation.runAll dispatcher.engine conditions.stopwatch.workflows workspace
        { bench with tree := (dispatcher.prepare conditions request bench.tree).tree }
        request.workflows
      { bench := work.bench
        journal := (dispatcher.prepare conditions request bench.tree).journal ++ work.journal
        result := .executed work.result } := by
  unfold carryOut
  generalize dispatcher.prepare conditions request bench.tree = preparation at prepared ⊢
  obtain ⟨tree, journal, outcome⟩ := preparation
  cases prepared
  rfl

theorem process_of_rejected (bench : Bench state) {delivery : Delivery} {reason : Rejection}
    (invalid : Request.ofDelivery dispatcher.wording delivery = .error reason) :
    dispatcher.process conditions bench delivery =
      { bench := bench
        journal := [.log (.deliveryRejected delivery.tag reason.message)]
        result := (delivery.correlationId, .rejected reason) } := by
  simp only [process, invalid]

theorem process_of_request (bench : Bench state) {delivery : Delivery} {request : Request}
    (valid : Request.ofDelivery dispatcher.wording delivery = .ok request) :
    dispatcher.process conditions bench delivery =
      { bench := (dispatcher.carryOut conditions bench request).bench
        journal := (dispatcher.carryOut conditions bench request).journal
        result := (some request.correlationId,
          (dispatcher.carryOut conditions bench request).result) } := by
  simp only [process, valid]

end

end Dispatcher
end Stagehand
