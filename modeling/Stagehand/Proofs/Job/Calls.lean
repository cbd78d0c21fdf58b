import Stagehand.Job.Handle
import Stagehand.Proofs.Staging.Calls

/-! # The calls of a job

Whatever becomes of a delivery, the last call made for it is its one acknowledgment.  What comes
before depends on how far the job got: nothing, a listing with transfers, or a listing with every
download complete and one call of the engine for each workflow that can have an output directory.
-/

set_option autoImplicit false

namespace Stagehand

/-- A call that the dispatcher makes.  Stop requests are made by others. -/
def Call.isOwn : Call → Bool
  | .stopDuringJob _ | .stopWhileWaiting _ => false
  | _ => true

/-- The calls of a journal that the dispatcher made, in order. -/
def ownCalls (entries : List Entry) : List Call :=
  (calls entries).filter Call.isOwn

/-- The name and the two directories of an engine call. -/
def Call.launched? : Call → Option (String × Path × Path)
  | .execute name input output _ => some (name, input, output)
  | _ => none

/-- A call to the broker. -/
def Call.isBroker : Call → Bool
  | .nextDelivery | .acknowledge _ | .close => true
  | _ => false

/-- The calls of a journal to the broker, in order. -/
def brokerCalls (entries : List Entry) : List Call :=
  (calls entries).filter Call.isBroker

def Call.acknowledged? : Call → Option UInt64
  | .acknowledge tag => some tag
  | _ => none

/-- The tags that were acknowledged, in order. -/
def acknowledgedTags (entries : List Entry) : List UInt64 :=
  (calls entries).filterMap Call.acknowledged?

@[simp] theorem ownCalls_append (first second : List Entry) :
    ownCalls (first ++ second) = ownCalls first ++ ownCalls second := by
  simp [ownCalls]

@[simp] theorem ownCalls_cons_log (message : Message) (entries : List Entry) :
    ownCalls (.log message :: entries) = ownCalls entries := rfl

theorem ownCalls_inSpan (span : Span) (entries : List Entry) :
    ownCalls (inSpan span entries) = ownCalls entries := by
  simp [ownCalls]

theorem Call.isOwn_of_isTransfer {call : Call} (transfer : call.isTransfer = true) :
    call.isOwn = true := by
  cases call <;> first | rfl | cases transfer

theorem filter_isOwn_of_transfers {transfers : List Call}
    (only : ∀ call ∈ transfers, call.isTransfer = true) :
    transfers.filter Call.isOwn = transfers :=
  List.filter_eq_self.mpr fun call member => Call.isOwn_of_isTransfer (only call member)

theorem Call.isBroker_of_isTransfer {call : Call} (transfer : call.isTransfer = true) :
    call.isBroker = false := by
  cases call <;> first | rfl | cases transfer

theorem brokerCalls_append (first second : List Entry) :
    brokerCalls (first ++ second) = brokerCalls first ++ brokerCalls second := by
  simp [brokerCalls]

theorem brokerCalls_eq_ownCalls (entries : List Entry) :
    brokerCalls entries = (ownCalls entries).filter Call.isBroker := by
  simp only [brokerCalls, ownCalls, List.filter_filter]
  congr 1
  funext call
  cases call <;> rfl

theorem acknowledgedTags_eq_brokerCalls (entries : List Entry) :
    acknowledgedTags entries = (brokerCalls entries).filterMap Call.acknowledged? := by
  simp only [acknowledgedTags, brokerCalls, List.filterMap_filter]
  congr 1
  funext call
  cases call <;> rfl

namespace Invocation

variable {state : Type}

theorem ownCalls_launch (engine : Engine state) (bench : Bench state) (name : String)
    (input output : Path) :
    ownCalls (launch engine bench name input output).journal =
      [.execute name input output bench.tree] := by
  have stops (times : Nat) :
      (calls (List.replicate times (Entry.call (.stopDuringJob bench.signal.mode)))).filter
        Call.isOwn = [] := by
    induction times with
    | zero => rfl
    | succ times ih => exact ih
  simp only [launch, ownCalls, calls_cons_log, calls_inSpan, calls_cons_call]
  rw [List.filter_cons_of_pos rfl, stops]

/-- A workflow costs one engine call if it can have an output directory and none otherwise. -/
theorem ownCalls_run (engine : Engine state) (times : WorkflowTimes) (workspace : Workspace)
    (bench : Bench state) (name : String) :
    ownCalls (run engine times workspace bench name).journal =
      if hasOutputDirectory name then
        [.execute name workspace.inputDirectory (workspace.outputDirectory name) bench.tree]
      else [] := by
  unfold run
  split
  · simp only [ownCalls_append, ownCalls_launch]
    rfl
  · rfl

theorem launched_runAll (engine : Engine state) (times : WorkflowTimes) (workspace : Workspace)
    (names : List String) (bench : Bench state) :
    (ownCalls (runAll engine times workspace bench names).journal).map Call.launched? =
      (names.filter hasOutputDirectory).map fun name =>
        some (name, workspace.inputDirectory, workspace.outputDirectory name) := by
  induction names generalizing bench with
  | nil => rfl
  | cons name others ih =>
      simp only [runAll, ownCalls_append, List.map_append, ownCalls_run, ih]
      by_cases usable : hasOutputDirectory name = true
      · simp [usable, Call.launched?]
      · simp [usable]

theorem names_runAll (engine : Engine state) (times : WorkflowTimes) (workspace : Workspace)
    (names : List String) (bench : Bench state) :
    (runAll engine times workspace bench names).result.map Invocation.name = names := by
  induction names generalizing bench with
  | nil => rfl
  | cons name others ih =>
      have first : (run engine times workspace bench name).result.name = name := by
        unfold run
        split <;> rfl
      simp only [runAll, List.map_cons, first, ih]

end Invocation

namespace Dispatcher

variable {state : Type}

/-- How far a job gets, with the id in its report, its outcome, and the calls that the dispatcher
makes before it acknowledges the delivery. -/
inductive JobCourse (dispatcher : Dispatcher state) (conditions : Conditions) (tree : FileTree)
    (delivery : Delivery) : Option String → JobOutcome → List Call → Prop where
  /-- The delivery makes no request. -/
  | rejected (reason : Rejection)
      (invalid : Request.ofDelivery dispatcher.wording delivery = .error reason) :
      JobCourse dispatcher conditions tree delivery delivery.correlationId (.rejected reason) []
  /-- The workspace is not made ready, and the store is never asked. -/
  | unready (request : Request) (failure : WorkspaceError)
      (valid : Request.ofDelivery dispatcher.wording delivery = .ok request)
      (failed : (dispatcher.readyWorkspace request tree).outcome = .error failure) :
      JobCourse dispatcher conditions tree delivery (some request.correlationId)
        (.stagingFailed (.workspace failure)) []
  /-- The workspace is made ready, but the payload is not staged. -/
  | unstaged (request : Request) (workspace : Workspace) (reason : StagingError)
      (transfers : List Call)
      (valid : Request.ofDelivery dispatcher.wording delivery = .ok request)
      (ready : (dispatcher.readyWorkspace request tree).outcome = .ok workspace)
      (failed : (dispatcher.stagedPayload conditions request workspace
        (dispatcher.readyWorkspace request tree).tree).outcome = .error reason)
      (only : ∀ call ∈ transfers, call.isTransfer = true) :
      JobCourse dispatcher conditions tree delivery (some request.correlationId)
        (.stagingFailed reason)
        (.list dispatcher.settings.bucket request.payloadId :: transfers)
  /-- The whole payload is staged and the workflows are run. -/
  | executed (request : Request) (workspace : Workspace) (summary : StagingSummary)
      (objects : List ObjectRef) (invocations : List Invocation) (executions : List Call)
      (valid : Request.ofDelivery dispatcher.wording delivery = .ok request)
      (ready : (dispatcher.readyWorkspace request tree).outcome = .ok workspace)
      (staged : (dispatcher.stagedPayload conditions request workspace
        (dispatcher.readyWorkspace request tree).tree).outcome = .ok summary)
      (listed : dispatcher.store.list dispatcher.settings.bucket request.payloadId = .ok objects)
      (complete : ∀ key ∈ Staging.stagedKeys dispatcher.settings.ignoreManifests objects,
        dispatcher.store.HandsOut dispatcher.settings.bucket key)
      (every : invocations.map Invocation.name = request.workflows)
      (launched : executions.map Call.launched? =
        (request.workflows.filter hasOutputDirectory).map fun name =>
          some (name, workspace.inputDirectory, workspace.outputDirectory name)) :
      JobCourse dispatcher conditions tree delivery (some request.correlationId)
        (.executed invocations)
        (.list dispatcher.settings.bucket request.payloadId ::
          (Staging.stagedKeys dispatcher.settings.ignoreManifests objects).flatMap
            (Staging.downloadCalls dispatcher.store dispatcher.settings.bucket) ++ executions)

section

variable {dispatcher : Dispatcher state} {conditions : Conditions} {tree : FileTree}
  {delivery : Delivery} {request : Request}

theorem JobCourse.asks_broker_nothing {correlationId : Option String} {outcome : JobOutcome}
    {made : List Call}
    (course : JobCourse dispatcher conditions tree delivery correlationId outcome made) :
    made.filter Call.isBroker = [] := by
  simp only [List.filter_eq_nil_iff, Bool.not_eq_true]
  cases course with
  | rejected | unready => simp
  | unstaged request workspace reason transfers valid ready failed only =>
      rintro call (_ | ⟨_, member⟩)
      · rfl
      · exact Call.isBroker_of_isTransfer (only call member)
  | executed request workspace summary objects invocations executions valid ready staged listed
      complete every launched =>
      intro call member
      simp only [List.cons_append, List.mem_cons, List.mem_append, List.mem_flatMap] at member
      rcases member with rfl | ⟨key, _, member⟩ | member
      · rfl
      · exact Call.isBroker_of_isTransfer
          (Staging.isTransfer_of_mem_downloadCalls _ _ key call member)
      · have image : call.launched? ∈ executions.map Call.launched? :=
          List.mem_map_of_mem member
        rw [launched] at image
        obtain ⟨name, _, same⟩ := List.mem_map.mp image
        cases call <;> first | rfl | cases same

theorem ownCalls_of_calls_nil {entries : List Entry} (silent : calls entries = []) :
    ownCalls entries = [] := by
  rw [ownCalls, silent]
  rfl

/-- The calls of a preparation that fails are those of a job that runs no workflow. -/
theorem course_of_unprepared {reason : StagingError}
    (valid : Request.ofDelivery dispatcher.wording delivery = .ok request)
    (failed : (dispatcher.prepare conditions request tree).outcome = .error reason) :
    JobCourse dispatcher conditions tree delivery (some request.correlationId) (.stagingFailed reason)
      (ownCalls (dispatcher.prepare conditions request tree).journal) := by
  have silent : ownCalls (dispatcher.readyWorkspace request tree).journal = [] :=
    ownCalls_of_calls_nil (calls_ensure _ _ _ _)
  cases readying : (dispatcher.readyWorkspace request tree).outcome with
  | error failure =>
      rw [prepare_of_unready readying] at failed ⊢
      cases Except.error.inj failed
      simp only [silent]
      exact .unready request failure valid readying
  | ok workspace =>
      rw [prepare_of_ready readying] at failed ⊢
      obtain ⟨⟨transfers, made, only⟩, -⟩ := Staging.calls_stagePayload dispatcher.store
        conditions.stopwatch.downloads dispatcher.settings.bucket request.payloadId
        workspace.inputDirectory dispatcher.settings.ignoreManifests
        (dispatcher.readyWorkspace request tree).tree conditions.medium
      cases staging : (dispatcher.stagedPayload conditions request workspace
          (dispatcher.readyWorkspace request tree).tree).outcome with
      | ok summary => rw [Activity.andThen_of_ok _ staging] at failed; cases failed
      | error fault =>
          rw [Activity.andThen_of_error _ staging] at failed ⊢
          cases Except.error.inj failed
          simp only [Activity.journal_after, ownCalls_append, silent, List.nil_append]
          unfold ownCalls stagedPayload
          rw [made, List.filter_cons_of_pos rfl, filter_isOwn_of_transfers only]
          exact .unstaged request workspace reason transfers valid readying staging only

/-- The calls of a preparation that succeeds are the listing and every download. -/
theorem ownCalls_prepare_of_ok {workspace : Workspace}
    (prepared : (dispatcher.prepare conditions request tree).outcome = .ok workspace) :
    ∃ summary objects,
      (dispatcher.readyWorkspace request tree).outcome = .ok workspace ∧
      (dispatcher.stagedPayload conditions request workspace
        (dispatcher.readyWorkspace request tree).tree).outcome = .ok summary ∧
      dispatcher.store.list dispatcher.settings.bucket request.payloadId = .ok objects ∧
      (∀ key ∈ Staging.stagedKeys dispatcher.settings.ignoreManifests objects,
        dispatcher.store.HandsOut dispatcher.settings.bucket key) ∧
      ownCalls (dispatcher.prepare conditions request tree).journal =
        .list dispatcher.settings.bucket request.payloadId ::
          (Staging.stagedKeys dispatcher.settings.ignoreManifests objects).flatMap
            (Staging.downloadCalls dispatcher.store dispatcher.settings.bucket) := by
  have silent : ownCalls (dispatcher.readyWorkspace request tree).journal = [] :=
    ownCalls_of_calls_nil (calls_ensure _ _ _ _)
  cases readying : (dispatcher.readyWorkspace request tree).outcome with
  | error failure => rw [prepare_of_unready readying] at prepared; cases prepared
  | ok made =>
      rw [prepare_of_ready readying] at prepared ⊢
      cases staging : (dispatcher.stagedPayload conditions request made
          (dispatcher.readyWorkspace request tree).tree).outcome with
      | error fault => rw [Activity.andThen_of_error _ staging] at prepared; cases prepared
      | ok summary =>
          rw [Activity.andThen_of_ok _ staging] at prepared ⊢
          cases Except.ok.inj prepared
          obtain ⟨objects, listed, handed, taken⟩ := (Staging.calls_stagePayload _ _ _ _ _ _ _ _).2
            summary staging
          have counted : ownCalls (fileCountEntries request summary) = [] := by
            unfold fileCountEntries
            split
            · rfl
            · split <;> rfl
          have transfers : ∀ call ∈ (Staging.stagedKeys dispatcher.settings.ignoreManifests
              objects).flatMap (Staging.downloadCalls dispatcher.store dispatcher.settings.bucket),
              call.isTransfer = true := by
            intro call member
            obtain ⟨key, _, member⟩ := List.mem_flatMap.mp member
            exact Staging.isTransfer_of_mem_downloadCalls _ _ key call member
          refine ⟨summary, objects, rfl, staging, listed, handed, ?_⟩
          simp only [Activity.journal_after, ownCalls_append, silent, counted, List.nil_append,
            List.append_nil]
          unfold ownCalls stagedPayload
          rw [taken, List.filter_cons_of_pos rfl, filter_isOwn_of_transfers transfers]

theorem course_of_request {bench : Bench state}
    (valid : Request.ofDelivery dispatcher.wording delivery = .ok request) :
    JobCourse dispatcher conditions bench.tree delivery (some request.correlationId)
      (dispatcher.carryOut conditions bench request).result
      (ownCalls (dispatcher.carryOut conditions bench request).journal) := by
  cases preparation : (dispatcher.prepare conditions request bench.tree).outcome with
  | error reason =>
      have course := course_of_unprepared valid preparation
      rw [carryOut_of_unprepared preparation]
      simpa [ownCalls] using course
  | ok workspace =>
      obtain ⟨summary, objects, ready, staged, listed, complete, taken⟩ :=
        ownCalls_prepare_of_ok preparation
      rw [carryOut_of_prepared preparation]
      dsimp only
      rw [ownCalls_append, taken]
      exact .executed request workspace summary objects _ _ valid ready staged listed complete
        (Invocation.names_runAll _ _ _ _ _) (Invocation.launched_runAll _ _ _ _ _)

end

theorem course_process (dispatcher : Dispatcher state) (conditions : Conditions)
    (bench : Bench state) (delivery : Delivery) :
    JobCourse dispatcher conditions bench.tree delivery
      (dispatcher.process conditions bench delivery).result.1
      (dispatcher.process conditions bench delivery).result.2
      (ownCalls (dispatcher.process conditions bench delivery).journal) := by
  cases validation : Request.ofDelivery dispatcher.wording delivery with
  | error reason =>
      rw [process_of_rejected bench validation]
      exact .rejected reason validation
  | ok request =>
      rw [process_of_request bench validation]
      dsimp only
      exact course_of_request validation

/-! ## The acknowledgment -/

theorem ownCalls_handle (dispatcher : Dispatcher state) (conditions : Conditions)
    (bench : Bench state) (delivery : Delivery) :
    ownCalls (dispatcher.handle conditions bench delivery).journal =
      ownCalls (dispatcher.process conditions bench delivery).journal ++
        [.acknowledge delivery.tag] := by
  have asked : ownCalls (acknowledgeOnce conditions.acknowledgment delivery.tag).2 =
      [.acknowledge delivery.tag] := by
    unfold acknowledgeOnce
    split <;> rfl
  simp only [handle, ownCalls_cons_log, ownCalls_inSpan, ownCalls_append, asked]
  exact List.append_nil _

theorem brokerCalls_handle (dispatcher : Dispatcher state) (conditions : Conditions)
    (bench : Bench state) (delivery : Delivery) :
    brokerCalls (dispatcher.handle conditions bench delivery).journal =
      [.acknowledge delivery.tag] := by
  rw [brokerCalls_eq_ownCalls, ownCalls_handle, List.filter_append,
    (course_process dispatcher conditions bench delivery).asks_broker_nothing]
  rfl

theorem acknowledged_handle_iff (dispatcher : Dispatcher state) (conditions : Conditions)
    (bench : Bench state) (delivery : Delivery) :
    (dispatcher.handle conditions bench delivery).result.acknowledged = true ↔
      conditions.acknowledgment = .ok () := by
  have flag : (dispatcher.handle conditions bench delivery).result.acknowledged =
      (acknowledgeOnce conditions.acknowledgment delivery.tag).1 := rfl
  rw [flag]
  unfold acknowledgeOnce
  split <;> simp_all

/-- A job ends with the one acknowledgment of its own delivery, and its calls before that are those
of one of the courses that a job can take, which also fixes its outcome and the id it reports. -/
theorem handle_acknowledges_once (dispatcher : Dispatcher state) (conditions : Conditions)
    (bench : Bench state) (delivery : Delivery) :
    let work := dispatcher.handle conditions bench delivery
    work.result.tag = delivery.tag ∧
      (∃ made, JobCourse dispatcher conditions bench.tree delivery work.result.correlationId
          work.result.outcome made ∧
        ownCalls work.journal = made ++ [.acknowledge delivery.tag]) ∧
      acknowledgedTags work.journal = [delivery.tag] ∧
      (work.result.acknowledged = true ↔ conditions.acknowledgment = .ok ()) := by
  have course := course_process dispatcher conditions bench delivery
  have made := ownCalls_handle dispatcher conditions bench delivery
  refine ⟨rfl, ⟨_, course, made⟩, ?_, acknowledged_handle_iff _ _ _ _⟩
  rw [acknowledgedTags_eq_brokerCalls, brokerCalls_handle]
  rfl

end Dispatcher
end Stagehand
