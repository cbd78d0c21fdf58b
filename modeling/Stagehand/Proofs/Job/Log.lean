import Stagehand.Job.Handle
import Stagehand.Proofs.Staging.Log
import Stagehand.Proofs.Workflow.Log

/-! # What is logged of a job

A failure shows nowhere but in the log and in the report, so these two have to agree.  The log of a
job begins with its arrival and ends with the answer to its acknowledgment and with the report; what
stands between them depends on how far the job got.
-/

set_option autoImplicit false

namespace Stagehand

variable {state : Type}

namespace Dispatcher

/-! ## The phases of a job -/

/-- The payload that a delivery asks for was staged, with this report. -/
structure HasStaged (dispatcher : Dispatcher state) (conditions : Conditions) (tree : FileTree)
    (delivery : Delivery) (request : Request) (workspace : Workspace) (summary : StagingSummary) :
    Prop where
  valid : Request.ofDelivery dispatcher.wording delivery = .ok request
  ready : (dispatcher.readyWorkspace request tree).outcome = .ok workspace
  staged : (dispatcher.stagedPayload conditions request workspace
    (dispatcher.readyWorkspace request tree).tree).outcome = .ok summary

/-- The report of a staging in a message. -/
def stagedMessage (request : Request) (summary : StagingSummary) : Message :=
  .payloadStaged request.payloadId summary.staged.length summary.skipped.length
    summary.bytesWritten

/-- What is logged of a job between its arrival and its acknowledgment, by its outcome. -/
inductive JobLog (dispatcher : Dispatcher state) (conditions : Conditions) (tree : FileTree)
    (delivery : Delivery) : JobOutcome → List Message → Prop where
  | rejected (reason : Rejection)
      (invalid : Request.ofDelivery dispatcher.wording delivery = .error reason) :
      JobLog dispatcher conditions tree delivery (.rejected reason)
        [.deliveryRejected delivery.tag reason.message]
  | unprepared (request : Request) (reason : StagingError) (early : List Message)
      (downloads : List (String × Nat)) (skips : List String)
      (valid : Request.ofDelivery dispatcher.wording delivery = .ok request)
      (failed : (dispatcher.prepare conditions request tree).outcome = .error reason)
      (told : Prepares early downloads skips) :
      JobLog dispatcher conditions tree delivery (.stagingFailed reason)
        (early ++ [.payloadFailed request.correlationId request.payloadId reason.message])
  | executed (request : Request) (workspace : Workspace) (summary : StagingSummary)
      (early : List Message) (invocations : List Invocation)
      (staged : dispatcher.HasStaged conditions tree delivery request workspace summary)
      (told : Prepares early (Staging.downloadsOf summary) summary.skipped) :
      JobLog dispatcher conditions tree delivery (.executed invocations)
        (early ++ stagedMessage request summary ::
          (messages (fileCountEntries request summary) ++ invocations.flatMap Invocation.log))

variable {dispatcher : Dispatcher state} {conditions : Conditions} {tree : FileTree}
  {delivery : Delivery} {request : Request} {workspace : Workspace} {outcome : JobOutcome}
  {during : List Message}

theorem log_stagedPayload :
    let work := dispatcher.stagedPayload conditions request workspace tree
    (∃ reason downloads skips, work.outcome = .error reason ∧
        Prepares (messages work.journal) downloads skips) ∨
      ∃ summary early, work.outcome = .ok summary ∧
        messages work.journal = early ++ [.payloadStaged request.payloadId summary.staged.length
          summary.skipped.length summary.bytesWritten] ∧
        Prepares early (Staging.downloadsOf summary) summary.skipped :=
  Staging.messages_stagePayload tree

theorem log_of_unprepared {reason : StagingError}
    (failed : (dispatcher.prepare conditions request tree).outcome = .error reason) :
    ∃ downloads skips,
      Prepares (messages (dispatcher.prepare conditions request tree).journal) downloads skips := by
  have readied : Prepares (messages (dispatcher.readyWorkspace request tree).journal) [] [] :=
    prepares_ensure _ _ _ _
  cases readying : (dispatcher.readyWorkspace request tree).outcome with
  | error failure =>
      rw [prepare_of_unready readying]
      exact ⟨[], [], readied⟩
  | ok workspace =>
      rw [prepare_of_ready readying] at failed ⊢
      obtain ⟨fault, downloads, skips, staging, told⟩ | ⟨summary, early, staging, -, -⟩ :=
        @log_stagedPayload state dispatcher conditions
          (dispatcher.readyWorkspace request tree).tree request workspace
      · rw [Activity.andThen_of_error _ staging, Activity.journal_after, messages_append]
        exact ⟨_, _, readied.append told⟩
      · rw [Activity.andThen_of_ok _ staging] at failed
        cases failed

theorem log_of_prepared (valid : Request.ofDelivery dispatcher.wording delivery = .ok request)
    (prepared : (dispatcher.prepare conditions request tree).outcome = .ok workspace) :
    ∃ summary early, dispatcher.HasStaged conditions tree delivery request workspace summary ∧
      messages (dispatcher.prepare conditions request tree).journal =
        early ++ .payloadStaged request.payloadId summary.staged.length summary.skipped.length
            summary.bytesWritten :: messages (fileCountEntries request summary) ∧
      Prepares early (Staging.downloadsOf summary) summary.skipped := by
  have readied : Prepares (messages (dispatcher.readyWorkspace request tree).journal) [] [] :=
    prepares_ensure _ _ _ _
  cases readying : (dispatcher.readyWorkspace request tree).outcome with
  | error failure =>
      rw [prepare_of_unready readying] at prepared
      cases prepared
  | ok made =>
      rw [prepare_of_ready readying] at prepared ⊢
      obtain ⟨fault, downloads, skips, staging, -⟩ | ⟨summary, early, staging, whole, told⟩ :=
        @log_stagedPayload state dispatcher conditions
          (dispatcher.readyWorkspace request tree).tree request made
      · rw [Activity.andThen_of_error _ staging] at prepared
        cases prepared
      · rw [Activity.andThen_of_ok _ staging] at prepared ⊢
        cases Except.ok.inj prepared
        refine ⟨summary, _, ⟨valid, readying, staging⟩, ?_, readied.append told⟩
        simp [whole]

theorem jobLog_process (dispatcher : Dispatcher state) (conditions : Conditions)
    (bench : Bench state) (delivery : Delivery) :
    JobLog dispatcher conditions bench.tree delivery
      (dispatcher.process conditions bench delivery).result.2
      (messages (dispatcher.process conditions bench delivery).journal) := by
  cases validation : Request.ofDelivery dispatcher.wording delivery with
  | error reason =>
      rw [process_of_rejected bench validation]
      exact .rejected reason validation
  | ok request =>
      rw [process_of_request bench validation]
      dsimp only
      cases preparation : (dispatcher.prepare conditions request bench.tree).outcome with
      | error reason =>
          obtain ⟨downloads, skips, told⟩ := log_of_unprepared preparation
          rw [carryOut_of_unprepared preparation]
          dsimp only
          rw [messages_append]
          exact .unprepared request reason _ downloads skips validation preparation told
      | ok workspace =>
          obtain ⟨summary, early, staged, whole, told⟩ := log_of_prepared validation preparation
          rw [carryOut_of_prepared preparation]
          dsimp only
          rw [messages_append, whole, Invocation.messages_runAll, List.append_assoc,
            List.cons_append]
          exact .executed request workspace summary early _ staged told

/-! ## What the phases tell -/

namespace HasStaged

variable {summary summary' : StagingSummary} {request' : Request} {workspace' : Workspace}

theorem prepared (staged : dispatcher.HasStaged conditions tree delivery request workspace summary) :
    (dispatcher.prepare conditions request tree).outcome = .ok workspace := by
  rw [prepare_of_ready staged.ready, Activity.outcome_after, Activity.andThen_of_ok _ staged.staged]
  rfl

/-- A delivery is staged in one way at most. -/
theorem unique (staged : dispatcher.HasStaged conditions tree delivery request workspace summary)
    (again : dispatcher.HasStaged conditions tree delivery request' workspace' summary') :
    request' = request ∧ workspace' = workspace ∧ summary' = summary := by
  cases Except.ok.inj (again.valid.symm.trans staged.valid)
  cases Except.ok.inj (again.ready.symm.trans staged.ready)
  cases Except.ok.inj (again.staged.symm.trans staged.staged)
  exact ⟨rfl, rfl, rfl⟩

/-- The report of a staging accounts for the objects listed, the placeholders of directories apart. -/
theorem listed (staged : dispatcher.HasStaged conditions tree delivery request workspace summary) :
    ∃ objects, dispatcher.store.list dispatcher.settings.bucket request.payloadId = .ok objects ∧
      summary.staged = (Staging.stagedKeys dispatcher.settings.ignoreManifests objects).map
        (Staging.stagedAs dispatcher.store dispatcher.settings.bucket workspace.inputDirectory) ∧
      summary.skipped = Staging.skippedKeys dispatcher.settings.ignoreManifests objects := by
  obtain ⟨objects, listed, ended, -⟩ := Staging.stagePayload_of_ok staged.staged
  obtain ⟨skipped, reported⟩ := (Staging.stages_stageObjects objects _).summary_of_ok ended
  exact ⟨objects, listed, reported, skipped⟩

end HasStaged

theorem mem_fileCountEntries {summary : StagingSummary} {message : Message} :
    message ∈ messages (fileCountEntries request summary) ↔
      ∃ count, request.fileCount = some count ∧ count.toNat ≠ summary.objectCount ∧
        message = .fileCountMismatch request.payloadId count.toNat summary.objectCount := by
  unfold fileCountEntries
  cases request.fileCount with
  | none => simp
  | some count =>
      by_cases met : count.toNat = summary.objectCount
      · simp [met]
      · simp [met]

theorem kind_of_mem_fileCountEntries {summary : StagingSummary} {message : Message}
    (member : message ∈ messages (fileCountEntries request summary)) :
    message.kind = .mismatch := by
  obtain ⟨count, -, -, rfl⟩ := mem_fileCountEntries.mp member
  rfl

/-- Of most kinds there is nothing in the log of an executed job until its payload was staged. -/
theorem filter_staged {early later : List Message} {summary : StagingSummary}
    {downloads : List (String × Nat)} {skips : List String} {kind : Message.Kind}
    (told : Prepares early downloads skips) (other : kind ∉ [.preparation, .staged]) :
    (early ++ stagedMessage request summary :: later).filter (·.kind = kind) =
      later.filter (·.kind = kind) := by
  simp only [List.mem_cons, List.not_mem_nil, or_false, not_or] at other
  have reported : (stagedMessage request summary).kind = .staged := rfl
  rw [List.filter_append, told.filter_kind other.1, List.nil_append, List.filter_cons_of_neg]
  simpa [reported] using Ne.symm other.2

/-- A message that is logged before the acknowledgment suits the outcome of the job. -/
def Suits (dispatcher : Dispatcher state) (conditions : Conditions) (tree : FileTree)
    (delivery : Delivery) (outcome : JobOutcome) (message : Message) : Prop :=
  match message.kind with
  | .rejection =>
      ∃ reason, outcome = .rejected reason ∧
        message = .deliveryRejected delivery.tag reason.message
  | .stagingFailure =>
      ∃ request reason, Request.ofDelivery dispatcher.wording delivery = .ok request ∧
        outcome = .stagingFailed reason ∧
        message = .payloadFailed request.correlationId request.payloadId reason.message
  | .staged =>
      ∃ request workspace summary,
        dispatcher.HasStaged conditions tree delivery request workspace summary ∧
          message = stagedMessage request summary
  | .preparation => True
  | .mismatch | .launch | .ending => ∃ invocations, outcome = .executed invocations
  | .arrival | .acknowledgment | .finish | .session => False

theorem suits_of_preparation {message : Message} (kind : message.kind = .preparation) :
    dispatcher.Suits conditions tree delivery outcome message := by
  unfold Suits
  rw [kind]
  trivial

/-- Every message of a job but the first and the last two suits its outcome. -/
theorem JobLog.suits (log : JobLog dispatcher conditions tree delivery outcome during)
    {message : Message}
    (member : message ∈ during) : dispatcher.Suits conditions tree delivery outcome message := by
  cases log with
  | rejected reason =>
      rw [List.mem_singleton.mp member]
      exact ⟨reason, rfl, rfl⟩
  | unprepared request reason early downloads skips valid failed told =>
      rcases List.mem_append.mp member with member | member
      · exact suits_of_preparation (told.only message member)
      · rw [List.mem_singleton.mp member]
        exact ⟨request, reason, valid, rfl, rfl⟩
  | executed request workspace summary early invocations staged told =>
      have executed (kind : message.kind = .mismatch ∨ message.kind = .launch ∨
          message.kind = .ending) :
          dispatcher.Suits conditions tree delivery (.executed invocations) message := by
        unfold Suits
        rcases kind with kind | kind | kind <;> rw [kind] <;> exact ⟨invocations, rfl⟩
      simp only [List.mem_append, List.mem_cons] at member
      rcases member with member | rfl | member | member
      · exact suits_of_preparation (told.only message member)
      · exact ⟨request, workspace, summary, staged, rfl⟩
      · exact executed (Or.inl (kind_of_mem_fileCountEntries member))
      · exact executed (Or.inr (Invocation.kind_of_mem_logs member))

namespace JobLog

theorem rejection_mem {reason : Rejection}
    (log : JobLog dispatcher conditions tree delivery (.rejected reason) during) :
    .deliveryRejected delivery.tag reason.message ∈ during := by
  cases log
  exact List.mem_cons_self

theorem failure_mem {reason : StagingError}
    (log : JobLog dispatcher conditions tree delivery (.stagingFailed reason) during)
    (valid : Request.ofDelivery dispatcher.wording delivery = .ok request) :
    .payloadFailed request.correlationId request.payloadId reason.message ∈ during := by
  cases log with
  | unprepared asked reason early downloads skips valid' =>
      cases Except.ok.inj (valid.symm.trans valid')
      exact List.mem_append_right _ List.mem_cons_self

/-- A job whose payload was staged has told so, and was executed. -/
theorem of_staged {summary : StagingSummary}
    (log : JobLog dispatcher conditions tree delivery outcome during)
    (staged : dispatcher.HasStaged conditions tree delivery request workspace summary) :
    ∃ early invocations, outcome = .executed invocations ∧
      Prepares early (Staging.downloadsOf summary) summary.skipped ∧
      during = early ++ stagedMessage request summary ::
        (messages (fileCountEntries request summary) ++ invocations.flatMap Invocation.log) := by
  cases log with
  | rejected reason invalid => rw [staged.valid] at invalid; cases invalid
  | unprepared request reason early downloads skips valid failed told =>
      cases Except.ok.inj (staged.valid.symm.trans valid)
      rw [staged.prepared] at failed
      cases failed
  | executed _ _ _ early invocations staged' told =>
      obtain ⟨rfl, rfl, rfl⟩ := staged.unique staged'
      exact ⟨early, invocations, rfl, told, rfl⟩

/-- The endings that are logged are those of the invocations, in order. -/
theorem endings (log : JobLog dispatcher conditions tree delivery outcome during) :
    during.filter (·.kind = .ending) = outcome.invocations.map Invocation.ending := by
  cases log with
  | rejected => rfl
  | unprepared request reason early downloads skips valid failed told =>
      rw [List.filter_append, told.filter_kind (by decide)]
      rfl
  | executed request workspace summary early invocations staged told =>
      have counted : (messages (fileCountEntries request summary)).filter (·.kind = .ending) = [] :=
        List.filter_eq_nil_iff.mpr fun message member => by
          simp [kind_of_mem_fileCountEntries member]
      rw [filter_staged told (by decide), List.filter_append, counted, Invocation.endings_logs]
      rfl

end JobLog

theorem JobLog.followed (log : JobLog dispatcher conditions tree delivery outcome during)
    {tail : List Message} (others : ∀ message ∈ tail, message.kind ≠ .launch) :
    Followed outcome.invocations (during ++ tail) := by
  have ending : Followed outcome.invocations tail := by
    simpa using Followed.nil.append others
  cases log with
  | rejected reason => exact ending.cons (by simp [Message.kind])
  | unprepared request reason early downloads skips valid failed told =>
      refine ending.append fun message member => ?_
      rcases List.mem_append.mp member with member | member
      · simp [told.only message member]
      · simp [List.mem_singleton.mp member, Message.kind]
  | executed request workspace summary early invocations staged told =>
      rw [List.append_assoc, List.cons_append, List.append_assoc]
      refine (((ending.logs fun _ => id).append fun message member => ?_).cons ?_).append
        fun message member => ?_
      · simp [kind_of_mem_fileCountEntries member]
      · simp [stagedMessage, Message.kind]
      · simp [told.only message member]

/-! ## The whole log -/

/-- The answer to an acknowledgment in a message, as the report has it. -/
def Answers (report : JobReport) : Message → Prop
  | .acknowledgmentSent tag => tag = report.tag ∧ report.acknowledged = true
  | .acknowledgmentFailed tag _ => tag = report.tag ∧ report.acknowledged = false
  | _ => False

/-- The log of a job and its report agree. -/
structure LogAgrees (dispatcher : Dispatcher state) (conditions : Conditions) (tree : FileTree)
    (delivery : Delivery) (report : JobReport) (log : List Message) : Prop where
  tag : report.tag = delivery.tag
  /-- The arrival comes first, the answer to the acknowledgment and the report come last, and there is
  nothing of these kinds in between. -/
  framed : ∃ during answer,
    log = arrival delivery :: (during ++ [answer,
      .jobFinished (report.correlationId.getD "<none>") report.tag report.outcome.label
        report.succeeded report.failed report.acknowledged report.elapsed]) ∧
    Answers report answer ∧ JobLog dispatcher conditions tree delivery report.outcome during ∧
    ∀ message ∈ during, message.kind ≠ .arrival ∧ message.kind ≠ .acknowledgment ∧
      message.kind ≠ .finish
  rejected : ∀ message, message ∈ log ∧ message.kind = .rejection ↔
    ∃ reason, report.outcome = .rejected reason ∧
      message = .deliveryRejected delivery.tag reason.message
  failed : ∀ message, message ∈ log ∧ message.kind = .stagingFailure ↔
    ∃ request reason, Request.ofDelivery dispatcher.wording delivery = .ok request ∧
      report.outcome = .stagingFailed reason ∧
      message = .payloadFailed request.correlationId request.payloadId reason.message
  staged : ∀ message, message ∈ log ∧ message.kind = .staged ↔
    ∃ request workspace summary,
      dispatcher.HasStaged conditions tree delivery request workspace summary ∧
        message = stagedMessage request summary
  /-- Each object that was staged or skipped is told of once, in the order of the listing. -/
  objects : ∀ request workspace summary,
    dispatcher.HasStaged conditions tree delivery request workspace summary →
      log.filterMap Message.downloaded? =
          (summary.staged.map fun object => (object.key, object.bytesWritten)) ∧
        log.filterMap Message.skipped? = summary.skipped ∧
        ∃ listing, dispatcher.store.list dispatcher.settings.bucket request.payloadId =
            .ok listing ∧
          summary.staged = (Staging.stagedKeys dispatcher.settings.ignoreManifests listing).map
            (Staging.stagedAs dispatcher.store dispatcher.settings.bucket
              workspace.inputDirectory) ∧
          summary.skipped = Staging.skippedKeys dispatcher.settings.ignoreManifests listing
  ended : log.filter (·.kind = .ending) = report.outcome.invocations.map Invocation.ending
  succeeded : log.countP Message.isCompletion = report.succeeded
  unsuccessful : log.countP Message.isFailure = report.failed
  total : report.succeeded + report.failed = report.outcome.invocations.length
  followed : Followed report.outcome.invocations log

variable {report : JobReport} {answer : Message} {log : List Message}

theorem kind_of_answers (told : Answers report answer) : answer.kind = .acknowledgment := by
  cases answer <;> first | rfl | exact told.elim

/-- The messages of a job stand between its arrival and the answer to its acknowledgment. -/
theorem messages_handle (dispatcher : Dispatcher state) (conditions : Conditions)
    (bench : Bench state) (delivery : Delivery) :
    let work := dispatcher.handle conditions bench delivery
    ∃ answer, Answers work.result answer ∧
      messages work.journal = arrival delivery ::
        (messages (dispatcher.process conditions bench delivery).journal ++
          [answer, closing work.result]) := by
  simp only [handle, messages_cons_log, messages_inSpan, messages_append, acknowledgeOnce]
  cases conditions.acknowledgment with
  | ok done => exact ⟨.acknowledgmentSent delivery.tag, ⟨rfl, rfl⟩, by simp⟩
  | error reason =>
      exact ⟨.acknowledgmentFailed delivery.tag reason.message, ⟨rfl, rfl⟩, by simp⟩

section

variable (course : JobLog dispatcher conditions tree delivery report.outcome during)
  (told : Answers report answer)
  (whole : log = arrival delivery :: (during ++ [answer, closing report]))

include told whole

omit told in
theorem mem_log {message : Message} (member : message ∈ during) : message ∈ log := by
  simp [whole, member]

/-- The first message of a job and the last two are of kinds of their own. -/
theorem mem_during {message : Message} {kind : Message.Kind} (member : message ∈ log)
    (same : message.kind = kind) (other : kind ∉ [.arrival, .acknowledgment, .finish]) :
    message ∈ during := by
  rw [← same] at other
  simp only [List.mem_cons, List.not_mem_nil, or_false, not_or] at other
  have first : message ≠ arrival delivery := by
    rintro rfl
    exact other.1 rfl
  have middle : message ≠ answer := by
    rintro rfl
    exact other.2.1 (kind_of_answers told)
  have last : message ≠ closing report := by
    rintro rfl
    exact other.2.2 rfl
  simpa [whole, first, middle, last] using member

theorem filter_log {kind : Message.Kind} (other : kind ∉ [.arrival, .acknowledgment, .finish]) :
    log.filter (·.kind = kind) = during.filter (·.kind = kind) := by
  simp only [List.mem_cons, List.not_mem_nil, or_false, not_or] at other
  obtain ⟨first, middle, last⟩ := other
  have opened : (arrival delivery).kind = .arrival := rfl
  have closed : (closing report).kind = .finish := rfl
  simp [whole, opened, closed, kind_of_answers told, Ne.symm first, Ne.symm middle, Ne.symm last]

include course

/-- What is told of objects is told before the acknowledgment. -/
theorem objects_of_staged {summary : StagingSummary}
    (staged : dispatcher.HasStaged conditions tree delivery request workspace summary) :
    log.filterMap Message.downloaded? = Staging.downloadsOf summary ∧
      log.filterMap Message.skipped? = summary.skipped := by
  obtain ⟨early, invocations, -, prepared, split⟩ := course.of_staged staged
  let later := stagedMessage request summary ::
    (messages (fileCountEntries request summary) ++ invocations.flatMap Invocation.log)
  have others : ∀ message ∈ later ++ [answer, closing report], message.kind ≠ .preparation := by
    intro message member
    simp only [later, List.mem_append, List.mem_cons, List.not_mem_nil, or_false] at member
    rcases member with (rfl | member | member) | rfl | rfl
    · simp [stagedMessage, Message.kind]
    · simp [kind_of_mem_fileCountEntries member]
    · rcases Invocation.kind_of_mem_logs member with kind | kind <;> simp [kind]
    · simp [kind_of_answers told]
    · simp [closing, Message.kind]
  have parts : log = [arrival delivery] ++ early ++ (later ++ [answer, closing report]) := by
    rw [whole, split]
    simp [later]
  have none : (later ++ [answer, closing report]).filterMap Message.downloaded? = [] :=
    List.filterMap_eq_nil_iff.mpr fun message member =>
      Message.downloaded?_eq_none (others message member)
  have none' : (later ++ [answer, closing report]).filterMap Message.skipped? = [] :=
    List.filterMap_eq_nil_iff.mpr fun message member =>
      Message.skipped?_eq_none (others message member)
  constructor
  · rw [parts, List.filterMap_append, none, List.append_nil, List.filterMap_append,
      prepared.downloads]
    rfl
  · rw [parts, List.filterMap_append, none', List.append_nil, List.filterMap_append,
      prepared.skips]
    rfl

theorem suits_of_mem {message : Message} {kind : Message.Kind} (member : message ∈ log)
    (same : message.kind = kind) (other : kind ∉ [.arrival, .acknowledgment, .finish]) :
    dispatcher.Suits conditions tree delivery report.outcome message :=
  course.suits (mem_during told whole member same other)

/-- The workflows that ended are told of one by one, in the order of the request. -/
theorem filter_log_ending :
    log.filter (·.kind = .ending) = report.outcome.invocations.map Invocation.ending :=
  (filter_log told whole (by decide)).trans course.endings

theorem countP_log_completion : log.countP Message.isCompletion = report.succeeded := by
  rw [Invocation.countP_of_endings (filter_log_ending course told whole) fun message => by
    cases message <;> simp [Message.isCompletion, Message.kind]]
  simp only [Invocation.isCompletion_ending]
  rfl

theorem countP_log_failure : log.countP Message.isFailure = report.failed := by
  rw [Invocation.countP_of_endings (filter_log_ending course told whole) fun message => by
    cases message <;> simp [Message.isFailure, Message.kind]]
  have both := List.length_eq_countP_add_countP (l := report.outcome.invocations)
    fun invocation => invocation.outcome.isSuccess
  have total := report.succeeded_add_failed
  have succeeded : report.succeeded = report.outcome.invocations.countP fun invocation =>
    invocation.outcome.isSuccess := rfl
  simp only [Invocation.isFailure_ending]
  simp only [Bool.not_eq_true, Bool.decide_eq_false] at both
  omega

theorem followed_log : Followed report.outcome.invocations log := by
  have tail : ∀ message ∈ [answer, closing report], message.kind ≠ .launch := by
    intro message member
    rcases List.mem_cons.mp member with rfl | member
    · simp [kind_of_answers told]
    · simp [List.mem_singleton.mp member, closing, Message.kind]
  rw [whole]
  exact (course.followed tail).cons (by simp [arrival, Message.kind])

theorem logAgrees_of_jobLog (own : report.tag = delivery.tag) :
    LogAgrees dispatcher conditions tree delivery report log where
  tag := own
  framed := by
    refine ⟨during, answer, whole, told, course, fun message member => ?_⟩
    have suits := course.suits member
    refine ⟨?_, ?_, ?_⟩ <;> intro kind <;> rw [Suits, kind] at suits <;> exact suits
  rejected message := by
    constructor
    · rintro ⟨member, kind⟩
      have suits := suits_of_mem course told whole member kind (by decide)
      rwa [Suits, kind] at suits
    · rintro ⟨reason, same, rfl⟩
      rw [same] at course
      exact ⟨mem_log whole course.rejection_mem, rfl⟩
  failed message := by
    constructor
    · rintro ⟨member, kind⟩
      have suits := suits_of_mem course told whole member kind (by decide)
      rwa [Suits, kind] at suits
    · rintro ⟨request, reason, valid, same, rfl⟩
      rw [same] at course
      exact ⟨mem_log whole (course.failure_mem valid), rfl⟩
  staged message := by
    constructor
    · rintro ⟨member, kind⟩
      have suits := suits_of_mem course told whole member kind (by decide)
      rwa [Suits, kind] at suits
    · rintro ⟨request, workspace, summary, staged, rfl⟩
      obtain ⟨early, invocations, -, -, split⟩ := course.of_staged staged
      exact ⟨mem_log whole (by simp [split]), rfl⟩
  objects request workspace summary staged :=
    have ⟨downloads, skips⟩ := objects_of_staged course told whole staged
    ⟨downloads, skips, staged.listed⟩
  ended := filter_log_ending course told whole
  succeeded := countP_log_completion course told whole
  unsuccessful := countP_log_failure course told whole
  total := report.succeeded_add_failed
  followed := followed_log course told whole

end

/-- The log of a job agrees with its report, and everything after the arrival is told inside the span
of the job. -/
theorem handle_log_agrees (dispatcher : Dispatcher state) (conditions : Conditions)
    (bench : Bench state) (delivery : Delivery) :
    let work := dispatcher.handle conditions bench delivery
    (∃ later, work.journal = .log (arrival delivery) :: later ∧
      ∀ message inside, .event message inside ∈ later → ∃ deeper, inside = "job" :: deeper) ∧
    LogAgrees dispatcher conditions bench.tree delivery work.result (messages work.journal) := by
  obtain ⟨answer, told, whole⟩ := messages_handle dispatcher conditions bench delivery
  refine ⟨⟨_, rfl, fun message inside member => inside_of_mem_inSpan member⟩, ?_⟩
  exact logAgrees_of_jobLog (jobLog_process dispatcher conditions bench delivery) told whole rfl

end Dispatcher
end Stagehand
