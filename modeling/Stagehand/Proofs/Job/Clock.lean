import Stagehand.Job.Handle

/-! # What the clock has no say in

How long things take shows in the log and in the report, and nowhere else.  Whatever the stopwatch of a
job shows, the job makes the same calls, leaves the same bench, and tells and reports the same but for
the times.
-/

set_option autoImplicit false

namespace Stagehand

variable {state : Type}

/-! ## Apart from the times -/

/-- The message as if nothing had taken any time. -/
def Message.untimed : Message → Message
  | .jobFinished correlationId tag outcome succeeded failed acknowledged _ =>
      .jobFinished correlationId tag outcome succeeded failed acknowledged .zero
  | .downloadFinished key bytesWritten _ => .downloadFinished key bytesWritten .zero
  | .workflowCompleted workflow output _ => .workflowCompleted workflow output .zero
  | message => message

def Entry.untimed : Entry → Entry
  | .event message inside => .event message.untimed inside
  | entry => entry

def Invocation.untimed (invocation : Invocation) : Invocation :=
  { invocation with elapsed := .zero }

def JobOutcome.untimed : JobOutcome → JobOutcome
  | .executed invocations => .executed (invocations.map Invocation.untimed)
  | outcome => outcome

def JobReport.untimed (report : JobReport) : JobReport :=
  { report with outcome := report.outcome.untimed, elapsed := .zero }

def Activity.untimed {failure result : Type} (work : Activity failure result) :
    Activity failure result :=
  { work with journal := work.journal.map Entry.untimed }

/-- The work without the times in its journal, and with a view of its result. -/
def BenchWork.untimed {result : Type} (view : result → result) (work : BenchWork state result) :
    BenchWork state result :=
  ⟨work.bench, work.journal.map Entry.untimed, view work.result⟩

theorem untimed_inSpan (span : Span) (entries : List Entry) :
    (inSpan span entries).map Entry.untimed = inSpan span (entries.map Entry.untimed) := by
  have within (entry : Entry) : (entry.within span).untimed = entry.untimed.within span := by
    cases entry <;> rfl
  simp only [inSpan, List.map_cons, List.map_map, Function.comp_def, within]
  rfl

theorem calls_untimed (entries : List Entry) :
    calls (entries.map Entry.untimed) = calls entries := by
  simp only [calls, List.filterMap_map]
  congr 1
  funext entry
  cases entry <;> rfl

theorem JobOutcome.label_untimed (outcome : JobOutcome) : outcome.untimed.label = outcome.label := by
  cases outcome <;> rfl

theorem JobOutcome.invocations_untimed (outcome : JobOutcome) :
    outcome.untimed.invocations = outcome.invocations.map Invocation.untimed := by
  cases outcome <;> rfl

namespace Activity

variable {failure result final : Type}

theorem untimed_after (entries : List Entry) (work : Activity failure result) :
    (work.after entries).untimed = work.untimed.after (entries.map Entry.untimed) := by
  simp [untimed, after]

theorem untimed_map (view : result → final) (work : Activity failure result) :
    (work.map view).untimed = work.untimed.map view := rfl

/-- Two pieces of work, one after the other: if neither tells apart what differs in times only, nor do
both together. -/
theorem untimed_andThen {first first' : Activity failure result}
    {next next' : FileTree → result → Activity failure final}
    (same : first'.untimed = first.untimed)
    (onward : ∀ tree value, (next' tree value).untimed = (next tree value).untimed) :
    (first'.andThen next').untimed = (first.andThen next).untimed := by
  obtain ⟨tree, journal, ended⟩ := first
  obtain ⟨tree', journal', ended'⟩ := first'
  simp only [untimed, mk.injEq] at same
  obtain ⟨rfl, told, rfl⟩ := same
  cases ended' with
  | error reason => simp [andThen, untimed, told]
  | ok value =>
      simp only [andThen]
      rw [untimed_after, untimed_after, onward, told]

end Activity

/-! ## Staging -/

namespace Staging

variable (store : Store) (times later : DownloadTimes) (bucket : String) (base : Path)

/-- Only the report of a download that succeeded tells its time. -/
theorem untimed_stageObject (tree : FileTree) (object : ObjectRef) (medium : Medium) :
    (stageObject store later bucket base tree object medium).untimed =
      (stageObject store times bucket base tree object medium).untimed := by
  unfold stageObject
  cases destination? base object.key with
  | none => rfl
  | some destination =>
      dsimp only
      cases store.get bucket object.key with
      | error reason => rfl
      | ok reader => exact Activity.untimed_andThen rfl fun _ _ => rfl

theorem untimed_stageObjects (ignoreManifests : Bool) (objects : List ObjectRef) (tree : FileTree)
    (medium : Medium) :
    (stageObjects store later bucket base ignoreManifests tree objects medium).untimed =
      (stageObjects store times bucket base ignoreManifests tree objects medium).untimed := by
  induction objects generalizing tree with
  | nil => rfl
  | cons object others ih =>
      simp only [stageObjects]
      cases treatment ignoreManifests object.key with
      | skip =>
          dsimp only
          rw [Activity.untimed_after, Activity.untimed_after, Activity.untimed_map,
            Activity.untimed_map, ih]
      | marker =>
          dsimp only
          rw [Activity.untimed_after, Activity.untimed_after, ih]
      | stage =>
          refine Activity.untimed_andThen
            (untimed_stageObject store times later bucket base tree object medium) fun left staged => ?_
          rw [Activity.untimed_map, Activity.untimed_map, ih]

theorem untimed_stagePayload (payloadId : String) (ignoreManifests : Bool) (tree : FileTree)
    (medium : Medium) :
    (stagePayload store later bucket payloadId base ignoreManifests tree medium).untimed =
      (stagePayload store times bucket payloadId base ignoreManifests tree medium).untimed := by
  unfold stagePayload
  cases store.list bucket payloadId with
  | error reason => rfl
  | ok objects =>
      refine Activity.untimed_andThen ?_ fun _ _ => rfl
      rw [Activity.untimed_after, Activity.untimed_after,
        untimed_stageObjects store times later bucket base]

end Staging

/-! ## Workflows -/

namespace Invocation

variable (engine : Engine state) (times later : WorkflowTimes) (workspace : Workspace)

theorem untimed_closing (name : String) (output : Path) (result : Except WorkflowError Unit) :
    (closing later name output result).untimed = (closing times name output result).untimed := by
  cases result <;> rfl

theorem untimed_run (bench : Bench state) (name : String) :
    (run engine later workspace bench name).untimed Invocation.untimed =
      (run engine times workspace bench name).untimed Invocation.untimed := by
  unfold run
  split
  · simp only [BenchWork.untimed, List.map_append, List.map_cons, Entry.log, Entry.untimed,
      untimed_closing times later]
    rfl
  · rfl

theorem untimed_runAll (names : List String) (bench : Bench state) :
    (runAll engine later workspace bench names).untimed (List.map Invocation.untimed) =
      (runAll engine times workspace bench names).untimed (List.map Invocation.untimed) := by
  induction names generalizing bench with
  | nil => rfl
  | cons name others ih =>
      have first := untimed_run engine times later workspace bench name
      simp only [BenchWork.untimed, BenchWork.mk.injEq] at first
      obtain ⟨left, told, result⟩ := first
      have rest := ih (run engine times workspace bench name).bench
      simp only [BenchWork.untimed, BenchWork.mk.injEq] at rest
      simp [BenchWork.untimed, runAll, left, told, result, rest]

end Invocation

/-! ## Jobs -/

namespace Dispatcher

variable (dispatcher : Dispatcher state) (conditions : Conditions) (stopwatch : Stopwatch)

theorem untimed_prepare (request : Request) (tree : FileTree) :
    (dispatcher.prepare { conditions with stopwatch := stopwatch } request tree).untimed =
      (dispatcher.prepare conditions request tree).untimed :=
  Activity.untimed_andThen rfl fun _ _ =>
    Activity.untimed_andThen (Staging.untimed_stagePayload ..) fun _ _ => rfl

theorem untimed_carryOut (bench : Bench state) (request : Request) :
    (dispatcher.carryOut { conditions with stopwatch := stopwatch } bench request).untimed
        JobOutcome.untimed =
      (dispatcher.carryOut conditions bench request).untimed JobOutcome.untimed := by
  have prepared := dispatcher.untimed_prepare conditions stopwatch request bench.tree
  simp only [Activity.untimed, Activity.mk.injEq] at prepared
  obtain ⟨left, told, result⟩ := prepared
  cases preparation : (dispatcher.prepare conditions request bench.tree).outcome with
  | error reason =>
      rw [carryOut_of_unprepared preparation, carryOut_of_unprepared (result.trans preparation)]
      simp [BenchWork.untimed, left, told]
  | ok workspace =>
      rw [carryOut_of_prepared preparation, carryOut_of_prepared (result.trans preparation), left]
      have ran := Invocation.untimed_runAll dispatcher.engine conditions.stopwatch.workflows
        stopwatch.workflows workspace request.workflows
        { bench with tree := (dispatcher.prepare conditions request bench.tree).tree }
      simp only [BenchWork.untimed, BenchWork.mk.injEq] at ran
      simp [BenchWork.untimed, JobOutcome.untimed, told, ran]

theorem untimed_process (bench : Bench state) (delivery : Delivery) :
    (dispatcher.process { conditions with stopwatch := stopwatch } bench delivery).untimed
        (fun ended => (ended.1, ended.2.untimed)) =
      (dispatcher.process conditions bench delivery).untimed
        (fun ended => (ended.1, ended.2.untimed)) := by
  cases validation : Request.ofDelivery dispatcher.wording delivery with
  | error reason => rw [process_of_rejected bench validation, process_of_rejected bench validation]
  | ok request =>
      have carried := dispatcher.untimed_carryOut conditions stopwatch bench request
      simp only [BenchWork.untimed, BenchWork.mk.injEq] at carried
      rw [process_of_request bench validation, process_of_request bench validation]
      simp [BenchWork.untimed, carried]

theorem untimed_closing (report : JobReport) :
    (closing report).untimed = closing report.untimed := by
  simp only [closing, Message.untimed, JobReport.untimed, JobReport.failed, JobReport.succeeded,
    JobOutcome.label_untimed, JobOutcome.invocations_untimed, List.length_map, List.countP_map]
  rfl

/-- Under another stopwatch a job is the same but for the times. -/
theorem untimed_handle (bench : Bench state) (delivery : Delivery) :
    (dispatcher.handle { conditions with stopwatch := stopwatch } bench delivery).untimed
        JobReport.untimed =
      (dispatcher.handle conditions bench delivery).untimed JobReport.untimed := by
  have processed := dispatcher.untimed_process conditions stopwatch bench delivery
  simp only [BenchWork.untimed, BenchWork.mk.injEq, Prod.mk.injEq] at processed
  obtain ⟨left, told, id, outcome⟩ := processed
  have report : (dispatcher.handle { conditions with stopwatch := stopwatch } bench
      delivery).result.untimed = (dispatcher.handle conditions bench delivery).result.untimed := by
    simp only [handle, JobReport.untimed, outcome, id]
  have last := congrArg closing report
  rw [← untimed_closing, ← untimed_closing] at last
  simp only [BenchWork.untimed, BenchWork.mk.injEq]
  refine ⟨left, ?_, report⟩
  dsimp only [handle] at last ⊢
  simp only [List.map_cons, untimed_inSpan, List.map_append, told, List.map_nil, Entry.log,
    Entry.untimed, last]

end Dispatcher
end Stagehand
