import Mathlib.Tactic.Tauto
import Stagehand.Job.Run
import Stagehand.Proofs.Job.Calls

/-! # What reaches the stop signal

A stop request sets the signal and is told whether a job is in flight; nothing clears the signal again.
So what a wait or a job does to the signal can be read off its journal.
-/

set_option autoImplicit false

namespace Stagehand

def Call.isStop : Call → Bool
  | .stopDuringJob _ | .stopWhileWaiting _ => true
  | _ => false

/-- The stop requests of a journal, in order. -/
def stopCalls (entries : List Entry) : List Call :=
  (calls entries).filter Call.isStop

@[simp] theorem stopCalls_append (first second : List Entry) :
    stopCalls (first ++ second) = stopCalls first ++ stopCalls second := by
  simp [stopCalls]

theorem stopCalls_append_ne_nil {first second : List Entry} :
    stopCalls (first ++ second) ≠ [] ↔ stopCalls first ≠ [] ∨ stopCalls second ≠ [] := by
  rw [stopCalls_append, ne_eq, List.append_eq_nil_iff]
  tauto

theorem stopCalls_inSpan (span : Span) (entries : List Entry) :
    stopCalls (inSpan span entries) = stopCalls entries := by
  simp [stopCalls]

theorem Call.isStop_of_isTransfer {call : Call} (transfer : call.isTransfer = true) :
    call.isStop = false := by
  cases call <;> first | rfl | cases transfer

theorem filter_isStop_of_transfers {transfers : List Call}
    (only : ∀ call ∈ transfers, call.isTransfer = true) : transfers.filter Call.isStop = [] := by
  refine List.filter_eq_nil_iff.mpr ?_
  intro call member
  rw [Call.isStop_of_isTransfer (only call member)]
  exact Bool.false_ne_true

/-! ## What reaches the signal -/

/-- Some work remembers the requests made on its way, each of which is told what the signal said
before the work, and changes nothing else of the signal. -/
structure Hears (answer : StopMode → Call) (before : StopSignal) (entries : List Entry)
    (after : StopSignal) : Prop where
  busy : after.busy = before.busy
  requested : after.requested = true ↔ before.requested = true ∨ stopCalls entries ≠ []
  told : ∀ call ∈ stopCalls entries, call = answer before.mode

namespace Hears

variable {answer : StopMode → Call} {before middle after : StopSignal} {entries later : List Entry}

theorem silent (none : stopCalls entries = []) : Hears answer before entries before :=
  ⟨rfl, by simp [none], by simp [none]⟩

theorem trans (first : Hears answer before entries middle)
    (second : Hears answer middle later after) : Hears answer before (entries ++ later) after where
  busy := second.busy.trans first.busy
  requested := by
    rw [second.requested, first.requested, stopCalls_append_ne_nil, or_assoc]
  told := by
    intro call member
    have mode : middle.mode = before.mode := by
      unfold StopSignal.mode
      rw [first.busy]
    rw [stopCalls_append] at member
    rcases List.mem_append.mp member with member | member
    · exact first.told call member
    · rw [← mode]
      exact second.told call member

theorem congr (heard : Hears answer before entries after)
    (same : stopCalls later = stopCalls entries) : Hears answer before later after :=
  ⟨heard.busy, same ▸ heard.requested, same ▸ heard.told⟩

end Hears

namespace Wait

theorem hears_follow (signal : StopSignal) (arrival : Arrival) (steps : List WaitStep) :
    Hears .stopWhileWaiting signal (follow signal arrival steps).journal
      (follow signal arrival steps).signal := by
  induction steps generalizing signal with
  | nil => exact .silent rfl
  | cons step rest ih =>
      cases step with
      | stopRequest =>
          have asked : Hears .stopWhileWaiting signal [.call (.stopWhileWaiting signal.mode)]
              signal.request :=
            ⟨rfl, by simp [StopSignal.request, stopCalls, Call.isStop],
              by simp [stopCalls, Call.isStop]⟩
          exact asked.trans (ih signal.request)
      | suspension =>
          simp only [follow]
          split
          · exact .silent rfl
          · exact ih signal

/-- A wait that is suspended while a stop is asked for hands over nothing. -/
theorem arrival_of_asked {signal : StopSignal} (asked : signal.requested = true)
    (arrival : Arrival) {steps : List WaitStep} (suspended : .suspension ∈ steps) :
    (follow signal arrival steps).arrival = none := by
  induction steps generalizing signal with
  | nil => cases suspended
  | cons step rest ih =>
      cases step with
      | stopRequest => exact ih rfl (by simpa using suspended)
      | suspension => simp only [follow, asked, if_true]

/-- It does not matter when in the wait the request came, as long as a suspension followed. -/
theorem arrival_of_suspended (signal : StopSignal) (arrival : Arrival)
    (quiet : List WaitStep) {more : List WaitStep} (suspended : .suspension ∈ more) :
    (follow signal arrival (quiet ++ .stopRequest :: more)).arrival = none := by
  induction quiet generalizing signal with
  | nil =>
      have asked : signal.request.requested = true := rfl
      exact arrival_of_asked asked arrival suspended
  | cons step rest ih =>
      cases step with
      | stopRequest => exact ih signal.request
      | suspension =>
          simp only [List.cons_append, follow]
          split
          · rfl
          · exact ih signal

/-- A stop that was asked for ends a wait that nothing else ends. -/
theorem arrival_ne_never {signal : StopSignal} {arrival : Arrival} {steps : List WaitStep}
    (asked : (follow signal arrival steps).signal.requested = true) :
    (follow signal arrival steps).arrival ≠ some .never := by
  induction steps generalizing signal with
  | nil =>
      simp only [follow] at asked ⊢
      by_cases never : arrival = .never ∧ signal.requested = true
      · simp [never]
      · rw [if_neg never]
        intro same
        exact never ⟨Option.some.inj same, asked⟩
  | cons step rest ih =>
      cases step with
      | stopRequest => exact ih asked
      | suspension =>
          simp only [follow] at asked ⊢
          by_cases before : signal.requested = true
          · simp [before]
          · rw [if_neg before] at asked ⊢
            exact ih asked

/-- Only a stop request keeps a wait from what it would hand over. -/
theorem arrival_of_unasked {signal : StopSignal} {arrival : Arrival} {steps : List WaitStep}
    (unasked : (follow signal arrival steps).signal.requested = false) :
    (follow signal arrival steps).arrival = some arrival := by
  induction steps generalizing signal with
  | nil =>
      simp only [follow] at unasked ⊢
      simp [unasked]
  | cons step rest ih =>
      cases step with
      | stopRequest => exact ih unasked
      | suspension =>
          simp only [follow] at unasked ⊢
          by_cases before : signal.requested = true
          · rw [if_pos before, before] at unasked
            cases unasked
          · rw [if_neg before] at unasked ⊢
            exact ih unasked

end Wait

namespace StopSignal

theorem requestTimes_eq (times : Nat) (signal : StopSignal) :
    requestTimes times signal = ⟨signal.requested || decide (0 < times), signal.busy⟩ := by
  induction times generalizing signal with
  | zero => simp [requestTimes]
  | succ times ih => simp [requestTimes, ih, request]

end StopSignal

namespace Invocation

variable {state : Type} (engine : Engine state) (times : WorkflowTimes) (workspace : Workspace)

theorem hears_launch (bench : Bench state) (name : String) (input output : Path) :
    Hears .stopDuringJob bench.signal (launch engine bench name input output).journal
      (launch engine bench name input output).bench.signal := by
  have asked (count : Nat) (mode : StopMode) :
      stopCalls (List.replicate count (.call (.stopDuringJob mode))) =
        List.replicate count (.stopDuringJob mode) := by
    induction count with
    | zero => rfl
    | succ count ih => exact congrArg (Call.stopDuringJob mode :: ·) ih
  have heard : stopCalls (launch engine bench name input output).journal =
      List.replicate (engine.execute bench.engine bench.tree name input output).stopRequests
        (.stopDuringJob bench.signal.mode) := by
    rw [← asked]
    simp only [launch, stopCalls, calls_cons_log, calls_inSpan, calls_cons_call]
    rfl
  refine ⟨?_, ?_, ?_⟩
  · simp only [launch, StopSignal.requestTimes_eq]
  · rw [heard]
    simp only [launch, StopSignal.requestTimes_eq, Bool.or_eq_true, decide_eq_true_eq, ne_eq,
      List.replicate_eq_nil_iff, Nat.pos_iff_ne_zero]
  · intro call member
    rw [heard] at member
    exact List.eq_of_mem_replicate member

theorem hears_run (bench : Bench state) (name : String) :
    Hears .stopDuringJob bench.signal (run engine times workspace bench name).journal
      (run engine times workspace bench name).bench.signal := by
  unfold run
  split
  · exact (hears_launch engine bench name _ _).trans (.silent rfl)
  · exact .silent rfl

theorem hears_runAll (names : List String) (bench : Bench state) :
    Hears .stopDuringJob bench.signal (runAll engine times workspace bench names).journal
      (runAll engine times workspace bench names).bench.signal := by
  induction names generalizing bench with
  | nil => exact .silent rfl
  | cons name others ih => exact (hears_run engine times workspace bench name).trans (ih _)

end Invocation

namespace Dispatcher

variable {state : Type}

theorem stopCalls_prepare (dispatcher : Dispatcher state) (conditions : Conditions)
    (request : Request) (tree : FileTree) :
    stopCalls (dispatcher.prepare conditions request tree).journal = [] := by
  have quiet : stopCalls (dispatcher.readyWorkspace request tree).journal = [] := by
    rw [stopCalls, readyWorkspace, calls_ensure]
    rfl
  cases readying : (dispatcher.readyWorkspace request tree).outcome with
  | error failure =>
      rw [prepare_of_unready readying]
      exact quiet
  | ok workspace =>
      obtain ⟨⟨transfers, made, only⟩, -⟩ := Staging.calls_stagePayload dispatcher.store
        conditions.stopwatch.downloads dispatcher.settings.bucket request.payloadId
        workspace.inputDirectory dispatcher.settings.ignoreManifests
        (dispatcher.readyWorkspace request tree).tree conditions.medium
      have silent : stopCalls (dispatcher.stagedPayload conditions request workspace
          (dispatcher.readyWorkspace request tree).tree).journal = [] := by
        unfold stopCalls stagedPayload
        rw [made, List.filter_cons_of_neg (by simp [Call.isStop])]
        exact filter_isStop_of_transfers only
      have counted (summary : StagingSummary) :
          stopCalls (fileCountEntries request summary) = [] := by
        unfold fileCountEntries
        split
        · rfl
        · split <;> rfl
      rw [prepare_of_ready readying]
      cases staging : (dispatcher.stagedPayload conditions request workspace
          (dispatcher.readyWorkspace request tree).tree).outcome with
      | error reason =>
          rw [Activity.andThen_of_error _ staging]
          simp [quiet, silent]
      | ok summary =>
          rw [Activity.andThen_of_ok _ staging]
          simp [quiet, silent, counted]

theorem hears_process (dispatcher : Dispatcher state) (conditions : Conditions)
    (bench : Bench state) (delivery : Delivery) :
    Hears .stopDuringJob bench.signal (dispatcher.process conditions bench delivery).journal
      (dispatcher.process conditions bench delivery).bench.signal := by
  cases validation : Request.ofDelivery dispatcher.wording delivery with
  | error reason =>
      rw [process_of_rejected bench validation]
      exact .silent rfl
  | ok request =>
      rw [process_of_request bench validation]
      have quiet := stopCalls_prepare dispatcher conditions request bench.tree
      cases preparation : (dispatcher.prepare conditions request bench.tree).outcome with
      | error reason =>
          rw [carryOut_of_unprepared preparation]
          exact (Hears.silent quiet).trans (.silent rfl)
      | ok workspace =>
          rw [carryOut_of_prepared preparation]
          have heard := Invocation.hears_runAll dispatcher.engine conditions.stopwatch.workflows
            workspace request.workflows
            { bench with tree := (dispatcher.prepare conditions request bench.tree).tree }
          exact (Hears.silent quiet).trans heard

theorem hears_handle (dispatcher : Dispatcher state) (conditions : Conditions)
    (bench : Bench state) (delivery : Delivery) :
    Hears .stopDuringJob bench.signal (dispatcher.handle conditions bench delivery).journal
      (dispatcher.handle conditions bench delivery).bench.signal := by
  refine (hears_process dispatcher conditions bench delivery).congr ?_
  have quiet : stopCalls (acknowledgeOnce conditions.acknowledgment delivery.tag).2 = [] := by
    unfold acknowledgeOnce
    split <;> rfl
  have wrapped (message : Message) (entries : List Entry) :
      stopCalls (.log message :: entries) = stopCalls entries := rfl
  simp only [handle, wrapped, stopCalls_inSpan, stopCalls_append, quiet, List.append_nil]
  exact List.append_nil _

end Dispatcher
end Stagehand
