import Stagehand.Proofs.Job.Calls
import Stagehand.Proofs.Staging.Content

/-! # The engine calls of a job

Between two engine calls of a job nothing else touches the file tree: the first call finds what the
preparation left, every later one finds what the call before it left, and the job ends with what the
last one left.
-/

set_option autoImplicit false

namespace Stagehand

open FileTree Stagehand.Path

variable {state : Type}

def Call.isExecution (call : Call) : Bool :=
  call.launched?.isSome

/-- The engine calls of a journal, in order. -/
def executions (entries : List Entry) : List Call :=
  (ownCalls entries).filter Call.isExecution

/-- Engine calls one after the other: each finds the engine's state and the tree as the one before it
left them. -/
inductive EngineRun (engine : Engine state) :
    state → FileTree → List Call → state → FileTree → Prop
  | done (start : state) (tree : FileTree) : EngineRun engine start tree [] start tree
  | call {start last : state} {tree final : FileTree} {name : String} {input output : Path}
      {later : List Call}
      (rest : EngineRun engine (engine.execute start tree name input output).next
        (engine.execute start tree name input output).tree later last final) :
      EngineRun engine start tree (.execute name input output tree :: later) last final

theorem executions_append (first second : List Entry) :
    executions (first ++ second) = executions first ++ executions second := by
  simp [executions]

theorem Call.isExecution_of_isTransfer {call : Call} (transfer : call.isTransfer = true) :
    call.isExecution = false := by
  cases call <;> first | rfl | cases transfer

theorem filter_isExecution_of_transfers {transfers : List Call}
    (only : ∀ call ∈ transfers, call.isTransfer = true) :
    transfers.filter Call.isExecution = [] := by
  rw [List.filter_eq_nil_iff]
  intro call member
  rw [Call.isExecution_of_isTransfer (only call member)]
  exact Bool.false_ne_true

theorem Call.exists_eq_execute {call : Call} {name : String} {input output : Path}
    (launched : call.launched? = some (name, input, output)) :
    ∃ seen, call = .execute name input output seen := by
  cases call <;> simp only [launched?, reduceCtorEq, Option.some.injEq, Prod.mk.injEq] at launched
  obtain ⟨rfl, rfl, rfl⟩ := launched
  exact ⟨_, rfl⟩

theorem exists_execution {entries : List Entry} {name : String} {input output : Path}
    {more : List (Option (String × Path × Path))}
    (made : (executions entries).map Call.launched? = some (name, input, output) :: more) :
    ∃ seen later, executions entries = .execute name input output seen :: later := by
  obtain ⟨first, later, split, launched, -⟩ := List.map_eq_cons_iff.mp made
  obtain ⟨seen, rfl⟩ := Call.exists_eq_execute launched
  exact ⟨seen, later, split⟩

namespace Invocation

theorem executions_run (engine : Engine state) (times : WorkflowTimes) (workspace : Workspace)
    (bench : Bench state) (name : String) :
    executions (run engine times workspace bench name).journal =
      if hasOutputDirectory name then
        [.execute name workspace.inputDirectory (workspace.outputDirectory name) bench.tree]
      else [] := by
  rw [executions, ownCalls_run]
  split <;> rfl

theorem engineRun_runAll (engine : Engine state) (times : WorkflowTimes) (workspace : Workspace)
    (names : List String) (bench : Bench state) :
    let work := runAll engine times workspace bench names
    EngineRun engine bench.engine bench.tree (executions work.journal) work.bench.engine
      work.bench.tree := by
  induction names generalizing bench with
  | nil => exact .done _ _
  | cons name others ih =>
      have rest := ih (run engine times workspace bench name).bench
      simp only [runAll, executions_append, executions_run]
      by_cases usable : hasOutputDirectory name = true
      · have moved : (run engine times workspace bench name).bench =
            (launch engine bench name workspace.inputDirectory
              (workspace.outputDirectory name)).bench := by
          unfold run
          rw [if_pos usable]
        rw [if_pos usable]
        rw [moved] at rest ⊢
        exact .call rest
      · have still : (run engine times workspace bench name).bench = bench := by
          unfold run
          rw [if_neg usable]
        rw [if_neg usable]
        rw [still] at rest ⊢
        exact rest

/-- Running workflows costs nothing but engine calls. -/
theorem executions_runAll (engine : Engine state) (times : WorkflowTimes) (workspace : Workspace)
    (names : List String) (bench : Bench state) :
    executions (runAll engine times workspace bench names).journal =
      ownCalls (runAll engine times workspace bench names).journal := by
  refine List.filter_eq_self.mpr fun call member => ?_
  have image := List.mem_map_of_mem (f := Call.launched?) member
  rw [launched_runAll] at image
  obtain ⟨name, -, same⟩ := List.mem_map.mp image
  rw [Call.isExecution, ← same]
  rfl

/-- An engine call is made for a workflow of the list that can have an output directory. -/
theorem mem_executions_runAll {engine : Engine state} {times : WorkflowTimes}
    {workspace : Workspace} {names : List String} {bench : Bench state} {name : String}
    {input output : Path} {seen : FileTree}
    (member : .execute name input output seen ∈
      executions (runAll engine times workspace bench names).journal) :
    name ∈ names ∧ hasOutputDirectory name = true ∧ input = workspace.inputDirectory ∧
      output = workspace.outputDirectory name := by
  have own := List.mem_map_of_mem (f := Call.launched?) (List.mem_filter.mp member).1
  rw [launched_runAll] at own
  obtain ⟨other, kept, same⟩ := List.mem_map.mp own
  obtain ⟨listed, usable⟩ := List.mem_filter.mp kept
  simp only [Call.launched?, Option.some.injEq, Prod.mk.injEq] at same
  obtain ⟨rfl, rfl, rfl⟩ := same
  exact ⟨listed, usable, rfl, rfl⟩

end Invocation

namespace Dispatcher

variable {dispatcher : Dispatcher state} {conditions : Conditions} {bench : Bench state}
  {delivery : Delivery} {request : Request}

theorem executions_prepare (request : Request) (tree : FileTree) :
    executions (dispatcher.prepare conditions request tree).journal = [] := by
  have silent : executions (dispatcher.readyWorkspace request tree).journal = [] := by
    have none : ownCalls (dispatcher.readyWorkspace request tree).journal = [] :=
      ownCalls_of_calls_nil (calls_ensure _ _ _ _)
    rw [executions, none]
    rfl
  cases readying : (dispatcher.readyWorkspace request tree).outcome with
  | error failure =>
      rw [prepare_of_unready readying]
      exact silent
  | ok workspace =>
      rw [prepare_of_ready readying]
      obtain ⟨⟨transfers, made, only⟩, -⟩ := Staging.calls_stagePayload dispatcher.store
        conditions.stopwatch.downloads dispatcher.settings.bucket request.payloadId
        workspace.inputDirectory dispatcher.settings.ignoreManifests
        (dispatcher.readyWorkspace request tree).tree conditions.medium
      have staging : executions (dispatcher.stagedPayload conditions request workspace
          (dispatcher.readyWorkspace request tree).tree).journal = [] := by
        unfold executions ownCalls stagedPayload
        rw [made, List.filter_cons_of_pos rfl, filter_isOwn_of_transfers only,
          List.filter_cons_of_neg (by simp [Call.isExecution, Call.launched?]),
          filter_isExecution_of_transfers only]
      rw [Activity.journal_after, executions_append, silent, List.nil_append]
      cases ended : (dispatcher.stagedPayload conditions request workspace
          (dispatcher.readyWorkspace request tree).tree).outcome with
      | error reason =>
          rw [Activity.andThen_of_error _ ended]
          exact staging
      | ok summary =>
          rw [Activity.andThen_of_ok _ ended, Activity.journal_after, executions_append, staging]
          dsimp only [fileCountEntries]
          split
          · rfl
          · split <;> rfl

theorem bench_handle :
    (dispatcher.handle conditions bench delivery).bench =
      (dispatcher.process conditions bench delivery).bench := rfl

theorem executions_handle :
    executions (dispatcher.handle conditions bench delivery).journal =
      executions (dispatcher.process conditions bench delivery).journal := by
  rw [executions, ownCalls_handle, List.filter_append]
  exact List.append_nil _

theorem executions_handle_of_unprepared {reason : StagingError}
    (valid : Request.ofDelivery dispatcher.wording delivery = .ok request)
    (preparation : (dispatcher.prepare conditions request bench.tree).outcome = .error reason) :
    executions (dispatcher.handle conditions bench delivery).journal = [] := by
  rw [executions_handle, process_of_request bench valid]
  dsimp only
  rw [carryOut_of_unprepared preparation]
  dsimp only
  rw [executions_append, executions_prepare]
  rfl

theorem executions_handle_of_prepared {workspace : Workspace}
    (valid : Request.ofDelivery dispatcher.wording delivery = .ok request)
    (preparation : (dispatcher.prepare conditions request bench.tree).outcome = .ok workspace) :
    executions (dispatcher.handle conditions bench delivery).journal =
      executions (Invocation.runAll dispatcher.engine conditions.stopwatch.workflows workspace
        { bench with tree := (dispatcher.prepare conditions request bench.tree).tree }
        request.workflows).journal := by
  rw [executions_handle, process_of_request bench valid]
  dsimp only
  rw [carryOut_of_prepared preparation]
  dsimp only
  rw [executions_append, executions_prepare, List.nil_append]

/-- A job for a request runs the engine on what the preparation left. -/
theorem engineRun_handle
    (valid : Request.ofDelivery dispatcher.wording delivery = .ok request) :
    let work := dispatcher.handle conditions bench delivery
    EngineRun dispatcher.engine bench.engine (dispatcher.prepare conditions request bench.tree).tree
      (executions work.journal) work.bench.engine work.bench.tree := by
  dsimp only
  rw [bench_handle, process_of_request bench valid]
  dsimp only
  cases preparation : (dispatcher.prepare conditions request bench.tree).outcome with
  | error reason =>
      rw [executions_handle_of_unprepared valid preparation,
        carryOut_of_unprepared preparation]
      exact .done _ _
  | ok workspace =>
      rw [executions_handle_of_prepared valid preparation,
        carryOut_of_prepared preparation]
      exact Invocation.engineRun_runAll dispatcher.engine conditions.stopwatch.workflows workspace
        request.workflows
        { bench with tree := (dispatcher.prepare conditions request bench.tree).tree }

/-- Each engine call of a job is given the input directory and an output directory of the workspace
that was made ready for it. -/
theorem mem_executions_handle {name : String} {input output : Path} {seen : FileTree}
    (valid : Request.ofDelivery dispatcher.wording delivery = .ok request)
    (member : .execute name input output seen ∈
      executions (dispatcher.handle conditions bench delivery).journal) :
    ∃ workspace, (dispatcher.prepare conditions request bench.tree).outcome = .ok workspace ∧
      name ∈ request.workflows ∧ hasOutputDirectory name = true ∧
      input = workspace.inputDirectory ∧ output = workspace.outputDirectory name := by
  cases preparation : (dispatcher.prepare conditions request bench.tree).outcome with
  | error reason =>
      rw [executions_handle_of_unprepared valid preparation] at member
      cases member
  | ok workspace =>
      rw [executions_handle_of_prepared valid preparation] at member
      exact ⟨workspace, rfl, Invocation.mem_executions_runAll member⟩

end Dispatcher
end Stagehand
