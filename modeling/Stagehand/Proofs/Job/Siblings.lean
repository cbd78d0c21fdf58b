import Stagehand.Proofs.Job.Execution
import Stagehand.Proofs.Job.Preparation
import Stagehand.Proofs.Workspace.Name
import Stagehand.Proofs.Workspace.Ready
import Stagehand.Rehearsal.Dispatcher
import Stagehand.Rehearsal.Engine

/-! # Workflows that cannot run beside others that can

A workflow whose name makes no output directory fails by itself, and the engine is called for all the
others.  A name whose directory name is longer than the file system takes is not among those: its
directory is made together with the others, before any of them runs, and the job ends there.
-/

set_option autoImplicit false

namespace Stagehand

open FileTree Stagehand.Path Workspace

variable {state : Type}

namespace Invocation

theorem launched_executions_runAll (engine : Engine state) (times : WorkflowTimes)
    (workspace : Workspace) (names : List String) (bench : Bench state) :
    (executions (runAll engine times workspace bench names).journal).map Call.launched? =
      (names.filter hasOutputDirectory).map fun name =>
        some (name, workspace.inputDirectory, workspace.outputDirectory name) := by
  rw [executions_runAll, launched_runAll]

/-- A name that makes no output directory fails where it stands in the list. -/
theorem outcome_of_unusable {engine : Engine state} {times : WorkflowTimes}
    {workspace : Workspace} {names : List String} {bench : Bench state} {invocation : Invocation}
    (member : invocation ∈ (runAll engine times workspace bench names).result)
    (unusable : hasOutputDirectory invocation.name = false) :
    invocation.outcome = .failed (WorkflowError.unusableName invocation.name).message := by
  induction names generalizing bench with
  | nil => cases member
  | cons name others ih =>
      rcases List.mem_cons.mp member with rfl | later
      · have named : (run engine times workspace bench name).result.name = name := by
          unfold run
          split <;> rfl
        rw [named] at unusable ⊢
        unfold run
        rw [if_neg (Bool.eq_false_iff.mp unusable)]
        rfl
      · exact ih later

end Invocation

namespace Dispatcher

variable {dispatcher : Dispatcher state} {conditions : Conditions} {request : Request}
  {tree : FileTree}

/-- An empty payload is staged as soon as the workspace is there. -/
theorem prepare_of_empty {workspace : Workspace}
    (ready : (dispatcher.readyWorkspace request tree).outcome = .ok workspace)
    (empty : dispatcher.store.list dispatcher.settings.bucket request.payloadId = .ok []) :
    (dispatcher.prepare conditions request tree).outcome = .ok workspace := by
  rw [prepare_of_ready ready]
  unfold stagedPayload Staging.stagePayload
  rw [empty]
  rfl

/-- Nothing of the job is there yet: its directory would be new in a working directory with a short
path, and the store has no object for it. -/
structure StartsAfresh (dispatcher : Dispatcher state) (request : Request) (tree : FileTree)
    (location : Location) : Prop where
  found : tree.find dispatcher.settings.workingDirectory = .ok (location, .directory)
  roomy : Roomy dispatcher.settings.workingDirectory
  short : request.correlationId.utf8ByteSize ≤ nameLimit
  fresh (rest : List String) : tree.at? (location ++ request.correlationId :: rest) = none
  empty : dispatcher.store.list dispatcher.settings.bucket request.payloadId = .ok []

theorem StartsAfresh.clear {location : Location}
    (start : StartsAfresh dispatcher request tree location) :
    ClearBelow tree location request.correlationId := by
  intro rest node stands
  rw [start.fresh rest] at stands
  cases stands

/-- A directory name is too long only if there is something to it. -/
theorem not_namesNothing_of_long {name : String}
    (long : nameLimit < (directoryToken name).utf8ByteSize) : ¬ NamesNothing name := by
  rintro (rfl | rfl | rfl) <;> revert long <;> decide +kernel

variable {bench : Bench state} {delivery : Delivery} {location : Location}

theorem outcome_handle_of_request
    (valid : Request.ofDelivery dispatcher.wording delivery = .ok request) :
    (dispatcher.handle conditions bench delivery).result.outcome =
      (dispatcher.carryOut conditions bench request).result := by
  simp only [handle, process_of_request bench valid]

/-- The first directory name that is too long takes the whole job down. -/
theorem handle_of_long_name (conditions : Conditions)
    (valid : Request.ofDelivery dispatcher.wording delivery = .ok request)
    (start : StartsAfresh dispatcher request bench.tree location) {front later : List String}
    {name : String} (split : request.workflows = front ++ name :: later)
    (fine : ∀ other ∈ front, ¬ NamesNothing other →
      (directoryToken other).utf8ByteSize ≤ nameLimit)
    (long : nameLimit < (directoryToken name).utf8ByteSize) :
    let work := dispatcher.handle conditions bench delivery
    let workspace := layout dispatcher.settings.workingDirectory request.correlationId
    work.result.outcome =
        .stagingFailed (.workspace ⟨workspace.outputDirectory name, .nameTooLong⟩) ∧
      executions work.journal = [] := by
  have usable := (hasOutputDirectory_iff name).mpr (not_namesNothing_of_long long)
  have unready : (dispatcher.readyWorkspace request bench.tree).outcome =
      .error ⟨(layout dispatcher.settings.workingDirectory
        request.correlationId).outputDirectory name, .nameTooLong⟩ := by
    unfold readyWorkspace
    rw [split]
    refine ensure_tooLong start.roomy (Request.isDirectoryName_of_valid valid) start.short
      start.found start.clear ?_ usable long
    exact fun other member fits => fine other member ((hasOutputDirectory_iff other).mp fits)
  have unprepared :=
    congrArg Activity.outcome (prepare_of_unready unready : dispatcher.prepare conditions _ _ = _)
  dsimp only
  rw [outcome_handle_of_request valid, carryOut_of_unprepared unprepared]
  exact ⟨rfl, executions_handle_of_unprepared valid unprepared⟩

/-- With nothing of the job there yet, every workflow is invoked once and the engine is called for
all but the names that make no output directory, which fail by themselves.  This holds as long as no
directory name is too long; the first one that is takes the whole job down. -/
theorem handle_spares_siblings (conditions : Conditions)
    (valid : Request.ofDelivery dispatcher.wording delivery = .ok request)
    (start : StartsAfresh dispatcher request bench.tree location) :
    let work := dispatcher.handle conditions bench delivery
    let workspace := layout dispatcher.settings.workingDirectory request.correlationId
    ((∀ name ∈ request.workflows, ¬ NamesNothing name →
        (directoryToken name).utf8ByteSize ≤ nameLimit) →
      ∃ invocations, work.result.outcome = .executed invocations ∧
        invocations.map Invocation.name = request.workflows ∧
        (∀ invocation ∈ invocations, NamesNothing invocation.name →
          invocation.outcome = .failed (WorkflowError.unusableName invocation.name).message) ∧
        (executions work.journal).map Call.launched? =
          (request.workflows.filter fun name => ¬ NamesNothing name).map fun name =>
            some (name, workspace.inputDirectory, workspace.outputDirectory name)) ∧
    ∀ front name later, request.workflows = front ++ name :: later →
      (∀ other ∈ front, ¬ NamesNothing other →
        (directoryToken other).utf8ByteSize ≤ nameLimit) →
      nameLimit < (directoryToken name).utf8ByteSize →
      work.result.outcome =
          .stagingFailed (.workspace ⟨workspace.outputDirectory name, .nameTooLong⟩) ∧
        executions work.journal = [] := by
  refine ⟨fun fine => ?_, fun front name later split fine long =>
    handle_of_long_name conditions valid start split fine long⟩
  have named := Request.isDirectoryName_of_valid valid
  have ready : (dispatcher.readyWorkspace request bench.tree).outcome =
      .ok (layout dispatcher.settings.workingDirectory request.correlationId) :=
    ensure_clear start.roomy named start.short start.found start.clear fun name member usable =>
      fine name member ((hasOutputDirectory_iff name).mp usable)
  have prepared := @prepare_of_empty state dispatcher conditions request bench.tree _ ready start.empty
  rw [outcome_handle_of_request valid, carryOut_of_prepared prepared,
    executions_handle_of_prepared valid prepared,
    Invocation.launched_executions_runAll]
  have usable : request.workflows.filter hasOutputDirectory =
      request.workflows.filter fun name => ¬ NamesNothing name := by
    refine List.filter_congr fun name _ => ?_
    rw [Bool.eq_iff_iff, hasOutputDirectory_iff, decide_eq_true_eq]
  rw [usable]
  refine ⟨_, rfl, Invocation.names_runAll _ _ _ _ _, fun invocation member nothing => ?_, rfl⟩
  refine Invocation.outcome_of_unusable member (Bool.eq_false_iff.mpr fun usable => ?_)
  exact (hasOutputDirectory_iff _).mp usable nothing

/-- A dispatcher with an empty store, and an engine that panics at the workflow `x`. -/
def panickingDispatcher : Dispatcher (List String) :=
  Rehearsal.dispatcher ⟨"data", [], none⟩
    (Rehearsal.EngineScript.engine [("x", [{ ending := .panic .other }])])

def emptyBench : Bench (List String) := ⟨Rehearsal.stage, [], {}⟩

theorem startsAfresh_stage (workflows : List String) :
    panickingDispatcher.StartsAfresh ⟨"a", "p", workflows, none⟩ emptyBench.tree ["w"] where
  found := by decide +kernel
  roomy := by
    unfold Roomy
    decide +kernel
  short := by
    dsimp only
    decide +kernel
  fresh := by
    intro rest
    simp [emptyBench, Rehearsal.stage, at?]
  empty := rfl

theorem handle_spares_siblings_of_dots :
    let delivery := Rehearsal.deliveryOf
      "\x7b\"payload_id\":\"p\",\"workflows\":[\"x\",\"..\",\"y\"]\x7d"
    let work := panickingDispatcher.handle {} emptyBench delivery
    Request.ofDelivery panickingDispatcher.wording delivery =
        .ok ⟨"a", "p", ["x", "..", "y"], none⟩ ∧
      panickingDispatcher.StartsAfresh ⟨"a", "p", ["x", "..", "y"], none⟩ emptyBench.tree ["w"] ∧
      ∃ invocations, work.result.outcome = .executed invocations ∧
        invocations.map Invocation.name = ["x", "..", "y"] ∧
        (executions work.journal).map Call.launched? =
          [some ("x", ⟨"/w/a/input"⟩, ⟨"/w/a/output/x"⟩),
            some ("y", ⟨"/w/a/input"⟩, ⟨"/w/a/output/y"⟩)] := by
  intro delivery work
  have valid : Request.ofDelivery panickingDispatcher.wording delivery =
      .ok ⟨"a", "p", ["x", "..", "y"], none⟩ := by
    decide +kernel
  have start := startsAfresh_stage ["x", "..", "y"]
  have spared := handle_spares_siblings {} valid start
  have fine : ∀ name ∈ ["x", "..", "y"], ¬ NamesNothing name →
      (directoryToken name).utf8ByteSize ≤ nameLimit := by decide +kernel
  obtain ⟨invocations, outcome, names, -, launched⟩ := spared.1 fine
  refine ⟨valid, start, invocations, outcome, names, launched.trans ?_⟩
  decide +kernel

def longName : String :=
  String.ofList (List.replicate 256 'a')

theorem directoryToken_replicate (count : Nat) :
    directoryToken (String.ofList (List.replicate count 'a')) =
      String.ofList (List.replicate count 'a') := by
  have kept : isTokenChar 'a' = true := by decide +kernel
  rw [directoryToken, String.toList_ofList, List.map_replicate, if_pos kept]

theorem nameLimit_lt_longName : nameLimit < (directoryToken longName).utf8ByteSize := by
  have whole : nameLimit < longName.utf8ByteSize := by decide +kernel
  exact Nat.lt_of_lt_of_eq whole
    (congrArg String.utf8ByteSize (directoryToken_replicate 256)).symm

/-- The workflow `x` can be run, and is not, because the name beside it is too long. -/
theorem handle_long_name_stops_siblings :
    let delivery := Rehearsal.deliveryOf ("\x7b\"payload_id\":\"p\",\"workflows\":[\"x\",\"" ++
      longName ++ "\"]\x7d")
    let work := panickingDispatcher.handle {} emptyBench delivery
    ∃ request, Request.ofDelivery panickingDispatcher.wording delivery = .ok request ∧
      panickingDispatcher.StartsAfresh request emptyBench.tree ["w"] ∧
      request.workflows = ["x", longName] ∧
      (∀ invocations, work.result.outcome ≠ .executed invocations) ∧
      executions work.journal = [] := by
  intro delivery work
  have valid : Request.ofDelivery panickingDispatcher.wording delivery =
      .ok ⟨"a", "p", ["x", longName], none⟩ := by
    decide +kernel
  have start := startsAfresh_stage ["x", longName]
  have fine : ∀ other ∈ ["x"], ¬ NamesNothing other →
      (directoryToken other).utf8ByteSize ≤ nameLimit := by decide +kernel
  have split : ["x", longName] = ["x"] ++ longName :: [] := rfl
  obtain ⟨outcome, none⟩ :=
    handle_of_long_name {} valid start split fine nameLimit_lt_longName
  refine ⟨_, valid, start, rfl, fun invocations executed => ?_, none⟩
  cases outcome.symm.trans executed

end Dispatcher
end Stagehand
