import Stagehand.Proofs.Journal.Kind
import Stagehand.Workflow.Invocation

/-! # What is logged of workflows

An invocation is logged with its end, and with its launch in front of that if there was one.  So a
launch is never left open in the log, and the ends that are logged count the invocations.
-/

set_option autoImplicit false

namespace Stagehand

variable {state : Type}

def Message.isCompletion : Message → Bool
  | .workflowCompleted .. => true
  | _ => false

def Message.isFailure : Message → Bool
  | .workflowFailed .. => true
  | _ => false

namespace Invocation

/-- The message on how the workflow ended. -/
def ending (invocation : Invocation) : Message :=
  match invocation.outcome with
  | .success =>
      .workflowCompleted invocation.name invocation.outputDirectory invocation.elapsed
  | .failed reason => .workflowFailed invocation.name reason

def launched (invocation : Invocation) : Message :=
  .workflowLaunched invocation.name invocation.inputDirectory invocation.outputDirectory

/-- The messages on an invocation: its end, and in front of it the launch if there was one. -/
def log (invocation : Invocation) : List Message :=
  if hasOutputDirectory invocation.name then [invocation.launched, invocation.ending]
  else [invocation.ending]

@[simp] theorem kind_launched (invocation : Invocation) : invocation.launched.kind = .launch :=
  rfl

@[simp] theorem kind_ending (invocation : Invocation) : invocation.ending.kind = .ending := by
  unfold ending
  split <;> rfl

theorem isCompletion_ending (invocation : Invocation) :
    invocation.ending.isCompletion = invocation.outcome.isSuccess := by
  unfold ending
  split <;> simp_all [Message.isCompletion, InvocationOutcome.isSuccess]

theorem isFailure_ending (invocation : Invocation) :
    invocation.ending.isFailure = !invocation.outcome.isSuccess := by
  unfold ending
  split <;> simp_all [Message.isFailure, InvocationOutcome.isSuccess]

/-- What is counted among the endings of a log is counted among the invocations. -/
theorem countP_of_endings {invocations : List Invocation} {log : List Message}
    (ended : log.filter (·.kind = .ending) = invocations.map ending) {counts : Message → Bool}
    (only : ∀ message, counts message = true → message.kind = .ending) :
    log.countP counts = invocations.countP fun invocation => counts invocation.ending := by
  have both : ∀ message ∈ log, counts message = true ↔
      (counts message && decide (message.kind = .ending)) = true := fun message _ => by
    simpa using only message
  calc log.countP counts
      = (log.filter (·.kind = .ending)).countP counts := by
        rw [List.countP_filter, List.countP_congr both]
    _ = invocations.countP fun invocation => counts invocation.ending := by
        rw [ended, List.countP_map]
        rfl

theorem kind_of_mem_logs {invocations : List Invocation} {message : Message}
    (member : message ∈ invocations.flatMap log) :
    message.kind = .launch ∨ message.kind = .ending := by
  obtain ⟨invocation, -, member⟩ := List.mem_flatMap.mp member
  unfold log at member
  split at member
  · rcases List.mem_cons.mp member with rfl | member
    · exact Or.inl rfl
    · rw [List.mem_singleton.mp member]
      exact Or.inr invocation.kind_ending
  · rw [List.mem_singleton.mp member]
    exact Or.inr invocation.kind_ending

theorem endings_logs (invocations : List Invocation) :
    (invocations.flatMap log).filter (·.kind = .ending) = invocations.map ending := by
  induction invocations with
  | nil => rfl
  | cons invocation others ih =>
      have first : invocation.log.filter (·.kind = .ending) = [invocation.ending] := by
        unfold log
        split <;> simp
      rw [List.flatMap_cons, List.filter_append, first, ih]
      rfl

theorem messages_run (engine : Engine state) (times : WorkflowTimes) (workspace : Workspace)
    (bench : Bench state) (name : String) :
    messages (run engine times workspace bench name).journal =
      (run engine times workspace bench name).result.log := by
  have closed (result : Except WorkflowError Unit) (input output : Path) :
      closing times name output result =
        ending ⟨name, input, output, outcomeOf result, times name⟩ := by
    rcases result with _ | _ <;> rfl
  have stops (count : Nat) (mode : StopMode) :
      messages (List.replicate count (.call (.stopDuringJob mode))) = [] := by
    induction count with
    | zero => rfl
    | succ count ih => exact ih
  unfold run
  split
  · rename_i usable
    simp [launch, log, usable, stops, launched, closed _ workspace.inputDirectory]
  · rename_i unusable
    simp [log, unusable, ending, outcomeOf, closing]

/-- The workflows of a job are logged one after the other. -/
theorem messages_runAll (engine : Engine state) (times : WorkflowTimes) (workspace : Workspace)
    (names : List String) (bench : Bench state) :
    messages (runAll engine times workspace bench names).journal =
      (runAll engine times workspace bench names).result.flatMap log := by
  induction names generalizing bench with
  | nil => rfl
  | cons name others ih =>
      simp only [runAll, messages_append, messages_run, ih, List.flatMap_cons]

end Invocation

/-! ## Launches and endings -/

/-- Every launch in a log is followed at once by the end of an invocation of that workflow. -/
def Followed (invocations : List Invocation) (log : List Message) : Prop :=
  ∀ before name input output after,
    log = before ++ .workflowLaunched name input output :: after →
      ∃ invocation ∈ invocations, invocation.launched = .workflowLaunched name input output ∧
        ∃ later, after = invocation.ending :: later

namespace Followed

variable {invocations : List Invocation} {message : Message} {log front : List Message}

theorem nil : Followed invocations [] := by
  intro before name input output after split
  simp at split

theorem cons (other : message.kind ≠ .launch) (followed : Followed invocations log) :
    Followed invocations (message :: log) := by
  intro before name input output after split
  cases before with
  | nil =>
      cases split
      exact absurd rfl other
  | cons first more =>
      cases split
      exact followed more name input output after rfl

theorem append (others : ∀ message ∈ front, message.kind ≠ .launch)
    (followed : Followed invocations log) : Followed invocations (front ++ log) := by
  induction front with
  | nil => exact followed
  | cons first more ih =>
      obtain ⟨here, rest⟩ := List.forall_mem_cons.mp others
      exact (ih rest).cons here

theorem launch {invocation : Invocation} (member : invocation ∈ invocations)
    (followed : Followed invocations log) :
    Followed invocations (invocation.launched :: invocation.ending :: log) := by
  have rest := followed.cons (show invocation.ending.kind ≠ .launch by simp)
  intro before name input output after split
  cases before with
  | nil =>
      obtain ⟨same, rfl⟩ := List.cons.inj split
      exact ⟨invocation, member, same, log, rfl⟩
  | cons first more =>
      obtain ⟨-, split⟩ := List.cons.inj split
      exact rest more name input output after split

theorem logs {part : List Invocation} (among : ∀ invocation ∈ part, invocation ∈ invocations)
    (followed : Followed invocations log) :
    Followed invocations (part.flatMap Invocation.log ++ log) := by
  induction part with
  | nil => exact followed
  | cons invocation others ih =>
      obtain ⟨member, rest⟩ := List.forall_mem_cons.mp among
      rw [List.flatMap_cons, List.append_assoc]
      unfold Invocation.log
      split
      · exact (ih rest).launch member
      · exact (ih rest).cons (by simp)

end Followed

end Stagehand
