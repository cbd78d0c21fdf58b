import Stagehand.Proofs.Job.Clock
import Stagehand.Proofs.Job.Execution
import Stagehand.Rehearsal.Dispatcher

/-! # Failures stay with their workflow

The calls of an engine are fewer than the workflows of the list, since some names are refused, so the
endings of the calls are first put back in line with the names.  Each invocation then tells its own
entry's ending and nothing else, and an engine that differs in one ending only is told apart in that
one entry.
-/

set_option autoImplicit false

namespace Stagehand

variable {state : Type}

/-- How the engine calls of a list end when they are made one after the other from this state, each in
the tree that it found. -/
def Engine.endings (engine : Engine state) : state → List Call → List CallEnding
  | _, [] => []
  | start, .execute name input output found :: later =>
      let call := engine.execute start found name input output
      call.ending :: engine.endings call.next later
  | start, _ :: later => engine.endings start later

/-- Two engines that do the same on every call, but for how the call ends. -/
def Engine.DoesSame (engine other : Engine state) : Prop :=
  ∀ start tree name input output, ∃ ending,
    other.execute start tree name input output =
      { engine.execute start tree name input output with ending := ending }

namespace Invocation

/-- The endings in line with the names: each name that is launched has the next one. -/
def answersFor : List String → List CallEnding → List (Option CallEnding)
  | [], _ => []
  | name :: others, endings =>
      if hasOutputDirectory name then endings.head? :: answersFor others endings.tail
      else none :: answersFor others endings

/-- What becomes of a workflow whose call ended in this way, or that was not launched. -/
def outcomeFor (name : String) : Option CallEnding → InvocationOutcome
  | none => .failed (WorkflowError.unusableName name).message
  | some .success => .success
  | some (.failure reason) => .failed reason.message
  | some (.panic payload) => .failed (WorkflowError.panicked payload.words).message

/-- The invocation of a workflow whose call ended in this way, or that was not launched. -/
def answered (times : WorkflowTimes) (workspace : Workspace) (name : String)
    (answer : Option CallEnding) : Invocation where
  name := name
  inputDirectory := workspace.inputDirectory
  outputDirectory := workspace.outputDirectory name
  outcome := outcomeFor name answer
  elapsed := if answer.isSome then times name else .zero

/-- The invocation without its outcome. -/
def unjudged (invocation : Invocation) : String × Path × Path × Duration :=
  (invocation.name, invocation.inputDirectory, invocation.outputDirectory, invocation.elapsed)

theorem unjudged_untimed (invocations : List Invocation) :
    (invocations.map Invocation.untimed).map unjudged =
      (invocations.map unjudged).map fun (name, input, output, _) =>
        (name, input, output, .zero) := by
  rw [List.map_map, List.map_map]
  rfl

theorem outcomeFor_eq_success_iff (name : String) (answer : Option CallEnding) :
    outcomeFor name answer = .success ↔ answer = some .success := by
  rcases answer with _ | _ | _ | _ <;> simp [outcomeFor]

theorem outcomeOf_result (name : String) (ending : CallEnding) :
    outcomeOf ending.result = outcomeFor name (some ending) := by
  cases ending <;> rfl

/-! ## One workflow -/

section

variable (engine : Engine state) (times : WorkflowTimes) (workspace : Workspace)
  (bench : Bench state) {name : String}

theorem run_of_usable (usable : hasOutputDirectory name = true) :
    let call := engine.execute bench.engine bench.tree name workspace.inputDirectory
      (workspace.outputDirectory name)
    let done := run engine times workspace bench name
    done.bench = ⟨call.tree, call.next, bench.signal.requestTimes call.stopRequests⟩ ∧
      done.result = answered times workspace name (some call.ending) := by
  unfold run
  rw [if_pos usable]
  exact ⟨rfl, by simp only [answered, ← outcomeOf_result]; rfl⟩

theorem run_of_unusable (unusable : hasOutputDirectory name = false) :
    let done := run engine times workspace bench name
    done.bench = bench ∧ done.result = answered times workspace name none := by
  unfold run
  rw [if_neg (Bool.eq_false_iff.mp unusable)]
  exact ⟨rfl, rfl⟩

end

/-! ## All workflows -/

section

variable (engine : Engine state) (times : WorkflowTimes) (workspace : Workspace)

/-- How the calls made for a list of workflows end, in line with the names. -/
def answers (bench : Bench state) (names : List String) : List (Option CallEnding) :=
  answersFor names
    (engine.endings bench.engine (ownCalls (runAll engine times workspace bench names).journal))

/-- The first workflow is answered by the first call, if it is launched, and the others as they are
after it. -/
theorem answers_cons (bench : Bench state) (name : String) (others : List String) :
    answers engine times workspace bench (name :: others) =
      (if hasOutputDirectory name then
          some (engine.execute bench.engine bench.tree name workspace.inputDirectory
            (workspace.outputDirectory name)).ending
        else none) ::
        answers engine times workspace (run engine times workspace bench name).bench others := by
  unfold answers
  simp only [runAll, ownCalls_append, ownCalls_run, answersFor]
  cases usable : hasOutputDirectory name with
  | true =>
      rw [(run_of_usable engine times workspace bench usable).1]
      rfl
  | false =>
      rw [(run_of_unusable engine times workspace bench usable).1]
      rfl

theorem isSome_answers (names : List String) (bench : Bench state) :
    (answers engine times workspace bench names).map Option.isSome =
      names.map hasOutputDirectory := by
  induction names generalizing bench with
  | nil => rfl
  | cons name others ih =>
      rw [answers_cons, List.map_cons, List.map_cons, ih]
      cases hasOutputDirectory name <;> rfl

theorem result_runAll (names : List String) (bench : Bench state) :
    (runAll engine times workspace bench names).result =
      List.zipWith (answered times workspace) names
        (answers engine times workspace bench names) := by
  induction names generalizing bench with
  | nil => rfl
  | cons name others ih =>
      rw [answers_cons, List.zipWith_cons_cons, ← ih]
      simp only [runAll]
      cases usable : hasOutputDirectory name with
      | true =>
          rw [(run_of_usable engine times workspace bench usable).2]
          rfl
      | false =>
          rw [(run_of_unusable engine times workspace bench usable).2]
          rfl

/-- But for the times, the names and the answers alone say what the invocations are. -/
theorem untimed_result_runAll (names : List String) (bench : Bench state) :
    (runAll engine times workspace bench names).result.map Invocation.untimed =
      List.zipWith (fun name answer => (answered (fun _ => .zero) workspace name answer).untimed)
        names (answers engine times workspace bench names) := by
  rw [result_runAll, List.map_zipWith]
  rfl

/-- But for the outcomes, the names alone say what the invocations are. -/
theorem unjudged_runAll (names : List String) (bench : Bench state) :
    (runAll engine times workspace bench names).result.map unjudged =
      names.map fun name => (name, workspace.inputDirectory, workspace.outputDirectory name,
        if hasOutputDirectory name then times name else .zero) := by
  let told (name : String) (launched : Bool) : String × Path × Path × Duration :=
    (name, workspace.inputDirectory, workspace.outputDirectory name,
      if launched then times name else .zero)
  calc (runAll engine times workspace bench names).result.map unjudged
      = List.zipWith (fun name answer => told name answer.isSome) names
          (answers engine times workspace bench names) := by
        rw [result_runAll, List.map_zipWith]
        rfl
    _ = List.zipWith told names (names.map hasOutputDirectory) := by
        rw [← isSome_answers engine times workspace names bench, List.zipWith_map_right]
    _ = names.map fun name => told name (hasOutputDirectory name) := by
        rw [List.zipWith_map_right, List.zipWith_self]

end

/-! ## Engines that differ in how calls end -/

section

variable {engine other : Engine state} (same : engine.DoesSame other)
  (times later : WorkflowTimes) (workspace : Workspace)

include same

theorem run_doesSame (bench : Bench state) (name : String) :
    let done := run engine times workspace bench name
    let done' := run other later workspace bench name
    done'.bench = done.bench ∧ calls done'.journal = calls done.journal := by
  obtain ⟨ending, alike⟩ := same bench.engine bench.tree name workspace.inputDirectory
    (workspace.outputDirectory name)
  unfold run launch
  dsimp only
  rw [alike]
  split
  · simp
  · simp

theorem runAll_doesSame (names : List String) (bench : Bench state) :
    let work := runAll engine times workspace bench names
    let work' := runAll other later workspace bench names
    work'.bench = work.bench ∧ calls work'.journal = calls work.journal := by
  induction names generalizing bench with
  | nil => exact ⟨rfl, rfl⟩
  | cons name others ih =>
      obtain ⟨left, made⟩ := run_doesSame same times later workspace bench name
      obtain ⟨leftAll, madeAll⟩ := ih (run engine times workspace bench name).bench
      simp only [runAll, calls_append]
      rw [left, made]
      exact ⟨leftAll, by rw [madeAll]⟩

end

/-- Every workflow is invoked once and in order, and the engine is called for those that can have an
output directory, one after the other.  An entry succeeds if its own call did, and otherwise fails
with the text of its own failure.  A call that ends in another way makes a difference to the outcome
of its own entry only, however long the calls take. -/
theorem runAll_contains_failures (engine : Engine state) (times : WorkflowTimes)
    (workspace : Workspace) (names : List String) (bench : Bench state) :
    let work := runAll engine times workspace bench names
    let ended := answers engine times workspace bench names
    work.result.map unjudged =
        (names.map fun name => (name, workspace.inputDirectory, workspace.outputDirectory name,
          if hasOutputDirectory name then times name else .zero)) ∧
      (ownCalls work.journal).map Call.launched? =
        ((names.filter hasOutputDirectory).map fun name =>
          some (name, workspace.inputDirectory, workspace.outputDirectory name)) ∧
      EngineRun engine bench.engine bench.tree (ownCalls work.journal) work.bench.engine
        work.bench.tree ∧
      ended.map Option.isSome = names.map hasOutputDirectory ∧
      work.result.map Invocation.outcome = List.zipWith outcomeFor names ended ∧
      (∀ (i : Nat) invocation, work.result[i]? = some invocation →
        (invocation.outcome = .success ↔ ended[i]? = some (some .success))) ∧
      ∀ other later, engine.DoesSame other →
        let work' := runAll other later workspace bench names
        let entries := work.result.map Invocation.untimed
        let entries' := work'.result.map Invocation.untimed
        work'.bench = work.bench ∧ calls work'.journal = calls work.journal ∧
          entries'.map unjudged = entries.map unjudged ∧
          ∀ i : Nat, (answers other later workspace bench names)[i]? = ended[i]? →
            entries'[i]? = entries[i]? := by
  intro work ended
  have result := result_runAll engine times workspace names bench
  refine ⟨unjudged_runAll engine times workspace names bench,
    launched_runAll engine times workspace names bench, ?_,
    isSome_answers engine times workspace names bench, ?_, fun i invocation there => ?_,
    fun other later same => ?_⟩
  · have run := engineRun_runAll engine times workspace names bench
    dsimp only at run
    rwa [executions_runAll] at run
  · rw [result, List.map_zipWith]
    rfl
  · rw [result, List.getElem?_zipWith] at there
    split at there
    · rename_i name answer _ told
      cases there
      change outcomeFor name answer = .success ↔ ended[i]? = _
      rw [told, outcomeFor_eq_success_iff, Option.some.injEq]
    · cases there
  · obtain ⟨left, made⟩ := runAll_doesSame same times later workspace names bench
    refine ⟨left, made, ?_, fun i agree => ?_⟩
    · rw [unjudged_untimed, unjudged_untimed, unjudged_runAll, unjudged_runAll]
      simp
    · rw [untimed_result_runAll, untimed_result_runAll, List.getElem?_zipWith,
        List.getElem?_zipWith, agree]

/-- An engine that changes nothing and ends its calls as the list says. -/
def idleEngine (endings : List CallEnding) : Engine Nat where
  execute count tree _ _ _ :=
    { next := count + 1, tree := tree, ending := endings.getD count .success }

theorem runAll_contains_panic :
    let engine := idleEngine [.success]
    let other := idleEngine [.panic (.text "gone")]
    let run (engine : Engine Nat) (times : WorkflowTimes) :=
      (runAll engine times ⟨⟨"/w/a"⟩⟩ ⟨Rehearsal.stage, 0, {}⟩ ["x", "..", "y"]).result.map
        Invocation.untimed
    let slower (name : String) : Duration := if name = "y" then .ofSeconds 2 0 else .zero
    engine.DoesSame other ∧
      (run other slower).map Invocation.outcome =
        [.failed "Workflow panicked: gone",
          .failed "Workflow name '..' cannot form an output directory", .success] ∧
      (run other slower)[2]? = (run engine fun _ => .zero)[2]? := by
  intro engine other run slower
  have same : engine.DoesSame other := fun start tree name input output => ⟨_, rfl⟩
  have contained (engine : Engine Nat) (times : WorkflowTimes) := runAll_contains_failures engine
    times ⟨⟨"/w/a"⟩⟩ ["x", "..", "y"] ⟨Rehearsal.stage, 0, {}⟩
  obtain ⟨-, -, -, -, -, -, others⟩ := contained engine fun _ => .zero
  obtain ⟨-, -, -, -, outcomes, -, -⟩ := contained other slower
  obtain ⟨-, -, -, elsewhere⟩ := others other slower same
  refine ⟨same, ?_, elsewhere 2 (by decide +kernel)⟩
  rw [List.map_map]
  exact outcomes.trans (by decide +kernel)

end Invocation
end Stagehand
