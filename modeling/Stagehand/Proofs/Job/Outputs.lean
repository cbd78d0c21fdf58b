import Stagehand.Proofs.Job.Execution
import Stagehand.Proofs.Job.Preparation
import Stagehand.Proofs.Workspace.Outputs
import Stagehand.Rehearsal.Dispatcher
import Stagehand.Rehearsal.Engine

/-! # Whose output a directory is

The output directory of a workflow is named by its token, and the hyphen in a token stands for every
character that was replaced.  Two workflows whose names differ in nothing else share one directory.
All others have directories apart, and none of them lies in another or in the input directory.
-/

set_option autoImplicit false

namespace Stagehand

open Stagehand.Path Workspace

variable {state : Type}

/-! ## The engine calls of a job -/

theorem exists_call_of_launched {entries : List Entry} {name : String} {input output : Path}
    (launched : some (name, input, output) ∈ (executions entries).map Call.launched?) :
    ∃ seen, .execute name input output seen ∈ executions entries := by
  obtain ⟨call, member, shown⟩ := List.mem_map.mp launched
  obtain ⟨seen, rfl⟩ := Call.exists_eq_execute shown
  exact ⟨seen, member⟩

namespace Dispatcher

/-- Only names that differ in nothing but characters shown as hyphens share an output directory.  The
output directories of all others are apart, every one is apart from the input directory, and so it is
with the paths that the engine is given in the course of a job. -/
theorem outputs_apart_unless_confusable (dispatcher : Dispatcher state) (conditions : Conditions)
    (bench : Bench state) (delivery : Delivery) :
    (∀ (workingDirectory : Path) (correlationId first second : String),
      hasOutputDirectory first = true → hasOutputDirectory second = true →
      let workspace := layout workingDirectory correlationId
      let output := workspace.outputDirectory first
      let other := workspace.outputDirectory second
      (output = other ↔ Confusable first second) ∧
        (output.Apart other ↔ ¬ Confusable first second) ∧
        output.Apart workspace.inputDirectory) ∧
    ∀ first second input otherInput output other seen otherSeen,
      let launched := executions (dispatcher.handle conditions bench delivery).journal
      .execute first input output seen ∈ launched →
      .execute second otherInput other otherSeen ∈ launched →
      otherInput = input ∧
        (output = other ↔ Confusable first second) ∧
        (output.Apart other ↔ ¬ Confusable first second) ∧
        output.Apart input := by
  constructor
  · intro workingDirectory correlationId first second usableFirst usableSecond
    exact ⟨outputDirectory_eq_iff usableFirst usableSecond,
      outputDirectory_apart_iff usableFirst usableSecond,
      outputDirectory_apart_inputDirectory usableFirst⟩
  · intro first second input otherInput output other seen otherSeen launched call otherCall
    cases reading : Request.ofDelivery dispatcher.wording delivery with
    | error reason =>
        have none : launched = [] := by
          unfold launched
          rw [executions_handle, process_of_rejected bench reading]
          rfl
        rw [none] at call
        cases call
    | ok request =>
        obtain ⟨workspace, prepared, -, usableFirst, rfl, rfl⟩ :=
          mem_executions_handle reading call
        obtain ⟨again, preparedAgain, -, usableSecond, rfl, rfl⟩ :=
          mem_executions_handle reading otherCall
        cases prepared.symm.trans preparedAgain
        exact ⟨rfl, outputDirectory_eq_iff usableFirst usableSecond,
          outputDirectory_apart_iff usableFirst usableSecond,
          outputDirectory_apart_inputDirectory usableFirst⟩

theorem outputs_of_slash_and_underscore :
    let dispatcher := Rehearsal.dispatcher ⟨"data", [], none⟩ (Rehearsal.EngineScript.engine [])
    let bench : Bench (List String) := ⟨Rehearsal.stage, [], {}⟩
    let delivery := Rehearsal.deliveryOf
      "\x7b\"payload_id\":\"p\",\"workflows\":[\"a/b\",\"a_b\"]\x7d"
    let launched := executions (dispatcher.handle {} bench delivery).journal
    let output : Path := ⟨"/w/a/output/a-b"⟩
    let other : Path := ⟨"/w/a/output/a_b"⟩
    ∃ seen otherSeen,
      .execute "a/b" ⟨"/w/a/input"⟩ output seen ∈ launched ∧
        .execute "a_b" ⟨"/w/a/input"⟩ other otherSeen ∈ launched ∧
        output.Apart other ∧ output.Apart ⟨"/w/a/input"⟩ := by
  intro dispatcher bench delivery launched output other
  have both : launched.map Call.launched? =
      [some ("a/b", ⟨"/w/a/input"⟩, output), some ("a_b", ⟨"/w/a/input"⟩, other)] := by
    decide +kernel
  obtain ⟨seen, call⟩ := exists_call_of_launched (by rw [both]; exact List.mem_cons_self)
  obtain ⟨otherSeen, otherCall⟩ := exists_call_of_launched
    (by rw [both]; exact List.mem_cons_of_mem _ List.mem_cons_self)
  obtain ⟨-, -, apart, fromInput⟩ := (outputs_apart_unless_confusable dispatcher {} bench
    delivery).2 "a/b" "a_b" _ _ _ _ seen otherSeen call otherCall
  exact ⟨seen, otherSeen, call, otherCall, apart.mpr (by decide +kernel), fromInput⟩

/-- Two workflows of one job with an output directory between them. -/
theorem outputs_of_slash_and_hyphen :
    let dispatcher := Rehearsal.dispatcher ⟨"data", [], none⟩ (Rehearsal.EngineScript.engine [])
    let bench : Bench (List String) := ⟨Rehearsal.stage, [], {}⟩
    let delivery := Rehearsal.deliveryOf
      "\x7b\"payload_id\":\"p\",\"workflows\":[\"a/b\",\"a-b\"]\x7d"
    let workspace := layout dispatcher.settings.workingDirectory "a"
    let output : Path := ⟨"/w/a/output/a-b"⟩
    isDirectoryName "a" = true ∧ hasOutputDirectory "a/b" = true ∧
      hasOutputDirectory "a-b" = true ∧
      workspace.outputDirectory "a/b" = output ∧ workspace.outputDirectory "a-b" = output ∧
      (executions (dispatcher.handle {} bench delivery).journal).map Call.launched? =
        [some ("a/b", ⟨"/w/a/input"⟩, output), some ("a-b", ⟨"/w/a/input"⟩, output)] := by
  decide +kernel

end Dispatcher
end Stagehand
