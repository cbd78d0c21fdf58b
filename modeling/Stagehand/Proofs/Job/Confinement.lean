import Stagehand.Proofs.Job.Execution
import Stagehand.Proofs.Job.Preparation
import Stagehand.Rehearsal.Dispatcher

/-! # A job stays in its own directory

Whatever a delivery, its metadata and the keys of its payload say, a job changes nothing outside the
directory named by its id in the working directory, as long as the engine keeps to the directories
that it is given.
-/

set_option autoImplicit false

namespace Stagehand

open FileTree Stagehand.Path Workspace

variable {state : Type}

/-- An engine that changes nothing but what stands at or below the places that its two paths spell.
This is asked of it for some regular trees, those without links among them, which it does not leave:
all trees for an engine that goes by the names alone, those without links for one that makes none. -/
structure Engine.StaysInside (engine : Engine state) (regular : FileTree → Prop) : Prop where
  starts : ∀ tree : FileTree, tree.LinkFree → regular tree
  stays : ∀ start tree name input output, regular tree →
    regular (engine.execute start tree name input output).tree
  workingDirectory : ∀ start tree name input output, regular tree →
    (engine.execute start tree name input output).tree.workingDirectory = tree.workingDirectory
  untouched : ∀ start tree name input output place, regular tree →
    ¬ tree.place input <+: place → ¬ tree.place output <+: place →
      (engine.execute start tree name input output).tree.at? place = tree.at? place

/-- The engine whose calls leave one file in their output directory. -/
def reportingEngine : Engine Unit where
  execute _ tree _ _ output :=
    { next := (), tree := tree.put (tree.place output ++ ["report"]) (.file []), ending := .success }

theorem reportingEngine_staysInside : reportingEngine.StaysInside fun _ => True where
  starts _ _ := trivial
  stays _ _ _ _ _ _ := trivial
  workingDirectory _ _ _ _ _ _ := rfl
  untouched _ tree _ _ output place _ _ outside := by
    refine at?_put_of_ne tree _ ?_
    rintro rfl
    exact outside ⟨["report"], rfl⟩

section

variable {engine : Engine state} {regular : FileTree → Prop} {start last : state}
  {tree final : FileTree} {calls : List Call} {place : Location}
  (run : EngineRun engine start tree calls last final) (confined : engine.StaysInside regular)
  (fit : regular tree)

include run confined fit

/-- Engine calls keep the tree regular, and leave alone what is neither at nor below a directory that
one of them is given. -/
theorem EngineRun.stays :
    regular final ∧ final.workingDirectory = tree.workingDirectory ∧
      ∀ place, (∀ name input output seen, .execute name input output seen ∈ calls →
          ¬ tree.place input <+: place ∧ ¬ tree.place output <+: place) →
        final.at? place = tree.at? place := by
  induction run with
  | done => exact ⟨fit, rfl, fun _ _ => rfl⟩
  | @call start last tree final name input output later rest ih =>
      have stood := confined.workingDirectory start tree name input output fit
      obtain ⟨kept, still, others⟩ := ih (confined.stays start tree name input output fit)
      refine ⟨kept, still.trans stood, ?_⟩
      intro place outside
      obtain ⟨outsideInput, outsideOutput⟩ := outside name input output tree List.mem_cons_self
      rw [others, confined.untouched _ _ _ _ _ _ fit outsideInput outsideOutput]
      intro other otherInput otherOutput seen member
      rw [place_congr stood, place_congr stood]
      exact outside other otherInput otherOutput seen (List.mem_cons_of_mem _ member)

/-- Engine calls on directories at or below a place leave everything else alone. -/
theorem EngineRun.untouched {top : Location}
    (within : ∀ name input output seen, .execute name input output seen ∈ calls →
      top <+: tree.place input ∧ top <+: tree.place output)
    (outside : ¬ top <+: place) : final.at? place = tree.at? place := by
  refine (run.stays confined fit).2.2 place ?_
  intro name input output seen member
  obtain ⟨aboveInput, aboveOutput⟩ := within name input output seen member
  exact ⟨fun below => outside (aboveInput.trans below),
    fun below => outside (aboveOutput.trans below)⟩

end

namespace Dispatcher

section

variable {dispatcher : Dispatcher state} {conditions : Conditions} {bench : Bench state}
  {delivery : Delivery} {request : Request}

theorem outcome_handle :
    (dispatcher.handle conditions bench delivery).result.outcome =
      (dispatcher.process conditions bench delivery).result.2 := rfl

theorem outcome_handle_ne_rejected
    (valid : Request.ofDelivery dispatcher.wording delivery = .ok request) (reason : Rejection) :
    (dispatcher.handle conditions bench delivery).result.outcome ≠ .rejected reason := by
  rw [outcome_handle, process_of_request bench valid]
  dsimp only
  cases preparation : (dispatcher.prepare conditions request bench.tree).outcome with
  | error reason => rw [carryOut_of_unprepared preparation]; simp
  | ok workspace => rw [carryOut_of_prepared preparation]; simp

end

/-- Outside the directory that the job's id names in the working directory a job changes nothing, and
a rejected delivery changes nothing at all.  Before the engine starts, nothing is removed, and apart
from new directories only files below the input directory are written. -/
theorem handle_stays_in_job (dispatcher : Dispatcher state) (conditions : Conditions)
    (bench : Bench state) (delivery : Delivery)
    {location : Location} {regular : FileTree → Prop} (linkFree : bench.tree.LinkFree)
    (found : bench.tree.find dispatcher.settings.workingDirectory = .ok (location, .directory))
    (confined : dispatcher.engine.StaysInside regular) :
    let work := dispatcher.handle conditions bench delivery
    (∀ reason, Request.ofDelivery dispatcher.wording delivery = .error reason →
      work.result.outcome = .rejected reason) ∧
    (∀ reason, work.result.outcome = .rejected reason → work.bench.tree = bench.tree) ∧
    ∀ request, Request.ofDelivery dispatcher.wording delivery = .ok request →
      let job := location ++ [request.correlationId]
      (Path.mk request.correlationId).components = [.name request.correlationId] ∧
      bench.tree.place (dispatcher.settings.workingDirectory.join request.correlationId) = job ∧
      (∀ place, ¬ job <+: place → work.bench.tree.at? place = bench.tree.at? place) ∧
      ∃ staged, Edits (job <+: ·) (Staging.Inside (job ++ [inputName])) bench.tree staged ∧
        EngineRun dispatcher.engine bench.engine staged (executions work.journal)
          work.bench.engine work.bench.tree := by
  refine ⟨fun reason invalid => ?_, fun reason rejected => ?_, fun request valid => ?_⟩
  · rw [outcome_handle, process_of_rejected bench invalid]
  · cases validation : Request.ofDelivery dispatcher.wording delivery with
    | error reason => rw [bench_handle, process_of_rejected bench validation]
    | ok request => exact absurd rejected (outcome_handle_ne_rejected validation reason)
  · have named := Request.isDirectoryName_of_valid valid
    have written := text_ne_empty_of_find found
    have stands := place_of_find linkFree found
    have edits := @edits_prepare state dispatcher conditions request bench.tree location
      found (linkFree.below location) named
    have run := @engineRun_handle state dispatcher conditions bench delivery request valid
    have grouped : location ++ [request.correlationId] ++ [inputName] =
        location ++ [request.correlationId, inputName] := by simp
    dsimp only
    refine ⟨components_of_isDirectoryName named, ?_, fun place outside => ?_, _, ?_, run⟩
    · rw [place_below written (below_name written named), stands, names_singleton named]
    · rw [run.untouched confined (confined.starts _ (edits.linkFree linkFree)) ?_ outside]
      · refine edits.at?_eq outside ?_
        rintro ⟨rest, -, rfl⟩
        exact outside ⟨inputName :: rest, by simp⟩
      · intro name input output seen member
        obtain ⟨workspace, prepared, -, usable, rfl, rfl⟩ := mem_executions_handle valid member
        obtain ⟨rfl, -⟩ := prepare_holds found (linkFree.below location) named prepared
        rw [place_congr edits.workingDirectory, place_congr edits.workingDirectory,
          place_of_adds written (adds_inputDirectory written named),
          place_of_adds written (adds_outputDirectory written named usable), stands]
        exact ⟨⟨[inputName], by simp⟩, ⟨[outputName, directoryToken name], by simp⟩⟩
    · rw [grouped]
      exact edits

theorem handle_stays_in_reporting_job :
    let store : Rehearsal.ScriptedStore := ⟨"data", [{ key := "p/a", content := [1] }], none⟩
    let dispatcher := Rehearsal.dispatcher store reportingEngine
    let conditions := Rehearsal.refusing 7
    let bench : Bench Unit := ⟨Rehearsal.stage, (), {}⟩
    let work := dispatcher.handle conditions bench (Rehearsal.delivery 7 "job" "p" "x")
    work.bench.tree.at? ["w", "job", "output", "x", "report"] = some (.file []) ∧
      ∀ place, ¬ ["w", "job"] <+: place → work.bench.tree.at? place = bench.tree.at? place := by
  intro store dispatcher conditions bench work
  have valid : Request.ofDelivery dispatcher.wording (Rehearsal.delivery 7 "job" "p" "x") =
      .ok ⟨"job", "p", ["x"], none⟩ := by decide +kernel
  have found : bench.tree.find dispatcher.settings.workingDirectory = .ok (["w"], .directory) := by
    decide +kernel
  have linkFree : bench.tree.LinkFree := linkFree_of_nodes (by simp [bench, Rehearsal.stage])
  obtain ⟨-, -, stays⟩ := handle_stays_in_job dispatcher conditions bench
    (Rehearsal.delivery 7 "job" "p" "x") linkFree found reportingEngine_staysInside
  obtain ⟨-, -, outside, -⟩ := stays _ valid
  exact ⟨by decide +kernel, outside⟩

end Dispatcher
end Stagehand
