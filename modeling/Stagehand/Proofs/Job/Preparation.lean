import Stagehand.Proofs.Job.Calls
import Stagehand.Proofs.Staging.Content

/-! # What the preparation of a job leaves

Before the first engine call a job makes its workspace ready and stages its payload.  Together they
add directories in the job's own directory and write files below its input directory.  When they
succeed, the input directory holds the payload over what was there before, and every output
directory is there.
-/

set_option autoImplicit false

namespace Stagehand

open FileTree Stagehand.Path Workspace

variable {state : Type}

/-- The id of a request is a name for a directory. -/
theorem Request.isDirectoryName_of_valid {wording : Bytes → String} {delivery : Delivery}
    {request : Request} (valid : Request.ofDelivery wording delivery = .ok request) :
    isDirectoryName request.correlationId = true := by
  unfold Request.ofDelivery at valid
  split at valid
  · cases valid
  · unfold Request.ofBody at valid
    split at valid
    · cases valid
    · cases valid
    · split at valid
      · cases valid
      · split_ifs at valid
        split at valid
        · cases valid
        · split_ifs at valid with named
          cases Except.ok.inj valid
          exact named

namespace Dispatcher

variable {dispatcher : Dispatcher state} {conditions : Conditions} {request : Request}
  {tree : FileTree} {location : Location}

theorem prepare_of_ok {workspace : Workspace}
    (prepared : (dispatcher.prepare conditions request tree).outcome = .ok workspace) :
    ∃ summary,
      (dispatcher.readyWorkspace request tree).outcome = .ok workspace ∧
      (dispatcher.stagedPayload conditions request workspace
        (dispatcher.readyWorkspace request tree).tree).outcome = .ok summary ∧
      (dispatcher.prepare conditions request tree).tree =
        (dispatcher.stagedPayload conditions request workspace
          (dispatcher.readyWorkspace request tree).tree).tree := by
  obtain ⟨summary, -, ready, staged, -⟩ := ownCalls_prepare_of_ok prepared
  refine ⟨summary, ready, staged, ?_⟩
  rw [prepare_of_ready ready, Activity.tree_after, Activity.andThen_of_ok _ staged,
    Activity.tree_after]

section

variable (found : tree.find dispatcher.settings.workingDirectory = .ok (location, .directory))
  (linkFree : tree.LinkFreeBelow location)
  (named : isDirectoryName request.correlationId = true)

include found linkFree named

theorem readyWorkspace_below :
    Edits (Places location request.correlationId) nowhere tree
        (dispatcher.readyWorkspace request tree).tree ∧
      ∀ workspace, (dispatcher.readyWorkspace request tree).outcome = .ok workspace →
        (dispatcher.readyWorkspace request tree).tree.find workspace.inputDirectory =
            .ok (location ++ [request.correlationId, inputName], .directory) ∧
          ∀ workflow ∈ request.workflows, hasOutputDirectory workflow = true →
            (dispatcher.readyWorkspace request tree).tree.find
                (workspace.outputDirectory workflow) =
              .ok (location ++ [request.correlationId, outputName, directoryToken workflow],
                .directory) :=
  ensure_below request.workflows found linkFree named

/-- Directories are added only at or below the directory of the job, and files are written only below
its input directory. -/
theorem edits_prepare :
    Edits (location ++ [request.correlationId] <+: ·)
      (Staging.Inside (location ++ [request.correlationId, inputName])) tree
      (dispatcher.prepare conditions request tree).tree := by
  have ensured := readyWorkspace_below found linkFree named
  have readied : Edits (location ++ [request.correlationId] <+: ·)
      (Staging.Inside (location ++ [request.correlationId, inputName])) tree
      (dispatcher.readyWorkspace request tree).tree :=
    ensured.1.mono
      (fun place belongs => by
        obtain ⟨rest, rfl⟩ := belongs.below
        exact ⟨rest, by simp⟩)
      fun _ => False.elim
  cases ended : (dispatcher.readyWorkspace request tree).outcome with
  | error failure =>
      rw [prepare_of_unready ended]
      exact readied
  | ok workspace =>
      have input := (ensured.2 workspace ended).1
      have staged := @Staging.edits_stagePayload _ _ _ dispatcher.store
        conditions.stopwatch.downloads dispatcher.settings.bucket conditions.medium
        request.payloadId dispatcher.settings.ignoreManifests input
        (ensured.1.linkFreeBelow linkFree.deeper)
      have widened : Edits (location ++ [request.correlationId] <+: ·)
          (Staging.Inside (location ++ [request.correlationId, inputName])) _ _ :=
        staged.mono
          (fun place inside => by
            obtain ⟨rest, -, rfl⟩ := inside
            exact ⟨inputName :: rest, by simp⟩)
          fun _ => id
      rw [prepare_of_ready ended, Activity.tree_after]
      cases finished : (dispatcher.stagedPayload conditions request workspace
          (dispatcher.readyWorkspace request tree).tree).outcome with
      | error reason =>
          rw [Activity.andThen_of_error _ finished]
          exact readied.trans widened
      | ok summary =>
          rw [Activity.andThen_of_ok _ finished]
          exact readied.trans widened

/-- A preparation that succeeds has every object of the payload in its place below the input
directory, over what was there before, and every output directory. -/
theorem prepare_holds {workspace : Workspace}
    (prepared : (dispatcher.prepare conditions request tree).outcome = .ok workspace) :
    let after := (dispatcher.prepare conditions request tree).tree
    let input := location ++ [request.correlationId, inputName]
    workspace = layout dispatcher.settings.workingDirectory request.correlationId ∧
      after.find workspace.inputDirectory = .ok (input, .directory) ∧
      (∀ workflow ∈ request.workflows, hasOutputDirectory workflow = true →
        after.find (workspace.outputDirectory workflow) =
          .ok (location ++ [request.correlationId, outputName, directoryToken workflow],
            .directory)) ∧
      ∃ objects, dispatcher.store.list dispatcher.settings.bucket request.payloadId = .ok objects ∧
        let keys := Staging.stagedKeys dispatcher.settings.ignoreManifests objects
        (∀ key ∈ keys, dispatcher.store.HandsOut dispatcher.settings.bucket key ∧
          Below workspace.inputDirectory (segments key.toList)
            (workspace.inputDirectory.join key)) ∧
        ∀ place, place ≠ [] → after.at? (input ++ place) =
          (Staging.stagedNode? dispatcher.store dispatcher.settings.bucket keys place).or
            (tree.at? (input ++ place)) := by
  obtain ⟨summary, readying, staging, left⟩ := prepare_of_ok prepared
  dsimp only
  obtain ⟨added, there⟩ := readyWorkspace_below found linkFree named
  obtain ⟨input, outputs⟩ := there workspace readying
  have free : (dispatcher.readyWorkspace request tree).tree.LinkFreeBelow
      (location ++ [request.correlationId, inputName]) := added.linkFreeBelow linkFree.deeper
  have edits := @Staging.edits_stagePayload _ _ _ dispatcher.store conditions.stopwatch.downloads
    dispatcher.settings.bucket conditions.medium request.payloadId
    dispatcher.settings.ignoreManifests input free
  obtain ⟨objects, listed, treated, same⟩ := Staging.stagePayload_of_ok staging
  have run := @Staging.stages_stageObjects dispatcher.store conditions.stopwatch.downloads
    dispatcher.settings.bucket workspace.inputDirectory dispatcher.settings.ignoreManifests
    conditions.medium objects (dispatcher.readyWorkspace request tree).tree
  dsimp only at run
  have holds := run.holds_of_ok input free treated
  have handed := (run.calls_of_ok treated).1
  have whole : (dispatcher.prepare conditions request tree).tree =
      (Staging.stagePayload dispatcher.store conditions.stopwatch.downloads
        dispatcher.settings.bucket request.payloadId workspace.inputDirectory
        dispatcher.settings.ignoreManifests (dispatcher.readyWorkspace request tree).tree
        conditions.medium).tree := left
  rw [whole]
  refine ⟨ensure_of_ok readying, edits.find input,
    fun workflow member usable => edits.find (outputs workflow member usable), objects, listed,
    fun key member => ⟨handed key member, (holds.2 key member).2⟩, fun place nonempty => ?_⟩
  rw [same, run.at?_of_ok input free treated nonempty, added.at?_eq (not_places nonempty) id]

end

end Dispatcher
end Stagehand
