import Stagehand.Proofs.FileTree.Alike
import Stagehand.Proofs.Job.Preparation

/-! # Preparations in alike trees

The preparation of a job looks at nothing but its own directory.  In two trees that are alike there it
comes to the same end, and leaves trees that are alike there again.
-/

set_option autoImplicit false

namespace Stagehand

open FileTree Stagehand.Path

/-! ## Activities that match -/

/-- Two activities that come to the same end and leave related trees. -/
structure Activity.Matches {failure result : Type} (related : FileTree → FileTree → Prop)
    (first second : Activity failure result) : Prop where
  tree : related first.tree second.tree
  outcome : second.outcome = first.outcome

namespace Activity.Matches

variable {failure other result final : Type} {related : FileTree → FileTree → Prop}
  {first second : Activity failure result}

theorem after (matched : Matches related first second) (entries entries' : List Entry) :
    Matches related (first.after entries) (second.after entries') :=
  ⟨matched.tree, matched.outcome⟩

theorem andLog (matched : Matches related first second) (entries entries' : List Entry) :
    Matches related (first.andLog entries) (second.andLog entries') :=
  ⟨matched.tree, matched.outcome⟩

theorem map (matched : Matches related first second) (view : result → final) :
    Matches related (first.map view) (second.map view) :=
  ⟨matched.tree, congrArg (Except.map view) matched.outcome⟩

theorem mapFailure (matched : Matches related first second) (rename : failure → other) :
    Matches related (first.mapFailure rename) (second.mapFailure rename) :=
  ⟨matched.tree, congrArg (Except.mapError rename) matched.outcome⟩

theorem andThen {next next' : FileTree → result → Activity failure final}
    (matched : Matches related first second)
    (onward : ∀ value, first.outcome = .ok value → related first.tree second.tree →
      Matches related (next first.tree value) (next' second.tree value)) :
    Matches related (first.andThen next) (second.andThen next') := by
  have same := matched.outcome
  cases ended : first.outcome with
  | error reason =>
      rw [ended] at same
      rw [andThen_of_error _ ended, andThen_of_error _ same]
      exact ⟨matched.tree, rfl⟩
  | ok value =>
      rw [ended] at same
      rw [andThen_of_ok _ ended, andThen_of_ok _ same]
      exact (onward value ended matched.tree).after _ _

end Activity.Matches

variable {base path : Path} {location : Location} {name : String} {more : List String}
  {first second : FileTree}

/-! ## Directories -/

theorem ensureDirectory_matches (purpose : String) (alike : Alike base location name first second)
    (adds : Adds base (name :: more) path) :
    Activity.Matches (Alike base location name) (ensureDirectory first purpose path)
      (ensureDirectory second purpose path) := by
  obtain ⟨pieces, last, below, ends, step, spelled⟩ := adds
  unfold ensureDirectory
  rw [alike.find below spelled]
  split
  · exact ⟨alike, rfl⟩
  · exact ⟨alike, rfl⟩
  · split_ifs
    · exact ⟨alike, rfl⟩
    · obtain ⟨left, ended⟩ := alike.makeAll path.text.length below spelled ends step
      unfold makeDirectories ancestors
      generalize first.makeAll (path :: path.parentsUpTo path.text.length) = made at left ended ⊢
      generalize second.makeAll (path :: path.parentsUpTo path.text.length) = made'
        at left ended ⊢
      obtain ⟨made, reason | done⟩ := made
      · obtain ⟨made', _⟩ := made'
        cases ended
        exact ⟨left, rfl⟩
      · obtain ⟨made', _⟩ := made'
        cases ended
        exact ⟨left, rfl⟩

theorem ensureDirectories_matches (purpose : String) (paths : List Path)
    (alike : Alike base location name first second)
    (adds : ∀ path ∈ paths, ∃ more, Adds base (name :: more) path) :
    Activity.Matches (Alike base location name) (ensureDirectories first purpose paths)
      (ensureDirectories second purpose paths) := by
  induction paths generalizing first second with
  | nil => exact ⟨alike, rfl⟩
  | cons path others ih =>
      obtain ⟨more, addsFirst⟩ := adds path List.mem_cons_self
      refine (ensureDirectory_matches purpose alike addsFirst).andThen ?_
      intro made _ left
      exact ih left fun other member => adds other (List.mem_cons_of_mem _ member)

theorem Workspace.ensure_matches (workflows : List String)
    (alike : Alike base location name first second) (named : isDirectoryName name = true) :
    Activity.Matches (Alike base location name) (Workspace.ensure first base name workflows)
      (Workspace.ensure second base name workflows) := by
  have written := text_ne_empty_of_find alike.left.found
  unfold Workspace.ensure
  refine (ensureDirectory_matches "input" alike (adds_inputDirectory written named)).andThen ?_
  intro made _ withInput
  refine (ensureDirectories_matches "output" _ withInput ?_).andThen ?_
  · intro path member
    obtain ⟨workflow, kept, rfl⟩ := List.mem_map.mp member
    exact ⟨_, adds_outputDirectory written named (List.mem_filter.mp kept).2⟩
  · intro ready _ withOutputs
    exact ⟨withOutputs, rfl⟩

/-! ## Objects -/

namespace Staging

variable {store : Store} {times : DownloadTimes} {bucket : String} {ignoreManifests : Bool}
  {medium : Medium} {destination input : Path} {pieces : List (List Char)} {next : String}

theorem prepareParent_matches (alike : Alike base location name first second)
    (below : Below base pieces destination) (spelled : names pieces = name :: next :: more) :
    Activity.Matches (Alike base location name) (prepareParent first destination)
      (prepareParent second destination) := by
  obtain ⟨parent, up, ⟨fewer, final, higher, ⟨piece, ends, step⟩, longer⟩ | ⟨⟨final, single⟩, -⟩⟩ :=
    below.parent (text_ne_empty_of_find alike.left.found)
  · obtain ⟨head, others, split⟩ := List.exists_cons_of_ne_nil higher.down.names_ne_nil
    rw [spelled, split] at longer
    obtain ⟨rfl, -⟩ := List.cons.inj longer
    unfold prepareParent
    rw [up]
    have made := ensureDirectory_matches "object" alike ⟨fewer, piece, higher, ends, step, split⟩
    exact (made.mapFailure StagingError.workspace).map fun _ => ()
  · rw [spelled] at single
    cases single

theorem transfer_matches (key : String) (download : Download) (medium : Medium)
    (alike : Alike base location name first second) (below : Below base pieces destination)
    (spelled : names pieces = name :: next :: more) :
    Activity.Matches (Alike base location name) (transfer first key destination download medium)
      (transfer second key destination download medium) := by
  refine (prepareParent_matches alike below spelled).andThen ?_
  intro _ _ ready
  rcases ready.createFile below spelled with ⟨failure, failed, failed'⟩ |
    ⟨place, created, created', creation, creation', written⟩
  · rw [failed, failed']
    exact ⟨ready, rfl⟩
  · rw [creation, creation']
    dsimp only
    cases medium place download.chunks with
    | none => exact ⟨written _, rfl⟩
    | some fault => exact ⟨written _, rfl⟩

section

variable (adds : Adds base (name :: next :: more) input)

include adds

theorem stageObject_matches {object : ObjectRef} (alike : Alike base location name first second)
    (kind : treatment ignoreManifests object.key = .stage) :
    Activity.Matches (Alike base location name)
      (stageObject store times bucket input first object medium)
      (stageObject store times bucket input second object medium) := by
  unfold stageObject
  cases destined : destination? input object.key with
  | none => exact ⟨alike, rfl⟩
  | some destination =>
      cases store.get bucket object.key with
      | error reason => exact ⟨alike, rfl⟩
      | ok reader =>
          obtain ⟨pieces, -, below, -, -, spelled⟩ := adds
          obtain ⟨relative, down⟩ := leadsDown_of_destination kind destined
          obtain rfl := eq_join_of_destination destined
          have deeper : names (pieces ++ segments object.key.toList) =
              name :: next :: (more ++ names (segments object.key.toList)) := by
            rw [names_append, spelled]
            rfl
          have moved := transfer_matches object.key (reader chunkSize) medium alike
            (below.join relative down) deeper
          refine ((moved.andLog _ _).after _ _).andThen ?_
          intro size _ left
          exact ⟨left, rfl⟩

theorem stageObjects_matches (objects : List ObjectRef)
    (alike : Alike base location name first second) :
    Activity.Matches (Alike base location name)
      (stageObjects store times bucket input ignoreManifests first objects medium)
      (stageObjects store times bucket input ignoreManifests second objects medium) := by
  induction objects generalizing first second with
  | nil => exact ⟨alike, rfl⟩
  | cons object others ih =>
      simp only [stageObjects]
      cases kind : treatment ignoreManifests object.key with
      | skip => exact ((ih alike).map _).after _ _
      | marker => exact (ih alike).after _ _
      | stage =>
          refine (stageObject_matches adds alike kind).andThen ?_
          intro staged _ left
          exact (ih left).map _

theorem stagePayload_matches (payloadId : String)
    (alike : Alike base location name first second) :
    Activity.Matches (Alike base location name)
      (stagePayload store times bucket payloadId input ignoreManifests first medium)
      (stagePayload store times bucket payloadId input ignoreManifests second medium) := by
  unfold stagePayload
  cases store.list bucket payloadId with
  | error reason => exact ⟨alike, rfl⟩
  | ok objects =>
      refine ((stageObjects_matches adds objects alike).after _ _).andThen ?_
      intro summary _ left
      exact ⟨left, rfl⟩

end

end Staging

/-! ## A preparation -/

/-- A job is prepared in the same way wherever its own directory is the same. -/
theorem Dispatcher.prepare_matches {state : Type} {dispatcher : Dispatcher state}
    {conditions : Conditions} {request : Request} (named : isDirectoryName request.correlationId = true)
    (alike : Alike dispatcher.settings.workingDirectory location request.correlationId first
      second) :
    Activity.Matches
      (Alike dispatcher.settings.workingDirectory location request.correlationId)
      (dispatcher.prepare conditions request first) (dispatcher.prepare conditions request second) := by
  have written := text_ne_empty_of_find alike.left.found
  have readied : Activity.Matches
      (Alike dispatcher.settings.workingDirectory location request.correlationId)
      (dispatcher.readyWorkspace request first) (dispatcher.readyWorkspace request second) :=
    Workspace.ensure_matches request.workflows alike named
  refine (readied.mapFailure StagingError.workspace).andThen ?_
  intro workspace ready left
  have fine : (dispatcher.readyWorkspace request first).outcome = .ok workspace := by
    rw [Activity.outcome_mapFailure] at ready
    cases ended : (dispatcher.readyWorkspace request first).outcome with
    | error failure => rw [ended] at ready; cases ready
    | ok made => rw [ended] at ready; cases ready; rfl
  obtain rfl := Workspace.ensure_of_ok fine
  refine (Staging.stagePayload_matches (Workspace.adds_inputDirectory written named)
    request.payloadId left).andThen ?_
  intro summary _ staged
  exact ⟨staged, rfl⟩

end Stagehand
