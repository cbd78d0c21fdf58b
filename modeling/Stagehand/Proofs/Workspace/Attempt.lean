import Stagehand.Proofs.FileTree.Parent
import Stagehand.Proofs.Workspace.Ready

/-! # Attempts to make a workspace ready

Whatever stands in the file tree, an attempt only adds directories to it.  Either every directory of
the workspace is there afterwards, and a further attempt finds them and does nothing, or the attempt
ended at the first path that is still not a directory and had not come to the paths after it.
-/

set_option autoImplicit false

namespace Stagehand

open FileTree

variable {tree : FileTree} {purpose : String} {path : Path} {paths : List Path}

/-! ## One directory -/

/-- A failure names the path, and there is no directory there. -/
theorem ensureDirectory_of_error {failure : WorkspaceError} (written : path.text ≠ "")
    (failed : (ensureDirectory tree purpose path).outcome = .error failure) :
    failure.path = path ∧ (ensureDirectory tree purpose path).tree.isDirectory path = false := by
  cases found : tree.find path with
  | ok there =>
      obtain ⟨place, node⟩ := there
      cases node with
      | directory =>
          rw [ensureDirectory_of_found purpose found] at failed
          cases failed
      | file _ | link _ =>
          unfold ensureDirectory at failed ⊢
          rw [found] at failed ⊢
          cases failed
          exact ⟨rfl, by simp [Activity.failed, isDirectory, found]⟩
  | error reason =>
      by_cases missing : reason = .missing
      · subst missing
        obtain ⟨left, outcome⟩ := ensureDirectory_of_missing purpose found
        rw [outcome] at failed
        rw [left]
        cases made : (tree.makeDirectories path).2 with
        | ok done =>
            rw [made] at failed
            cases failed
        | error deeper =>
            rw [made] at failed
            cases failed
            exact ⟨rfl, isDirectory_of_makeAll_error path.text.length written made⟩
      · unfold ensureDirectory at failed ⊢
        rw [found] at failed ⊢
        dsimp only at failed ⊢
        rw [if_pos missing] at failed ⊢
        cases failed
        exact ⟨rfl, by simp [Activity.failed, isDirectory, found]⟩

/-! ## Several directories -/

/-- Each of the paths leads to a directory. -/
def AllDirectories (tree : FileTree) (paths : List Path) : Prop :=
  ∀ path ∈ paths, tree.isDirectory path = true

theorem isDirectory_of_edits {directories files : Location → Prop} {after : FileTree}
    (edits : Edits directories files tree after) (stands : tree.isDirectory path = true) :
    after.isDirectory path = true := by
  obtain ⟨place, found⟩ := isDirectory_iff.mp stands
  exact isDirectory_iff.mpr ⟨place, edits.find found⟩

theorem isDirectory_of_ensureDirectory {made : Bool} (written : path.text ≠ "")
    (success : (ensureDirectory tree purpose path).outcome = .ok made) :
    (ensureDirectory tree purpose path).tree.isDirectory path = true :=
  isDirectory_iff.mpr (find_of_ensureDirectory written success)

/-- Directories that are all there are left alone. -/
theorem ensureDirectories_of_all (all : AllDirectories tree paths) :
    ensureDirectories tree purpose paths = .done tree () := by
  induction paths with
  | nil => rfl
  | cons path others ih =>
      obtain ⟨first, rest⟩ := List.forall_mem_cons.mp all
      obtain ⟨place, found⟩ := isDirectory_iff.mp first
      rw [ensureDirectories, ensureDirectory_of_found purpose found]
      exact ih rest

theorem ensureDirectories_of_ok (written : ∀ path ∈ paths, path.text ≠ "")
    (success : (ensureDirectories tree purpose paths).outcome = .ok ()) :
    AllDirectories (ensureDirectories tree purpose paths).tree paths := by
  induction paths generalizing tree with
  | nil => exact List.forall_mem_nil _
  | cons path others ih =>
      obtain ⟨named, rest⟩ := List.forall_mem_cons.mp written
      rw [ensureDirectories] at success ⊢
      cases ended : (ensureDirectory tree purpose path).outcome with
      | error failure =>
          rw [Activity.andThen_of_error _ ended] at success
          cases success
      | ok made =>
          rw [Activity.andThen_of_ok _ ended] at success ⊢
          have stands := isDirectory_of_ensureDirectory named ended
          exact List.forall_mem_cons.mpr
            ⟨isDirectory_of_edits (edits_ensureDirectories _ _ _) stands, ih rest success⟩

/-- The work on some paths ended at one of them.  Those before it are directories, it is none, and
what comes after it plays no part. -/
structure EndsAt (tree : FileTree) (purpose : String) (front : List Path) (path : Path)
    (work : Activity WorkspaceError Unit) : Prop where
  before : AllDirectories work.tree front
  here : work.tree.isDirectory path = false
  alone : ∀ others, ensureDirectories tree purpose (front ++ path :: others) = work

theorem ensureDirectories_of_error {failure : WorkspaceError}
    (written : ∀ path ∈ paths, path.text ≠ "")
    (failed : (ensureDirectories tree purpose paths).outcome = .error failure) :
    ∃ front later, paths = front ++ failure.path :: later ∧
      EndsAt tree purpose front failure.path (ensureDirectories tree purpose paths) := by
  induction paths generalizing tree with
  | nil => cases failed
  | cons path others ih =>
      obtain ⟨named, rest⟩ := List.forall_mem_cons.mp written
      rw [ensureDirectories] at failed ⊢
      cases ended : (ensureDirectory tree purpose path).outcome with
      | error reason =>
          rw [Activity.andThen_of_error _ ended] at failed ⊢
          cases failed
          obtain ⟨rfl, here⟩ := ensureDirectory_of_error named ended
          refine ⟨[], others, rfl, List.forall_mem_nil _, here, fun later => ?_⟩
          rw [List.nil_append, ensureDirectories, Activity.andThen_of_error _ ended]
      | ok made =>
          rw [Activity.andThen_of_ok _ ended] at failed ⊢
          obtain ⟨front, later, split, before, here, alone⟩ := ih rest failed
          have stands := isDirectory_of_ensureDirectory named ended
          refine ⟨path :: front, later, by rw [split]; rfl, ?_, here, fun others => ?_⟩
          · exact List.forall_mem_cons.mpr
              ⟨isDirectory_of_edits (edits_ensureDirectories _ _ _) stands, before⟩
          · rw [List.cons_append, ensureDirectories, Activity.andThen_of_ok _ ended, alone others]

/-! ## The directories of a job -/

namespace Workspace

variable {workflows : List String}

theorem join_text_ne_empty (base : Path) {child : String} (written : child ≠ "") :
    (base.join child).text ≠ "" := by
  unfold Path.join
  split_ifs <;> simp [written]

theorem inputDirectory_text_ne_empty (workspace : Workspace) :
    workspace.inputDirectory.text ≠ "" :=
  join_text_ne_empty _ (by decide)

theorem outputDirectories_text_ne_empty (workspace : Workspace) :
    ∀ path ∈ workspace.outputDirectories workflows, path.text ≠ "" := by
  intro path member
  obtain ⟨workflow, kept, rfl⟩ := List.mem_map.mp member
  have usable := (List.mem_filter.mp kept).2
  refine join_text_ne_empty _ ?_
  intro empty
  rw [hasOutputDirectory, empty] at usable
  revert usable
  decide

/-- The directories of a workspace for some workflows, in the order in which they are made ready. -/
def directories (workspace : Workspace) (workflows : List String) : List Path :=
  workspace.inputDirectory :: workspace.outputDirectories workflows

theorem edits_ensure (tree : FileTree) (workingDirectory : Path) (correlationId : String)
    (workflows : List String) :
    Edits anywhere nowhere tree (ensure tree workingDirectory correlationId workflows).tree := by
  have attempt := ensures tree workingDirectory correlationId workflows
  have input := edits_ensureDirectory tree "input"
    (layout workingDirectory correlationId).inputDirectory
  have outputs := edits_ensureDirectories "output"
    ((layout workingDirectory correlationId).outputDirectories workflows)
  generalize ensure tree workingDirectory correlationId workflows = work at attempt ⊢
  cases attempt with
  | noInput first => rwa [first] at input
  | @noOutput withInput _ _ _ _ _ first second | @ready withInput _ _ _ _ first second =>
      have more := outputs withInput
      rw [first] at input
      rw [second] at more
      exact input.trans more

/-- The attempt ended at a directory of the workspace.  Those before it are there, it is not, and
with other workflows whose directories begin the same way the attempt would have been the same. -/
structure Obstacle (tree : FileTree) (workingDirectory : Path) (correlationId : String)
    (workflows : List String) (failure : WorkspaceError)
    (work : Activity WorkspaceError Workspace) : Prop where
  outcome : work.outcome = .error failure
  closed : work.tree.isDirectory failure.path = false
  reached : ∃ front later, (layout workingDirectory correlationId).directories workflows =
      front ++ failure.path :: later ∧ AllDirectories work.tree front ∧
    ∀ others, front ++ [failure.path] <+: (layout workingDirectory correlationId).directories others →
      ensure tree workingDirectory correlationId others = work

section

variable {workingDirectory : Path} {correlationId : String} {withInput left : FileTree}
  {journal later : List Entry} {failure : WorkspaceError} {made : Bool}

theorem ensure_of_noInput
    (first : ensureDirectory tree "input" (layout workingDirectory correlationId).inputDirectory =
      ⟨left, journal, .error failure⟩) (workflows : List String) :
    ensure tree workingDirectory correlationId workflows = ⟨left, journal, .error failure⟩ := by
  unfold ensure
  dsimp only
  rw [first, Activity.andThen_of_error _ rfl]

theorem obstacle_of_noInput
    (first : ensureDirectory tree "input" (layout workingDirectory correlationId).inputDirectory =
      ⟨left, journal, .error failure⟩) (workflows : List String) :
    Obstacle tree workingDirectory correlationId workflows failure
      ⟨left, journal, .error failure⟩ := by
  have written := inputDirectory_text_ne_empty (layout workingDirectory correlationId)
  obtain ⟨same, closed⟩ := ensureDirectory_of_error written (congrArg Activity.outcome first)
  rw [first] at closed
  refine ⟨rfl, by rwa [same], [], (layout workingDirectory correlationId).outputDirectories workflows,
    by rw [same]; rfl, List.forall_mem_nil _, fun others _ => ensure_of_noInput first others⟩

variable (first : ensureDirectory tree "input"
    (layout workingDirectory correlationId).inputDirectory = ⟨withInput, journal, .ok made⟩)

include first

theorem ensure_of_noOutput
    (second : ensureDirectories withInput "output"
        ((layout workingDirectory correlationId).outputDirectories workflows) =
      ⟨left, later, .error failure⟩) :
    ensure tree workingDirectory correlationId workflows =
      ⟨left, journal ++ later, .error failure⟩ := by
  unfold ensure
  dsimp only
  rw [first, Activity.andThen_of_ok _ rfl, second, Activity.andThen_of_error _ rfl]
  rfl

/-- The input directory stays while the output directories are made ready. -/
theorem isDirectory_input_of_outputs {outcome : Except WorkspaceError Unit}
    (second : ensureDirectories withInput "output"
        ((layout workingDirectory correlationId).outputDirectories workflows) =
      ⟨left, later, outcome⟩) :
    left.isDirectory (layout workingDirectory correlationId).inputDirectory = true := by
  have input := isDirectory_of_ensureDirectory
    (inputDirectory_text_ne_empty (layout workingDirectory correlationId))
    (congrArg Activity.outcome first)
  have outputs := edits_ensureDirectories "output"
    ((layout workingDirectory correlationId).outputDirectories workflows) withInput
  rw [first] at input
  rw [second] at outputs
  exact isDirectory_of_edits outputs input

theorem obstacle_of_noOutput
    (second : ensureDirectories withInput "output"
        ((layout workingDirectory correlationId).outputDirectories workflows) =
      ⟨left, later, .error failure⟩) :
    Obstacle tree workingDirectory correlationId workflows failure
      ⟨left, journal ++ later, .error failure⟩ := by
  obtain ⟨front, back, split, before, here, alone⟩ := ensureDirectories_of_error
    (outputDirectories_text_ne_empty _) (congrArg Activity.outcome second)
  have input := isDirectory_input_of_outputs first second
  rw [second] at before here alone
  refine ⟨rfl, here, (layout workingDirectory correlationId).inputDirectory :: front, back, ?_,
    List.forall_mem_cons.mpr ⟨input, before⟩, ?_⟩
  · rw [directories, split]
    rfl
  · rintro others ⟨rest, starts⟩
    have same : front ++ failure.path :: rest =
        (layout workingDirectory correlationId).outputDirectories others := by
      simpa [directories] using starts
    exact ensure_of_noOutput first (same ▸ alone rest)

theorem allDirectories_of_ready
    (second : ensureDirectories withInput "output"
        ((layout workingDirectory correlationId).outputDirectories workflows) =
      ⟨left, later, .ok ()⟩) :
    AllDirectories left ((layout workingDirectory correlationId).directories workflows) := by
  have outputs := ensureDirectories_of_ok (outputDirectories_text_ne_empty _)
    (congrArg Activity.outcome second)
  rw [second] at outputs
  exact List.forall_mem_cons.mpr ⟨isDirectory_input_of_outputs first second, outputs⟩

end

theorem allDirectories_of_ensure {workingDirectory : Path} {correlationId : String}
    {workspace : Workspace}
    (success : (ensure tree workingDirectory correlationId workflows).outcome = .ok workspace) :
    AllDirectories (ensure tree workingDirectory correlationId workflows).tree
      (workspace.directories workflows) := by
  have attempt := ensures tree workingDirectory correlationId workflows
  generalize ensure tree workingDirectory correlationId workflows = work at attempt success ⊢
  cases attempt with
  | noInput => cases success
  | noOutput => cases success
  | ready first second =>
      cases success
      exact allDirectories_of_ready first second

/-- Where all directories are there, making the workspace ready only reports that it is. -/
theorem ensure_of_all {workingDirectory : Path} {correlationId : String}
    (all : AllDirectories tree ((layout workingDirectory correlationId).directories workflows)) :
    ensure tree workingDirectory correlationId workflows =
      ⟨tree, [.log (.workspaceReady correlationId (layout workingDirectory correlationId).root
          workflows.length)], .ok (layout workingDirectory correlationId)⟩ := by
  obtain ⟨input, outputs⟩ := List.forall_mem_cons.mp all
  obtain ⟨place, found⟩ := isDirectory_iff.mp input
  unfold ensure
  dsimp only
  rw [ensureDirectory_of_found "input" found, Activity.andThen_of_ok _ rfl]
  dsimp only [Activity.done]
  rw [ensureDirectories_of_all outputs]
  rfl

/-- An attempt only adds directories.  It makes the whole workspace ready, and done once more it
finds it so, or it ends at an obstacle. -/
theorem ensure_completes_or_stops (tree : FileTree) (workingDirectory : Path)
    (correlationId : String) (workflows : List String) :
    let workspace := layout workingDirectory correlationId
    let work := ensure tree workingDirectory correlationId workflows
    work.tree.workingDirectory = tree.workingDirectory ∧
      (∀ place, work.tree.at? place = tree.at? place ∨
        tree.at? place = none ∧ work.tree.at? place = some .directory) ∧
      ((work.outcome = .ok workspace ∧
          AllDirectories work.tree (workspace.directories workflows) ∧
          ensure work.tree workingDirectory correlationId workflows =
            ⟨work.tree,
              [.log (.workspaceReady correlationId workspace.root workflows.length)],
              .ok workspace⟩) ∨
        ∃ failure, Obstacle tree workingDirectory correlationId workflows failure work) := by
  intro workspace work
  have edits := edits_ensure tree workingDirectory correlationId workflows
  refine ⟨edits.workingDirectory, fun place => ?_, ?_⟩
  · have edit := edits.place place
    change Edit _ _ _ (work.tree.at? place) at edit
    generalize tree.at? place = before, work.tree.at? place = after at edit ⊢
    cases edit with
    | kept => exact Or.inl rfl
    | made => exact Or.inr ⟨rfl, rfl⟩
    | created allowed => exact absurd allowed id
    | replaced allowed => exact absurd allowed id
  · have attempt : Ensures tree workspace correlationId workflows work :=
      ensures tree workingDirectory correlationId workflows
    clear_value work
    cases attempt with
    | noInput first => exact Or.inr ⟨_, obstacle_of_noInput first workflows⟩
    | noOutput first second => exact Or.inr ⟨_, obstacle_of_noOutput first second⟩
    | ready first second =>
        have all := allDirectories_of_ready first second
        exact Or.inl ⟨rfl, all, ensure_of_all all⟩

end Workspace
end Stagehand
