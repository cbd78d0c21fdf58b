import Stagehand.FileTree.Change
import Stagehand.Journal.Activity
import Stagehand.Workspace.Error
import Stagehand.Workspace.Layout

/-! # Making a workspace ready

Directories are made when they are missing and left alone when they are there, so a job that comes
again finds what its first attempt left.  Anything else in the place of a directory is a failure,
and so is a path that cannot be followed; the first failure ends the work.  Nothing is ever removed.
-/

set_option autoImplicit false

namespace Stagehand

/-- A directory at the path, made together with its parents when there is nothing.  The result says
whether it was made. -/
def ensureDirectory (tree : FileTree) (purpose : String) (path : Path) :
    Activity WorkspaceError Bool :=
  match tree.find path with
  | .ok (_, .directory) => .done tree false
  | .ok _ => .failed tree ⟨path, .notDirectory⟩
  | .error failure =>
      if failure ≠ .missing then .failed tree ⟨path, failure⟩
      else
        match tree.makeDirectories path with
        | (made, .ok ()) => ⟨made, [.log (.directoryCreated purpose path)], .ok true⟩
        | (left, .error reason) =>
            ⟨left, [.log (.directoryCreated purpose path)], .error ⟨path, reason⟩⟩

def ensureDirectories (tree : FileTree) (purpose : String) :
    List Path → Activity WorkspaceError Unit
  | [] => .done tree ()
  | path :: others =>
      (ensureDirectory tree purpose path).andThen fun made _ =>
        ensureDirectories made purpose others

namespace Workspace

/-- The output directories of the workflows that can have one. -/
def outputDirectories (workspace : Workspace) (workflows : List String) : List Path :=
  (workflows.filter hasOutputDirectory).map workspace.outputDirectory

/-- The input directory and an output directory for each workflow that can have one.  The others
are passed over here and fail on their own when their turn comes. -/
def ensure (tree : FileTree) (workingDirectory : Path) (correlationId : String)
    (workflows : List String) : Activity WorkspaceError Workspace :=
  let workspace := layout workingDirectory correlationId
  (ensureDirectory tree "input" workspace.inputDirectory).andThen fun withInput _ =>
    (ensureDirectories withInput "output" (workspace.outputDirectories workflows)).andThen
      fun ready _ =>
        ⟨ready, [.log (.workspaceReady correlationId workspace.root workflows.length)],
          .ok workspace⟩

/-- The ways in which an attempt to make a workspace ready ends: without its input directory, without
one of its output directories, or with all of them. -/
inductive Ensures (tree : FileTree) (workspace : Workspace) (correlationId : String)
    (workflows : List String) : Activity WorkspaceError Workspace → Prop where
  | noInput {left : FileTree} {journal : List Entry} {failure : WorkspaceError}
      (first : ensureDirectory tree "input" workspace.inputDirectory =
        ⟨left, journal, .error failure⟩) :
      Ensures tree workspace correlationId workflows ⟨left, journal, .error failure⟩
  | noOutput {withInput left : FileTree} {journal later : List Entry} {made : Bool}
      {failure : WorkspaceError}
      (first : ensureDirectory tree "input" workspace.inputDirectory =
        ⟨withInput, journal, .ok made⟩)
      (second : ensureDirectories withInput "output" (workspace.outputDirectories workflows) =
        ⟨left, later, .error failure⟩) :
      Ensures tree workspace correlationId workflows ⟨left, journal ++ later, .error failure⟩
  | ready {withInput left : FileTree} {journal later : List Entry} {made : Bool}
      (first : ensureDirectory tree "input" workspace.inputDirectory =
        ⟨withInput, journal, .ok made⟩)
      (second : ensureDirectories withInput "output" (workspace.outputDirectories workflows) =
        ⟨left, later, .ok ()⟩) :
      Ensures tree workspace correlationId workflows
        ⟨left, journal ++ (later ++
            [.log (.workspaceReady correlationId workspace.root workflows.length)]),
          .ok workspace⟩

theorem ensures (tree : FileTree) (workingDirectory : Path) (correlationId : String)
    (workflows : List String) :
    Ensures tree (layout workingDirectory correlationId) correlationId workflows
      (ensure tree workingDirectory correlationId workflows) := by
  unfold ensure
  dsimp only
  generalize layout workingDirectory correlationId = workspace
  cases first : ensureDirectory tree "input" workspace.inputDirectory with
  | mk withInput journal outcome =>
      cases outcome with
      | error failure => exact .noInput first
      | ok made =>
          cases second : ensureDirectories withInput "output"
              (workspace.outputDirectories workflows) with
          | mk left later ended =>
              simp only [Activity.andThen, second]
              cases ended with
              | error failure => exact .noOutput first second
              | ok done => exact .ready first second

theorem ensure_of_ok {tree : FileTree} {workingDirectory : Path} {correlationId : String}
    {workflows : List String} {workspace : Workspace}
    (success : (ensure tree workingDirectory correlationId workflows).outcome = .ok workspace) :
    workspace = layout workingDirectory correlationId := by
  have attempt := ensures tree workingDirectory correlationId workflows
  generalize ensure tree workingDirectory correlationId workflows = work at attempt success
  cases attempt with
  | noInput => cases success
  | noOutput => cases success
  | ready => exact (Except.ok.inj success).symm

end Workspace
end Stagehand
