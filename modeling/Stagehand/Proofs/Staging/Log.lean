import Stagehand.Proofs.Journal.Kind
import Stagehand.Proofs.Staging.Complete

/-! # What is logged of a preparation

The messages of a preparation are followed stage by stage: a directory is told of when it is made, an
object when its download begins and once more when it is over, and a manifest when it is passed over.
A staging that succeeds has told of exactly the objects and keys that it reports.
-/

set_option autoImplicit false

namespace Stagehand

/-! ## Directories -/

theorem prepares_ensureDirectory (tree : FileTree) (purpose : String) (path : Path) :
    Prepares (messages (ensureDirectory tree purpose path).journal) [] [] := by
  have created : Prepares (messages [.log (.directoryCreated purpose path)]) [] [] :=
    .quiet rfl rfl rfl
  unfold ensureDirectory
  split
  · exact .nil
  · exact .nil
  · split_ifs
    · exact .nil
    · split
      · exact created
      · exact created

theorem prepares_ensureDirectories (purpose : String) (paths : List Path) (tree : FileTree) :
    Prepares (messages (ensureDirectories tree purpose paths).journal) [] [] := by
  induction paths generalizing tree with
  | nil => exact .nil
  | cons path others ih =>
      have first := prepares_ensureDirectory tree purpose path
      rw [ensureDirectories]
      cases ended : (ensureDirectory tree purpose path).outcome with
      | error failure =>
          rw [Activity.andThen_of_error _ ended]
          exact first
      | ok made =>
          rw [Activity.andThen_of_ok _ ended, Activity.journal_after, messages_append]
          exact first.append (ih _)

theorem prepares_ensure (tree : FileTree) (workingDirectory : Path) (correlationId : String)
    (workflows : List String) :
    Prepares (messages (Workspace.ensure tree workingDirectory correlationId workflows).journal)
      [] [] := by
  have attempt := Workspace.ensures tree workingDirectory correlationId workflows
  have input := prepares_ensureDirectory tree "input"
    (Workspace.layout workingDirectory correlationId).inputDirectory
  have outputs := prepares_ensureDirectories "output"
    ((Workspace.layout workingDirectory correlationId).outputDirectories workflows)
  generalize Workspace.ensure tree workingDirectory correlationId workflows = work at attempt ⊢
  cases attempt with
  | noInput first =>
      rw [first] at input
      exact input
  | @noOutput withInput _ _ _ _ _ first second =>
      have more := outputs withInput
      rw [first] at input
      rw [second] at more
      rw [messages_append]
      exact input.append more
  | @ready withInput _ _ _ _ first second =>
      have more := outputs withInput
      rw [first] at input
      rw [second] at more
      rw [messages_append, messages_append]
      exact input.append (more.append (.quiet rfl rfl rfl))

namespace Staging

variable {store : Store} {times : DownloadTimes} {bucket payloadId : String} {base : Path}
  {ignoreManifests : Bool} {medium : Medium}

/-! ## One object -/

theorem messages_chunkEntries (key : String) (chunks : List Bytes) :
    messages (chunkEntries key chunks) = [] := by
  induction chunks with
  | nil => rfl
  | cons chunk others ih => exact ih

/-- A transfer tells of nothing but the directory of its place. -/
theorem prepares_transfer (tree : FileTree) (key : String) (destination : Path)
    (download : Download) :
    Prepares (messages (transfer tree key destination download medium).journal) [] [] := by
  have parent : Prepares (messages (prepareParent tree destination).journal) [] [] := by
    unfold prepareParent
    split
    · exact .nil
    · exact prepares_ensureDirectory tree "object" _
  unfold transfer
  cases prepared : (prepareParent tree destination).outcome with
  | error reason =>
      rw [Activity.andThen_of_error _ prepared]
      exact parent
  | ok ready =>
      rw [Activity.andThen_of_ok _ prepared, Activity.journal_after, messages_append]
      refine parent.append ?_
      split
      · exact .nil
      · split <;> simpa only [messages_chunkEntries] using Prepares.nil

/-- An object is told of once more when its download is over, and only then. -/
theorem prepares_stageObject (tree : FileTree) (object : ObjectRef) :
    let work := stageObject store times bucket base tree object medium
    ∃ downloads, Prepares (messages work.journal) downloads [] ∧
      ∀ staged, work.outcome = .ok staged → downloads = [(staged.key, staged.bytesWritten)] := by
  have opening : Prepares [.downloadStarted object.key object.size] [] [] := .quiet rfl rfl rfl
  unfold stageObject
  cases destination? base object.key with
  | none => exact ⟨[], .nil, fun _ fine => by cases fine⟩
  | some destination =>
      cases opened : store.get bucket object.key with
      | error reason => exact ⟨[], opening, fun _ fine => by cases fine⟩
      | ok reader =>
          have during := opening.append
            (@prepares_transfer medium tree object.key destination (reader chunkSize))
          dsimp only
          cases ended : (transfer tree object.key destination (reader chunkSize) medium).outcome with
          | error reason =>
              rw [Activity.andThen_of_error _ (by simpa using ended)]
              refine ⟨[], ?_, fun _ fine => by cases fine⟩
              simpa using during
          | ok size =>
              rw [Activity.andThen_of_ok _ (by simpa using ended)]
              have finished : Prepares [.downloadFinished object.key size (times object.key)]
                  [(object.key, size)] [] := ⟨by simp [Message.kind], rfl, rfl⟩
              refine ⟨[(object.key, size)], ?_, fun staged fine => ?_⟩
              · simpa using during.append finished
              · cases Except.ok.inj fine
                rfl

/-! ## A listing -/

/-- What a staging reports of the objects it staged: their keys and their bytes. -/
def downloadsOf (summary : StagingSummary) : List (String × Nat) :=
  summary.staged.map fun object => (object.key, object.bytesWritten)

theorem prepares_stageObjects (objects : List ObjectRef) (tree : FileTree) :
    let work := stageObjects store times bucket base ignoreManifests tree objects medium
    ∃ downloads skips, Prepares (messages work.journal) downloads skips ∧
      ∀ summary, work.outcome = .ok summary →
        downloads = downloadsOf summary ∧ skips = summary.skipped := by
  induction objects generalizing tree with
  | nil =>
      refine ⟨[], [], .nil, fun summary fine => ?_⟩
      cases Except.ok.inj fine
      exact ⟨rfl, rfl⟩
  | cons object others ih =>
      simp only [stageObjects]
      cases treatment ignoreManifests object.key with
      | skip =>
          obtain ⟨downloads, skips, told, summed⟩ := ih tree
          have first : Prepares [.objectSkipped object.key] [] [object.key] :=
            ⟨by simp [Message.kind], rfl, rfl⟩
          refine ⟨_, _, first.append told, fun summary fine => ?_⟩
          obtain ⟨inner, ended⟩ := ok_of_map_ok fine
          obtain ⟨rfl, rfl⟩ := summed inner ended
          dsimp only [Activity.outcome_after, Activity.outcome_map] at fine
          rw [ended] at fine
          cases Except.ok.inj fine
          exact ⟨rfl, rfl⟩
      | marker =>
          obtain ⟨downloads, skips, told, summed⟩ := ih tree
          have first : Prepares [.markerSkipped object.key] [] [] := .quiet rfl rfl rfl
          exact ⟨_, _, first.append told, summed⟩
      | stage =>
          obtain ⟨download, told, landed⟩ :=
            @prepares_stageObject store times bucket base medium tree object
          dsimp only at told landed ⊢
          cases ended : (stageObject store times bucket base tree object medium).outcome with
          | error reason =>
              rw [Activity.andThen_of_error _ ended]
              exact ⟨_, _, told, fun _ fine => by cases fine⟩
          | ok staged =>
              rw [Activity.andThen_of_ok _ ended]
              obtain ⟨downloads, skips, later, summed⟩ :=
                ih (stageObject store times bucket base tree object medium).tree
              cases landed staged ended
              have whole := told.append later
              rw [← messages_append] at whole
              refine ⟨_, _, whole, fun summary fine => ?_⟩
              obtain ⟨inner, rest⟩ := ok_of_map_ok fine
              obtain ⟨rfl, rfl⟩ := summed inner rest
              dsimp only [Activity.outcome_after, Activity.outcome_map] at fine
              rw [rest] at fine
              cases Except.ok.inj fine
              exact ⟨rfl, rfl⟩

/-! ## A payload -/

/-- A payload is told of once it is staged, with what the staging reports. -/
theorem messages_stagePayload (tree : FileTree) :
    let work := stagePayload store times bucket payloadId base ignoreManifests tree medium
    (∃ reason downloads skips, work.outcome = .error reason ∧
        Prepares (messages work.journal) downloads skips) ∨
      ∃ summary early, work.outcome = .ok summary ∧
        messages work.journal = early ++ [.payloadStaged payloadId summary.staged.length
          summary.skipped.length summary.bytesWritten] ∧
        Prepares early (downloadsOf summary) summary.skipped := by
  unfold stagePayload
  cases listed : store.list bucket payloadId with
  | error reason => exact Or.inl ⟨_, [], [], rfl, .nil⟩
  | ok objects =>
      obtain ⟨downloads, skips, told, summed⟩ :=
        @prepares_stageObjects store times bucket base ignoreManifests medium objects tree
      dsimp only at told summed ⊢
      cases ended : (stageObjects store times bucket base ignoreManifests tree objects
          medium).outcome with
      | error reason =>
          rw [Activity.andThen_of_error _ (by simpa using ended)]
          exact Or.inl ⟨reason, _, _, rfl, told⟩
      | ok summary =>
          rw [Activity.andThen_of_ok _ (by simpa using ended)]
          obtain ⟨rfl, rfl⟩ := summed summary ended
          exact Or.inr ⟨summary, _, rfl, by simp, told⟩

end Staging
end Stagehand
