import Stagehand.Staging.Payload

/-! # What staging asks of the store

Making directories asks nothing of the store.  A staging lists once; after that it only opens
objects, takes their chunks and releases them, and when it succeeds it has done so for every object
of the listing that is to be staged, in the order of the listing and each to its end.
-/

set_option autoImplicit false

namespace Stagehand

/-- A call that opens an object, hands out a piece of it, or lets it go. -/
def Call.isTransfer : Call → Bool
  | .get _ _ | .chunk _ _ | .release _ => true
  | _ => false

/-- An object can be opened and read to its end. -/
def Store.HandsOut (store : Store) (bucket key : String) : Prop :=
  ∃ reader, store.get bucket key = .ok reader ∧ (reader Staging.chunkSize).fault = none

/-! ## Directories -/

theorem calls_ensureDirectory (tree : FileTree) (purpose : String) (path : Path) :
    calls (ensureDirectory tree purpose path).journal = [] := by
  unfold ensureDirectory
  split
  · rfl
  · rfl
  · split
    · rfl
    · split <;> rfl

theorem calls_ensureDirectories (purpose : String) (paths : List Path) (tree : FileTree) :
    calls (ensureDirectories tree purpose paths).journal = [] := by
  induction paths generalizing tree with
  | nil => rfl
  | cons path others ih =>
      have silent := calls_ensureDirectory tree purpose path
      rw [ensureDirectories]
      cases ended : (ensureDirectory tree purpose path).outcome with
      | error failure => rw [Activity.andThen_of_error _ ended]; exact silent
      | ok made =>
          rw [Activity.andThen_of_ok _ ended, Activity.journal_after, calls_append, silent, ih]
          rfl

theorem calls_ensure (tree : FileTree) (workingDirectory : Path) (correlationId : String)
    (workflows : List String) :
    calls (Workspace.ensure tree workingDirectory correlationId workflows).journal = [] := by
  have attempt := Workspace.ensures tree workingDirectory correlationId workflows
  have input := calls_ensureDirectory tree "input"
    (Workspace.layout workingDirectory correlationId).inputDirectory
  have outputs := calls_ensureDirectories "output"
    ((Workspace.layout workingDirectory correlationId).outputDirectories workflows)
  generalize Workspace.ensure tree workingDirectory correlationId workflows = work at attempt ⊢
  cases attempt with
  | noInput first =>
      rw [first] at input
      exact input
  | @noOutput withInput _ _ _ _ _ first second =>
      have more := outputs withInput
      rw [first] at input
      rw [second] at more
      rw [calls_append, input, more]
      rfl
  | @ready withInput _ _ _ _ first second =>
      have more := outputs withInput
      rw [first] at input
      rw [second] at more
      rw [calls_append, calls_append, input, more]
      rfl

namespace Staging

theorem calls_prepareParent (tree : FileTree) (destination : Path) :
    calls (prepareParent tree destination).journal = [] := by
  unfold prepareParent
  split
  · rfl
  · exact calls_ensureDirectory tree "object" _

/-! ## One object -/

/-- The calls for the chunks of an object. -/
def chunkCalls (key : String) (chunks : List Bytes) : List Call :=
  chunks.map fun chunk => .chunk key chunk.length

theorem calls_chunkEntries (key : String) (chunks : List Bytes) :
    calls (chunkEntries key chunks) = chunkCalls key chunks := by
  induction chunks with
  | nil => rfl
  | cons chunk others ih => exact congrArg (Call.chunk key chunk.length :: ·) ih

/-- The calls of a download from its opening to its release; only the opening if it fails. -/
def downloadCalls (store : Store) (bucket key : String) : List Call :=
  .get bucket key ::
    match store.get bucket key with
    | .error _ => []
    | .ok reader => chunkCalls key (reader chunkSize).chunks ++ [.release key]

theorem isTransfer_of_mem_chunkCalls (key : String) (chunks : List Bytes) :
    ∀ call ∈ chunkCalls key chunks, call.isTransfer = true := by
  intro call member
  obtain ⟨chunk, _, rfl⟩ := List.mem_map.mp member
  rfl

theorem isTransfer_of_mem_downloadCalls (store : Store) (bucket key : String) :
    ∀ call ∈ downloadCalls store bucket key, call.isTransfer = true := by
  intro call member
  unfold downloadCalls at member
  rcases List.mem_cons.mp member with rfl | member
  · rfl
  · split at member
    · cases member
    · rcases List.mem_append.mp member with member | member
      · exact isTransfer_of_mem_chunkCalls _ _ call member
      · cases List.mem_singleton.mp member
        rfl

theorem asked_prefix (fault : WriteFault) (download : Download) :
    fault.asked download <+: download.chunks :=
  List.take_prefix _ _

/-- A transfer asks for some first chunks.  It asks for all of them if the medium takes them. -/
theorem calls_transfer (tree : FileTree) (key : String) (destination : Path) (download : Download)
    (medium : Medium) :
    ∃ asked, asked <+: download.chunks ∧
      calls (transfer tree key destination download medium).journal = chunkCalls key asked := by
  have silent := calls_prepareParent tree destination
  unfold transfer
  cases prepared : (prepareParent tree destination).outcome with
  | error reason =>
      rw [Activity.andThen_of_error _ prepared]
      exact ⟨[], List.nil_prefix, silent⟩
  | ok ready =>
      rw [Activity.andThen_of_ok _ prepared]
      simp only [Activity.journal_after, calls_append, silent, List.nil_append]
      split
      · exact ⟨[], List.nil_prefix, rfl⟩
      · split
        · exact ⟨_, asked_prefix _ download, calls_chunkEntries key _⟩
        · exact ⟨_, List.prefix_rfl, calls_chunkEntries key _⟩

/-- A transfer that succeeds created its file on a medium that refused nothing, and took every chunk of
a download without a fault. -/
theorem transfer_of_ok {tree : FileTree} {key : String} {destination : Path} {download : Download}
    {medium : Medium} {size : Nat}
    (success : (transfer tree key destination download medium).outcome = .ok size) :
    ∃ location created,
      (prepareParent tree destination).outcome = .ok () ∧
      (prepareParent tree destination).tree.createFile destination = .ok (location, created) ∧
      medium location download.chunks = none ∧ download.fault = none ∧ size = download.size ∧
      (transfer tree key destination download medium).tree =
        created.put location (.file download.content) ∧
      calls (transfer tree key destination download medium).journal =
        chunkCalls key download.chunks := by
  have silent := calls_prepareParent tree destination
  unfold transfer at success ⊢
  cases prepared : (prepareParent tree destination).outcome with
  | error reason =>
      rw [Activity.andThen_of_error _ prepared] at success
      cases success
  | ok ready =>
      rw [Activity.andThen_of_ok _ prepared] at success ⊢
      simp only [Activity.journal_after, Activity.outcome_after, Activity.tree_after, calls_append,
        silent, List.nil_append] at success ⊢
      cases creation : (prepareParent tree destination).tree.createFile destination with
      | error reason =>
          simp only [creation] at success
          cases success
      | ok file =>
          obtain ⟨location, created⟩ := file
          simp only [creation] at success ⊢
          cases refused : medium location download.chunks with
          | some fault =>
              rw [refused] at success
              cases success
          | none =>
              simp only [refused] at success ⊢
              cases broken : download.fault with
              | some reason =>
                  rw [broken] at success
                  cases success
              | none =>
                  rw [broken] at success
                  cases Except.ok.inj success
                  exact ⟨location, created, trivial, rfl, refused, rfl, rfl, rfl,
                    calls_chunkEntries key _⟩

/-- An object that was staged went through each of its steps. -/
theorem stageObject_of_ok {store : Store} {times : DownloadTimes} {bucket : String}
    {inputDirectory : Path} {tree : FileTree} {object : ObjectRef} {medium : Medium}
    {staged : StagedObject}
    (success : (stageObject store times bucket inputDirectory tree object medium).outcome =
      .ok staged) :
    ∃ destination reader,
      destination? inputDirectory object.key = some destination ∧
      store.get bucket object.key = .ok reader ∧
      (transfer tree object.key destination (reader chunkSize) medium).outcome =
        .ok staged.bytesWritten ∧
      staged.key = object.key ∧ staged.path = destination ∧
      (stageObject store times bucket inputDirectory tree object medium).tree =
        (transfer tree object.key destination (reader chunkSize) medium).tree := by
  unfold stageObject at success ⊢
  cases place : destination? inputDirectory object.key with
  | none => simp only [place] at success; cases success
  | some destination =>
      cases opened : store.get bucket object.key with
      | error reason => simp only [place, opened] at success; cases success
      | ok reader =>
          simp only [place, opened] at success ⊢
          cases ended : (transfer tree object.key destination (reader chunkSize) medium).outcome with
          | error reason =>
              rw [Activity.andThen_of_error _ (by simpa using ended)] at success
              cases success
          | ok size =>
              rw [Activity.andThen_of_ok _ (by simpa using ended)] at success ⊢
              cases Except.ok.inj success
              exact ⟨destination, reader, rfl, rfl, ended, rfl, rfl, rfl⟩

theorem calls_stageObject_of_ok {store : Store} {times : DownloadTimes} {bucket : String}
    {inputDirectory : Path} {tree : FileTree} {object : ObjectRef} {medium : Medium}
    {staged : StagedObject}
    (success : (stageObject store times bucket inputDirectory tree object medium).outcome =
      .ok staged) :
    store.HandsOut bucket object.key ∧
      calls (stageObject store times bucket inputDirectory tree object medium).journal =
        downloadCalls store bucket object.key := by
  obtain ⟨destination, reader, place, opened, ended, -⟩ := stageObject_of_ok success
  obtain ⟨-, -, -, -, -, unbroken, -, -, taken⟩ := transfer_of_ok ended
  refine ⟨⟨reader, opened, unbroken⟩, ?_⟩
  unfold stageObject downloadCalls
  simp only [place, opened]
  rw [Activity.andThen_of_ok _ (by simpa using ended)]
  simp [taken]

theorem isTransfer_of_mem_calls_stageObject (store : Store) (times : DownloadTimes)
    (bucket : String) (inputDirectory : Path) (tree : FileTree) (object : ObjectRef)
    (medium : Medium) :
    ∀ call ∈ calls (stageObject store times bucket inputDirectory tree object medium).journal,
      call.isTransfer = true := by
  have during (destination : Path) (download : Download) :
      ∀ call ∈ calls (transfer tree object.key destination download medium).journal,
        call.isTransfer = true := by
    obtain ⟨asked, -, taken⟩ := calls_transfer tree object.key destination download medium
    rw [taken]
    exact isTransfer_of_mem_chunkCalls _ _
  unfold stageObject
  split
  · simp [Activity.failed]
  · rename_i destination place
    split
    · simp [Call.isTransfer]
    · rename_i reader opened
      -- The release follows the transfer however it ended; what comes after it asks for nothing.
      cases ended : (transfer tree object.key destination (reader chunkSize) medium).outcome with
      | error reason =>
          rw [Activity.andThen_of_error _ (by simpa using ended)]
          simpa [Call.isTransfer, or_imp, forall_and] using during destination (reader chunkSize)
      | ok size =>
          rw [Activity.andThen_of_ok _ (by simpa using ended)]
          simpa [Call.isTransfer, or_imp, forall_and] using during destination (reader chunkSize)

/-! ## A listing -/

/-- The keys of a listing that are to be staged, in its order. -/
def stagedKeys (ignoreManifests : Bool) (objects : List ObjectRef) : List String :=
  (objects.map ObjectRef.key).filter fun key => treatment ignoreManifests key = .stage

theorem stagedKeys_cons (ignoreManifests : Bool) (object : ObjectRef) (others : List ObjectRef) :
    stagedKeys ignoreManifests (object :: others) =
      if treatment ignoreManifests object.key = .stage then
        object.key :: stagedKeys ignoreManifests others
      else stagedKeys ignoreManifests others := by
  simp only [stagedKeys, List.map_cons, List.filter_cons, decide_eq_true_eq]

/-- How a listing is staged: from a tree, object by object, to an outcome, with the calls made and the
tree left. -/
inductive Stages (store : Store) (times : DownloadTimes) (bucket : String) (inputDirectory : Path)
    (ignoreManifests : Bool) (medium : Medium) : FileTree → List ObjectRef →
      Except StagingError StagingSummary → List Call → FileTree → Prop
  | finished (tree : FileTree) :
      Stages store times bucket inputDirectory ignoreManifests medium tree [] (.ok {}) [] tree
  | skipped {tree after : FileTree} {object : ObjectRef} {others : List ObjectRef}
      {outcome : Except StagingError StagingSummary} {made : List Call}
      (kind : treatment ignoreManifests object.key = .skip)
      (rest : Stages store times bucket inputDirectory ignoreManifests medium tree others outcome
        made after) :
      Stages store times bucket inputDirectory ignoreManifests medium tree (object :: others)
        (outcome.map (StagingSummary.skip object.key)) made after
  | passed {tree after : FileTree} {object : ObjectRef} {others : List ObjectRef}
      {outcome : Except StagingError StagingSummary} {made : List Call}
      (kind : treatment ignoreManifests object.key = .marker)
      (rest : Stages store times bucket inputDirectory ignoreManifests medium tree others outcome
        made after) :
      Stages store times bucket inputDirectory ignoreManifests medium tree (object :: others)
        outcome made after
  | failed {tree : FileTree} {object : ObjectRef} {others : List ObjectRef} {reason : StagingError}
      (kind : treatment ignoreManifests object.key = .stage)
      (failure : (stageObject store times bucket inputDirectory tree object medium).outcome =
        .error reason) :
      Stages store times bucket inputDirectory ignoreManifests medium tree (object :: others)
        (.error reason)
        (calls (stageObject store times bucket inputDirectory tree object medium).journal)
        (stageObject store times bucket inputDirectory tree object medium).tree
  | staged {tree after : FileTree} {object : ObjectRef} {others : List ObjectRef}
      {outcome : Except StagingError StagingSummary} {made : List Call} {written : StagedObject}
      (kind : treatment ignoreManifests object.key = .stage)
      (success : (stageObject store times bucket inputDirectory tree object medium).outcome =
        .ok written)
      (rest : Stages store times bucket inputDirectory ignoreManifests medium
        (stageObject store times bucket inputDirectory tree object medium).tree others outcome
        made after) :
      Stages store times bucket inputDirectory ignoreManifests medium tree (object :: others)
        (outcome.map (StagingSummary.stage written))
        (calls (stageObject store times bucket inputDirectory tree object medium).journal ++ made)
        after

section

variable {store : Store} {times : DownloadTimes} {bucket : String} {inputDirectory : Path}
  {ignoreManifests : Bool} {medium : Medium}

theorem stages_stageObjects (objects : List ObjectRef) (tree : FileTree) :
    let work := stageObjects store times bucket inputDirectory ignoreManifests tree objects medium
    Stages store times bucket inputDirectory ignoreManifests medium tree objects work.outcome
      (calls work.journal) work.tree := by
  induction objects generalizing tree with
  | nil => exact .finished tree
  | cons object others ih =>
      simp only [stageObjects]
      cases kind : treatment ignoreManifests object.key with
      | skip => exact .skipped kind (ih tree)
      | marker => exact .passed kind (ih tree)
      | stage =>
          cases ended : (stageObject store times bucket inputDirectory tree object
              medium).outcome with
          | error reason =>
              dsimp only
              rw [Activity.andThen_of_error _ ended]
              exact .failed kind ended
          | ok written =>
              dsimp only
              rw [Activity.andThen_of_ok _ ended, Activity.journal_after, calls_append]
              exact .staged kind ended (ih _)

variable {tree after : FileTree} {objects : List ObjectRef}
  {outcome : Except StagingError StagingSummary} {made : List Call}

theorem ok_of_map_ok {summary : StagingSummary} {view : StagingSummary → StagingSummary}
    (success : outcome.map view = .ok summary) : ∃ inner, outcome = .ok inner := by
  cases outcome with
  | error reason => cases success
  | ok inner => exact ⟨inner, rfl⟩

theorem error_of_map_error {reason : StagingError} {view : StagingSummary → StagingSummary}
    (failure : outcome.map view = .error reason) : outcome = .error reason := by
  cases outcome with
  | error fault => exact failure
  | ok inner => cases failure

theorem Stages.isTransfer_of_mem
    (run : Stages store times bucket inputDirectory ignoreManifests medium tree objects outcome made
      after) : ∀ call ∈ made, call.isTransfer = true := by
  induction run with
  | finished => simp
  | skipped _ _ ih | passed _ _ ih => exact ih
  | failed => exact isTransfer_of_mem_calls_stageObject _ _ _ _ _ _ _
  | staged _ _ _ ih =>
      intro call member
      rcases List.mem_append.mp member with member | member
      · exact isTransfer_of_mem_calls_stageObject _ _ _ _ _ _ _ call member
      · exact ih call member

/-- A listing that is staged to its end costs one complete download for each key to be staged. -/
theorem Stages.calls_of_ok
    (run : Stages store times bucket inputDirectory ignoreManifests medium tree objects outcome made
      after)
    {summary : StagingSummary} (success : outcome = .ok summary) :
    (∀ key ∈ stagedKeys ignoreManifests objects, store.HandsOut bucket key) ∧
      made = (stagedKeys ignoreManifests objects).flatMap (downloadCalls store bucket) := by
  induction run generalizing summary with
  | finished => exact ⟨by simp [stagedKeys], rfl⟩
  | skipped kind rest ih =>
      obtain ⟨inner, fine⟩ := ok_of_map_ok success
      rw [stagedKeys_cons, kind]
      exact ih fine
  | passed kind rest ih =>
      rw [stagedKeys_cons, kind]
      exact ih success
  | failed => cases success
  | staged kind written rest ih =>
      obtain ⟨inner, fine⟩ := ok_of_map_ok success
      obtain ⟨handed, taken⟩ := calls_stageObject_of_ok written
      obtain ⟨handedLater, takenLater⟩ := ih fine
      rw [stagedKeys_cons, if_pos kind, List.flatMap_cons, taken, takenLater]
      refine ⟨?_, rfl⟩
      rintro key (_ | ⟨_, member⟩)
      · exact handed
      · exact handedLater key member

end

/-! ## A payload -/

/-- The calls of a staging: the listing, and after it only transfers; all of them complete if it
succeeds. -/
theorem calls_stagePayload (store : Store) (times : DownloadTimes) (bucket payloadId : String)
    (inputDirectory : Path) (ignoreManifests : Bool) (tree : FileTree) (medium : Medium) :
    (∃ transfers, calls (stagePayload store times bucket payloadId inputDirectory ignoreManifests
        tree medium).journal = .list bucket payloadId :: transfers ∧
      ∀ call ∈ transfers, call.isTransfer = true) ∧
    ∀ summary, (stagePayload store times bucket payloadId inputDirectory ignoreManifests
        tree medium).outcome = .ok summary →
      ∃ objects, store.list bucket payloadId = .ok objects ∧
        (∀ key ∈ stagedKeys ignoreManifests objects, store.HandsOut bucket key) ∧
        calls (stagePayload store times bucket payloadId inputDirectory ignoreManifests
            tree medium).journal =
          .list bucket payloadId ::
            (stagedKeys ignoreManifests objects).flatMap (downloadCalls store bucket) := by
  unfold stagePayload
  cases listed : store.list bucket payloadId with
  | error reason =>
      refine ⟨⟨[], rfl, by simp⟩, ?_⟩
      intro summary success
      cases success
  | ok objects =>
      have run := @stages_stageObjects store times bucket inputDirectory ignoreManifests medium
        objects tree
      have every := run.isTransfer_of_mem
      dsimp only at run ⊢
      cases ended : (stageObjects store times bucket inputDirectory ignoreManifests tree
          objects medium).outcome with
      | error reason =>
          rw [Activity.andThen_of_error _ (by simpa using ended)]
          refine ⟨⟨_, rfl, every⟩, ?_⟩
          intro summary success
          cases success
      | ok staged =>
          rw [Activity.andThen_of_ok _ (by simpa using ended)]
          obtain ⟨handed, taken⟩ := run.calls_of_ok ended
          refine ⟨⟨_, by simp, every⟩, ?_⟩
          intro summary _
          exact ⟨objects, rfl, handed, by simp [taken]⟩

end Staging
end Stagehand
