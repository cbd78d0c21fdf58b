import Stagehand.Proofs.Staging.Complete

/-! # A staging that fails

The first object that cannot be staged ends the work.  What came before it was staged to its end, what
comes after it is never opened.  The failure is that of the object: how far it got decides which
calls were made for it, and whether it leaves a file, with what had been written until then.
-/

set_option autoImplicit false

namespace Stagehand.Staging

open FileTree Stagehand.Path

variable {store : Store} {times : DownloadTimes} {bucket payloadId : String} {base : Path}
  {ignoreManifests : Bool} {tree after : FileTree} {objects : List ObjectRef} {medium : Medium}
  {key : String} {reason : StagingError}

/-! ## One object -/

/-- The calls for a reader that was opened, was asked for some chunks, and was released. -/
def openCalls (bucket key : String) (asked : List Bytes) : List Call :=
  .get bucket key :: chunkCalls key asked ++ [.release key]

/-- The ways in which an object can fail to be staged: why, the calls made for it, the file it leaves
if it got as far as creating one, and the tree. -/
inductive Failure (store : Store) (medium : Medium) (bucket : String) (base : Path)
    (tree : FileTree) (key : String) :
    StagingError → List Call → Option WrittenFile → FileTree → Prop where
  /-- The key could lead out of the input directory: the store is not asked. -/
  | escaping (unsafeKey : isSafeKey key = false) :
      Failure store medium bucket base tree key (.unsafeKey key) [] none tree
  /-- The object is not opened. -/
  | unopened {fault : StoreError} (safe : isSafeKey key = true)
      (closed : store.get bucket key = .error fault) :
      Failure store medium bucket base tree key (.download key fault) [.get bucket key] none tree
  /-- The directory of the object is not made ready. -/
  | unprepared {reader : Nat → Download} {parent : Path} {failure : WorkspaceError}
      (safe : isSafeKey key = true) (opened : store.get bucket key = .ok reader)
      (above : (base.join key).parent? = some parent)
      (failed : (ensureDirectory tree "object" parent).outcome = .error failure) :
      Failure store medium bucket base tree key (.workspace failure) (openCalls bucket key []) none
        (ensureDirectory tree "object" parent).tree
  /-- The file is not created. -/
  | uncreated {reader : Nat → Download} {fault : SystemError} (safe : isSafeKey key = true)
      (opened : store.get bucket key = .ok reader)
      (ready : (prepareParent tree (base.join key)).outcome = .ok ())
      (closed : (prepareParent tree (base.join key)).tree.createFile (base.join key) =
        .error fault) :
      Failure store medium bucket base tree key (.writing key (base.join key) fault)
        (openCalls bucket key []) none (prepareParent tree (base.join key)).tree
  /-- A read fails: the file holds every chunk that was handed out before. -/
  | unread {reader : Nat → Download} {place : Location} {created : FileTree} {fault : StoreError}
      (safe : isSafeKey key = true) (opened : store.get bucket key = .ok reader)
      (ready : (prepareParent tree (base.join key)).outcome = .ok ())
      (creation : (prepareParent tree (base.join key)).tree.createFile (base.join key) =
        .ok (place, created))
      (taken : medium place (reader chunkSize).chunks = none)
      (broken : (reader chunkSize).fault = some fault) :
      Failure store medium bucket base tree key (.download key fault)
        (openCalls bucket key (reader chunkSize).chunks)
        (some ⟨key, place, (reader chunkSize).chunks.flatten⟩)
        (created.put place (.file (reader chunkSize).chunks.flatten))
  /-- A read fails before the flush, and a write had failed too, of which nobody hears: the file holds
  what was taken of the chunks that were handed out. -/
  | unheard {reader : Nat → Download} {place : Location} {created : FileTree} {lost : WriteFault}
      {fault : StoreError} (safe : isSafeKey key = true)
      (opened : store.get bucket key = .ok reader)
      (ready : (prepareParent tree (base.join key)).outcome = .ok ())
      (creation : (prepareParent tree (base.join key)).tree.createFile (base.join key) =
        .ok (place, created))
      (refused : medium place (reader chunkSize).chunks = some lost)
      (late : lost.showsEarly (reader chunkSize) = false)
      (broken : (reader chunkSize).fault = some fault) :
      Failure store medium bucket base tree key (.download key fault)
        (openCalls bucket key (reader chunkSize).chunks)
        (some ⟨key, place, lost.left (reader chunkSize)⟩)
        (created.put place (.file (lost.left (reader chunkSize))))
  /-- A write fails: the file holds what was taken of the chunks asked for until then. -/
  | unwritten {reader : Nat → Download} {place : Location} {created : FileTree} {fault : WriteFault}
      (safe : isSafeKey key = true) (opened : store.get bucket key = .ok reader)
      (ready : (prepareParent tree (base.join key)).outcome = .ok ())
      (creation : (prepareParent tree (base.join key)).tree.createFile (base.join key) =
        .ok (place, created))
      (refused : medium place (reader chunkSize).chunks = some fault)
      (shows : (reader chunkSize).fault = none ∨ fault.showsEarly (reader chunkSize) = true) :
      Failure store medium bucket base tree key (.writing key (base.join key) fault.reason)
        (openCalls bucket key (fault.asked (reader chunkSize)))
        (some ⟨key, place, fault.left (reader chunkSize)⟩)
        (created.put place (.file (fault.left (reader chunkSize))))

/-- A refusal that waits for the flush lets every chunk be asked for. -/
theorem asked_of_late {fault : WriteFault} {download : Download}
    (late : fault.showsEarly download = false) : fault.asked download = download.chunks := by
  refine List.take_of_length_le ?_
  simp only [WriteFault.showsEarly, decide_eq_false_iff_not] at late
  omega

theorem parent_of_unready {destination : Path}
    (failed : (prepareParent tree destination).outcome = .error reason) :
    ∃ parent failure, destination.parent? = some parent ∧ reason = .workspace failure ∧
      (ensureDirectory tree "object" parent).outcome = .error failure ∧
      (prepareParent tree destination).tree = (ensureDirectory tree "object" parent).tree := by
  unfold prepareParent at failed ⊢
  cases above : destination.parent? with
  | none =>
      rw [above] at failed
      cases failed
  | some parent =>
      rw [above] at failed
      dsimp only at failed
      rw [Activity.outcome_map, Activity.outcome_mapFailure] at failed
      cases ended : (ensureDirectory tree "object" parent).outcome with
      | ok made =>
          rw [ended] at failed
          cases failed
      | error failure =>
          rw [ended] at failed
          cases failed
          exact ⟨parent, failure, rfl, rfl, ended, rfl⟩

/-- A refusal is what the transfer fails with, or it is not heard of because a read fails first. -/
theorem failure_of_refusal {reader : Nat → Download} {place : Location} {created : FileTree}
    {fault : WriteFault} (safe : isSafeKey key = true) (opened : store.get bucket key = .ok reader)
    (ready : (prepareParent tree (base.join key)).outcome = .ok ())
    (creation : (prepareParent tree (base.join key)).tree.createFile (base.join key) =
      .ok (place, created))
    (refused : medium place (reader chunkSize).chunks = some fault) :
    ∃ asked file,
      calls (chunkEntries key (fault.asked (reader chunkSize))) = chunkCalls key asked ∧
      Failure store medium bucket base tree key
        (refusal key (base.join key) (reader chunkSize) fault) (openCalls bucket key asked) file
        (created.put place (.file (fault.left (reader chunkSize)))) := by
  unfold refusal
  cases broken : (reader chunkSize).fault with
  | none =>
      exact ⟨_, _, calls_chunkEntries _ _,
        .unwritten safe opened ready creation refused (Or.inl broken)⟩
  | some reason =>
      cases shows : fault.showsEarly (reader chunkSize) with
      | true =>
          exact ⟨_, _, calls_chunkEntries _ _,
            .unwritten safe opened ready creation refused (Or.inr shows)⟩
      | false =>
          refine ⟨_, _, ?_, .unheard safe opened ready creation refused shows broken⟩
          rw [calls_chunkEntries, asked_of_late shows]

/-- A transfer that fails has asked for some chunks, and leaves what they say. -/
theorem failure_of_transfer {reader : Nat → Download} (safe : isSafeKey key = true)
    (opened : store.get bucket key = .ok reader)
    (failed : (transfer tree key (base.join key) (reader chunkSize) medium).outcome =
      .error reason) :
    ∃ asked file,
      calls (transfer tree key (base.join key) (reader chunkSize) medium).journal =
        chunkCalls key asked ∧
      Failure store medium bucket base tree key reason (openCalls bucket key asked) file
        (transfer tree key (base.join key) (reader chunkSize) medium).tree := by
  have silent := calls_prepareParent tree (base.join key)
  unfold transfer at failed ⊢
  cases prepared : (prepareParent tree (base.join key)).outcome with
  | error fault =>
      rw [Activity.andThen_of_error _ prepared] at failed ⊢
      cases failed
      obtain ⟨parent, failure, above, rfl, unready, left⟩ := parent_of_unready prepared
      refine ⟨[], none, silent, ?_⟩
      dsimp only
      rw [left]
      exact .unprepared safe opened above unready
  | ok ready =>
      rw [Activity.andThen_of_ok _ prepared] at failed ⊢
      simp only [Activity.journal_after, Activity.outcome_after, Activity.tree_after, calls_append,
        silent, List.nil_append] at failed ⊢
      cases creation : (prepareParent tree (base.join key)).tree.createFile (base.join key) with
      | error fault =>
          simp only [creation] at failed ⊢
          cases failed
          exact ⟨[], none, rfl, .uncreated safe opened prepared creation⟩
      | ok file =>
          obtain ⟨place, created⟩ := file
          simp only [creation] at failed ⊢
          cases refused : medium place (reader chunkSize).chunks with
          | some fault =>
              simp only [refused] at failed ⊢
              cases failed
              exact failure_of_refusal safe opened prepared creation refused
          | none =>
              simp only [refused] at failed ⊢
              cases broken : (reader chunkSize).fault with
              | none =>
                  rw [broken] at failed
                  cases failed
              | some fault =>
                  rw [broken] at failed
                  cases failed
                  exact ⟨(reader chunkSize).chunks, _, calls_chunkEntries _ _,
                    .unread safe opened prepared creation refused broken⟩

theorem failure_of_error {object : ObjectRef}
    (failed : (stageObject store times bucket base tree object medium).outcome = .error reason) :
    ∃ file, Failure store medium bucket base tree object.key reason
      (calls (stageObject store times bucket base tree object medium).journal) file
      (stageObject store times bucket base tree object medium).tree := by
  unfold stageObject at failed ⊢
  cases destined : destination? base object.key with
  | none =>
      simp only [destined] at failed ⊢
      cases failed
      refine ⟨none, .escaping ?_⟩
      unfold destination? at destined
      split_ifs at destined with safe
      exact Bool.eq_false_iff.mpr safe
  | some destination =>
      have safe : isSafeKey object.key = true := by
        unfold destination? at destined
        split_ifs at destined with safe
        exact safe
      obtain rfl := eq_join_of_destination destined
      cases opened : store.get bucket object.key with
      | error fault =>
          simp only [destined, opened] at failed ⊢
          cases failed
          exact ⟨none, .unopened safe opened⟩
      | ok reader =>
          simp only [destined, opened] at failed ⊢
          cases ended : (transfer tree object.key (base.join object.key) (reader chunkSize)
              medium).outcome with
          | ok size =>
              rw [Activity.andThen_of_ok _ (by simpa using ended)] at failed
              cases failed
          | error fault =>
              rw [Activity.andThen_of_error _ (by simpa using ended)] at failed ⊢
              cases failed
              obtain ⟨asked, file, taken, failure⟩ := failure_of_transfer safe opened ended
              refine ⟨file, ?_⟩
              simpa [taken, openCalls] using failure

/-- The file that a failure leaves is the last one that was written, and is found as it was left. -/
theorem Failure.writes {made : List Call} {file : Option WrittenFile}
    (failure : Failure store medium bucket base tree key reason made file after) :
    Edits anywhere (Places file.toList) tree after ∧ Kept base after file.toList := by
  cases failure with
  | escaping | unopened => exact ⟨.refl tree, True.intro⟩
  | unprepared safe opened above failed =>
      refine ⟨?_, True.intro⟩
      exact (edits_ensureDirectory tree "object" _).mono (fun _ => id) fun _ => False.elim
  | uncreated safe opened ready closed =>
      refine ⟨?_, True.intro⟩
      exact (edits_ready tree _).mono (fun _ => id) fun _ => False.elim
  | unread safe opened ready creation | unheard safe opened ready creation
  | unwritten safe opened ready creation =>
      obtain ⟨edits, leads⟩ := writes_of_creation _ creation
      exact ⟨edits.mono (fun _ => id) (Places.head ⟨key, _, _⟩ []), .single leads⟩

/-- A listing whose staging fails has a first object that fails.  Those before it were staged as if
they were all there is, and nothing was done for those after it. -/
theorem exists_first_failure (objects : List ObjectRef) {tree : FileTree}
    (failed : (stageObjects store times bucket base ignoreManifests tree objects medium).outcome =
      .error reason) :
    ∃ front object back summary, objects = front ++ object :: back ∧
      treatment ignoreManifests object.key = .stage ∧
      let before := stageObjects store times bucket base ignoreManifests tree front medium
      let broken := stageObject store times bucket base before.tree object medium
      let whole := stageObjects store times bucket base ignoreManifests tree objects medium
      before.outcome = .ok summary ∧ broken.outcome = .error reason ∧
        calls whole.journal = calls before.journal ++ calls broken.journal ∧
        whole.tree = broken.tree := by
  induction objects generalizing tree with
  | nil => cases failed
  | cons first others ih =>
      -- What is passed over or staged before the failing object goes in front of it.
      cases kind : treatment ignoreManifests first.key with
      | skip =>
          simp only [stageObjects, kind, Activity.outcome_after, Activity.outcome_map] at failed
          obtain ⟨front, object, back, summary, rfl, staged, fine, broken, made, left⟩ :=
            ih (error_of_map_error failed)
          refine ⟨first :: front, object, back, summary.skip first.key, rfl, staged, ?_⟩
          simp only [stageObjects, kind]
          simp only [Activity.outcome_after, Activity.outcome_map, Activity.journal_after,
            Activity.journal_map, Activity.tree_after, Activity.tree_map]
          exact ⟨by rw [fine]; rfl, broken, made, left⟩
      | marker =>
          simp only [stageObjects, kind, Activity.outcome_after] at failed
          obtain ⟨front, object, back, summary, rfl, staged, fine, broken, made, left⟩ := ih failed
          refine ⟨first :: front, object, back, summary, rfl, staged, ?_⟩
          simp only [stageObjects, kind]
          exact ⟨fine, broken, made, left⟩
      | stage =>
          cases ended : (stageObject store times bucket base tree first medium).outcome with
          | error fault =>
              simp only [stageObjects, kind] at failed ⊢
              rw [Activity.andThen_of_error _ ended] at failed ⊢
              cases failed
              exact ⟨[], first, others, {}, rfl, kind, rfl, ended, rfl, rfl⟩
          | ok landed =>
              simp only [stageObjects, kind] at failed
              rw [Activity.andThen_of_ok _ ended] at failed
              obtain ⟨front, object, back, summary, rfl, staged, fine, broken, made, left⟩ :=
                ih (error_of_map_error failed)
              refine ⟨first :: front, object, back, summary.stage landed, rfl, staged, ?_⟩
              simp only [stageObjects, kind]
              rw [Activity.andThen_of_ok _ ended, Activity.andThen_of_ok _ ended]
              simp only [Activity.outcome_after, Activity.outcome_map, Activity.journal_after,
                Activity.journal_map, Activity.tree_after, Activity.tree_map, calls_append]
              exact ⟨by rw [fine]; rfl, broken, by rw [made, List.append_assoc], left⟩

/-! ## A payload -/

theorem stagePayload_of_error (listed : store.list bucket payloadId = .ok objects)
    (failed : (stagePayload store times bucket payloadId base ignoreManifests tree
      medium).outcome = .error reason) :
    let work := stageObjects store times bucket base ignoreManifests tree objects medium
    let whole := stagePayload store times bucket payloadId base ignoreManifests tree medium
    work.outcome = .error reason ∧
      calls whole.journal = .list bucket payloadId :: calls work.journal ∧
      whole.tree = work.tree := by
  unfold stagePayload at failed ⊢
  simp only [listed] at failed ⊢
  cases ended : (stageObjects store times bucket base ignoreManifests tree objects
      medium).outcome with
  | ok summary =>
      rw [Activity.andThen_of_ok _ (by simpa using ended)] at failed
      cases failed
  | error fault =>
      rw [Activity.andThen_of_error _ (by simpa using ended)] at failed ⊢
      exact ⟨failed, rfl, rfl⟩

end Stagehand.Staging
