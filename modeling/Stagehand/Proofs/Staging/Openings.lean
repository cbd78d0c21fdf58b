import Stagehand.Proofs.Staging.Files

/-! # Where a staging opens its files

An object whose path is safe and which the store hands out has its directory made ready and its file
created at a place.  These places are all that a staging writes to.
-/

set_option autoImplicit false

namespace Stagehand.Staging

open FileTree Stagehand.Path

variable {store : Store} {times : DownloadTimes} {bucket : String} {base path : Path}
  {ignoreManifests : Bool} {tree ready after : FileTree} {location place : Location}
  {object : ObjectRef} {objects others : List ObjectRef} {medium : Medium}

/-! ## One object -/

/-- With its directory ready, the file of an object is created at a place. -/
structure Lands (tree : FileTree) (path : Path) (ready : FileTree) (place : Location) : Prop where
  prepared : (prepareParent tree path).outcome = .ok ()
  leaves : (prepareParent tree path).tree = ready
  created : ready.createFile path = .ok (place, ready.put place (.file []))

theorem transfer_of_lands (lands : Lands tree path ready place) (key : String)
    (download : Download) (medium : Medium) :
    let work := transfer tree key path download medium
    (∃ content, work.tree = ready.put place (.file content)) ∧
      (medium = .sound → download.fault = none → work.outcome = .ok download.size) := by
  unfold transfer
  rw [Activity.andThen_of_ok _ lands.prepared, lands.leaves]
  simp only [lands.created, put_put, Activity.tree_after, Activity.outcome_after]
  constructor
  · cases medium place download.chunks with
    | none => exact ⟨_, rfl⟩
    | some fault => exact ⟨_, rfl⟩
  · rintro rfl unbroken
    simp only [Medium.sound, unbroken]

theorem lands_of_ok {key : String} {download : Download} {size : Nat}
    (success : (transfer tree key path download medium).outcome = .ok size) :
    ∃ ready place, Lands tree path ready place ∧
      (transfer tree key path download medium).tree =
        ready.put place (.file download.content) := by
  obtain ⟨place, created, prepared, creation, -, -, -, left, -⟩ := transfer_of_ok success
  have same := (createFile_holds creation).1
  rw [same, put_put] at left
  exact ⟨_, place, ⟨prepared, rfl, same ▸ creation⟩, left⟩

variable (store times bucket) in
/-- An object of which it is known where it lands is not touched, or a file is left there. -/
theorem stageObject_of_lands (safe : destination? base object.key = some path)
    (lands : Lands tree path ready place) (medium : Medium) :
    let work := stageObject store times bucket base tree object medium
    ((∃ reason, work.outcome = .error reason) ∧ work.tree = tree ∨
      ∃ content, work.tree = ready.put place (.file content)) ∧
    (medium = .sound → store.HandsOut bucket object.key → ∃ staged, work.outcome = .ok staged) := by
  unfold stageObject
  rw [safe]
  cases opened : store.get bucket object.key with
  | error reason =>
      refine ⟨Or.inl ⟨⟨_, rfl⟩, rfl⟩, ?_⟩
      rintro - ⟨reader, handed, -⟩
      rw [opened] at handed
      cases handed
  | ok reader =>
      obtain ⟨written, fine⟩ := transfer_of_lands lands object.key (reader chunkSize) medium
      dsimp only
      constructor
      · right
        cases ended : (transfer tree object.key path (reader chunkSize) medium).outcome with
        | error reason => rwa [Activity.andThen_of_error _ (by simpa using ended)]
        | ok size => rwa [Activity.andThen_of_ok _ (by simpa using ended)]
      · rintro rfl ⟨_, handed, unbroken⟩
        cases opened.symm.trans handed
        rw [Activity.andThen_of_ok _ (by simpa using fine rfl unbroken)]
        exact ⟨_, rfl⟩

theorem lands_of_staged {written : StagedObject}
    (landed : (stageObject store times bucket base tree object medium).outcome = .ok written) :
    ∃ path ready place content, destination? base object.key = some path ∧
      Lands tree path ready place ∧
      (stageObject store times bucket base tree object medium).tree =
        ready.put place (.file content) ∧
      (ready.put place (.file content)).find (base.join object.key) =
        .ok (place, .file content) := by
  obtain ⟨path, reader, safe, opened, ended, -, -, same⟩ := stageObject_of_ok landed
  obtain ⟨ready, place, lands, left⟩ := lands_of_ok ended
  have leads := (edits_written (reader chunkSize).content lands.created).2
  rw [put_put, eq_join_of_destination safe] at leads
  exact ⟨path, ready, place, _, safe, lands, same.trans left, leads⟩

/-- An object that is handed out has its file created at a place. -/
def Creates (store : Store) (bucket : String) (base : Path) (tree : FileTree) (object : ObjectRef)
    (place : Location) : Prop :=
  ∃ path ready reader, destination? base object.key = some path ∧
    store.get bucket object.key = .ok reader ∧ Lands tree path ready place

/-- An object that is staged has its file created where its path leads afterwards. -/
theorem creates_of_staged {written : StagedObject} {content : Bytes}
    (landed : (stageObject store times bucket base tree object medium).outcome = .ok written)
    (leads : (stageObject store times bucket base tree object medium).tree.find
      (base.join object.key) = .ok (place, .file content)) :
    Creates store bucket base tree object place := by
  obtain ⟨path, ready, there, held, safe, lands, same, leadsThere⟩ := lands_of_staged landed
  obtain ⟨-, reader, -, opened, -⟩ := stageObject_of_ok landed
  rw [same, leadsThere] at leads
  obtain ⟨rfl, -⟩ := Prod.mk.inj (Except.ok.inj leads)
  exact ⟨path, ready, reader, safe, opened, lands⟩

theorem edits_transfer_lands (tree : FileTree) (key : String) (path : Path) (download : Download)
    (medium : Medium) :
    Edits anywhere (fun place => ∃ ready, Lands tree path ready place) tree
      (transfer tree key path download medium).tree := by
  have readied : Edits anywhere (fun place => ∃ ready, Lands tree path ready place) tree
      (prepareParent tree path).tree :=
    (edits_ready tree path).mono (fun _ => id) fun _ => False.elim
  cases prepared : (prepareParent tree path).outcome with
  | error reason =>
      unfold transfer
      rwa [Activity.andThen_of_error _ prepared]
  | ok done =>
      cases creation : (prepareParent tree path).tree.createFile path with
      | error reason =>
          unfold transfer
          rw [Activity.andThen_of_ok _ prepared, Activity.tree_after, creation]
          exact readied
      | ok file =>
          obtain ⟨place, created⟩ := file
          obtain ⟨same, -, writable, -⟩ := createFile_holds creation
          have lands : Lands tree path _ place := ⟨prepared, rfl, same ▸ creation⟩
          obtain ⟨⟨content, put⟩, -⟩ := transfer_of_lands lands key download medium
          rw [put]
          exact readied.trans (.put_file ⟨_, lands⟩ content writable)

variable (store times bucket base) in
theorem edits_stageObject_creates (tree : FileTree) (object : ObjectRef) (medium : Medium) :
    Edits anywhere (Creates store bucket base tree object) tree
      (stageObject store times bucket base tree object medium).tree := by
  unfold stageObject
  cases safe : destination? base object.key with
  | none => exact .refl tree
  | some path =>
      cases opened : store.get bucket object.key with
      | error reason => exact .refl tree
      | ok reader =>
          have edits : Edits anywhere (Creates store bucket base tree object) tree
              (transfer tree object.key path (reader chunkSize) medium).tree :=
            (edits_transfer_lands tree object.key path (reader chunkSize) medium).mono
              (fun _ => id) fun _ ⟨ready, lands⟩ => ⟨path, ready, reader, safe, opened, lands⟩
          dsimp only
          cases ended : (transfer tree object.key path (reader chunkSize) medium).outcome with
          | error reason => rwa [Activity.andThen_of_error _ (by simpa using ended)]
          | ok size => rwa [Activity.andThen_of_ok _ (by simpa using ended)]

/-! ## A listing -/

/-- In the course of staging a listing a file is created at a place. -/
inductive Opens (store : Store) (times : DownloadTimes) (bucket : String) (base : Path)
    (ignoreManifests : Bool) (medium : Medium) : FileTree → List ObjectRef → Location → Prop
  | here {tree : FileTree} {object : ObjectRef} {others : List ObjectRef} {place : Location}
      (kind : treatment ignoreManifests object.key = .stage)
      (creates : Creates store bucket base tree object place) :
      Opens store times bucket base ignoreManifests medium tree (object :: others) place
  | passed {tree : FileTree} {object : ObjectRef} {others : List ObjectRef} {place : Location}
      (kind : treatment ignoreManifests object.key ≠ .stage)
      (rest : Opens store times bucket base ignoreManifests medium tree others place) :
      Opens store times bucket base ignoreManifests medium tree (object :: others) place
  | later {tree : FileTree} {object : ObjectRef} {others : List ObjectRef} {place : Location}
      {written : StagedObject} (kind : treatment ignoreManifests object.key = .stage)
      (landed : (stageObject store times bucket base tree object medium).outcome = .ok written)
      (rest : Opens store times bucket base ignoreManifests medium
        (stageObject store times bucket base tree object medium).tree others place) :
      Opens store times bucket base ignoreManifests medium tree (object :: others) place

variable (store times bucket base ignoreManifests) in
/-- Nothing but directories is added elsewhere, and nothing else is written to. -/
theorem edits_stageObjects_opens (tree : FileTree) (objects : List ObjectRef) (medium : Medium) :
    Edits anywhere (Opens store times bucket base ignoreManifests medium tree objects) tree
      (stageObjects store times bucket base ignoreManifests tree objects medium).tree := by
  induction objects generalizing tree with
  | nil => exact .refl tree
  | cons object others ih =>
      rw [stageObjects]
      cases kind : treatment ignoreManifests object.key with
      | skip =>
          exact (ih tree).mono (fun _ => id) fun _ => .passed (by rw [kind]; decide)
      | marker =>
          exact (ih tree).mono (fun _ => id) fun _ => .passed (by rw [kind]; decide)
      | stage =>
          have first := (edits_stageObject_creates store times bucket base tree object medium).mono
            (fun _ => id) fun place creates =>
              (.here kind creates : Opens store times bucket base ignoreManifests medium tree
                (object :: others) place)
          dsimp only
          cases ended : (stageObject store times bucket base tree object medium).outcome with
          | error reason => rwa [Activity.andThen_of_error _ ended]
          | ok staged =>
              rw [Activity.andThen_of_ok _ ended]
              exact first.trans ((ih _).mono (fun _ => id) fun _ => .later kind ended)

theorem edits_stagePayload_opens (store : Store) (times : DownloadTimes) (bucket payloadId : String)
    (base : Path) (ignoreManifests : Bool) (tree : FileTree) (medium : Medium) :
    Edits anywhere (fun place => ∃ objects, store.list bucket payloadId = .ok objects ∧
        Opens store times bucket base ignoreManifests medium tree objects place) tree
      (stagePayload store times bucket payloadId base ignoreManifests tree medium).tree := by
  unfold stagePayload
  cases store.list bucket payloadId with
  | error reason => exact .refl tree
  | ok objects =>
      have edits := (edits_stageObjects_opens store times bucket base ignoreManifests tree objects
        medium).mono (fun _ => id) fun place opens =>
          (⟨objects, rfl, opens⟩ : ∃ listed, (.ok objects : Except StoreError _) = .ok listed ∧
            Opens store times bucket base ignoreManifests medium tree listed place)
      dsimp only
      cases ended : (stageObjects store times bucket base ignoreManifests tree objects
          medium).outcome with
      | error reason => rwa [Activity.andThen_of_error _ (by simpa using ended)]
      | ok summary => rwa [Activity.andThen_of_ok _ (by simpa using ended)]

section

variable (found : tree.find base = .ok (location, .directory))
  (linkFree : tree.LinkFreeBelow location)

include found linkFree

theorem Creates.inside (kind : treatment ignoreManifests object.key = .stage)
    (creates : Creates store bucket base tree object place) : Inside location place := by
  obtain ⟨path, ready, reader, safe, -, -, rfl, created⟩ := creates
  have below := below_of_destination found kind safe
  have edits := edits_prepareParent found below linkFree
  obtain ⟨spelled, -⟩ :=
    createFile_of_ok (edits.find found) below (edits.linkFreeBelow linkFree) created
  exact ⟨_, below.down.names_ne_nil, spelled⟩

/-- Below an input directory without links every file is created inside it. -/
theorem Opens.inside
    (opens : Opens store times bucket base ignoreManifests medium tree objects place) :
    Inside location place := by
  induction opens with
  | here kind creates => exact creates.inside found linkFree kind
  | passed kind rest ih => exact ih found linkFree
  | @later tree object others place written kind landed rest ih =>
      have edits := edits_stageObject_creates store times bucket base tree object medium
      exact ih (edits.find found) (edits.linkFreeBelow linkFree)

end

end Stagehand.Staging
