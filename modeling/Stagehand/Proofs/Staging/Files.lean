import Stagehand.Proofs.FileTree.Repetition
import Stagehand.Proofs.Staging.Content

/-! # The files that a staging writes

In any tree, links or not, each object that is staged has its file at the place that its path leads
to.  The path leads there from then on, and the file keeps what was written until another object of
the staging is written to the same place.
-/

set_option autoImplicit false

namespace Stagehand

open FileTree Stagehand.Path

namespace Staging

variable {store : Store} {times : DownloadTimes} {bucket : String} {base path : Path}
  {ignoreManifests : Bool} {tree middle after : FileTree} {objects : List ObjectRef}
  {medium : Medium}

theorem edits_ready (tree : FileTree) (destination : Path) :
    Edits anywhere nowhere tree (prepareParent tree destination).tree := by
  unfold prepareParent
  cases destination.parent? with
  | none => exact .refl tree
  | some parent => exact edits_ensureDirectory tree "object" parent

/-! ## Files that stay -/

/-- A file of a staging: the key of its object, its place, and what was written. -/
structure WrittenFile where
  key : String
  place : Location
  content : Bytes

/-- The path of each file leads to its place, and the file holds what was written to it unless a later
one of the list has the same place. -/
def Kept (base : Path) (after : FileTree) : List WrittenFile → Prop
  | [] => True
  | file :: later =>
      (∃ now, after.find (base.join file.key) = .ok (file.place, .file now) ∧
        ((∀ other ∈ later, other.place ≠ file.place) → now = file.content)) ∧
      Kept base after later

/-- The places of some files. -/
def Places (files : List WrittenFile) (place : Location) : Prop :=
  ∃ file ∈ files, file.place = place

theorem Places.head (file : WrittenFile) (files : List WrittenFile) (place : Location)
    (same : place = file.place) : Places (file :: files) place :=
  ⟨file, List.mem_cons_self, same.symm⟩

theorem Places.left (front back : List WrittenFile) (place : Location)
    (written : Places front place) : Places (front ++ back) place := by
  obtain ⟨file, member, same⟩ := written
  exact ⟨file, List.mem_append_left _ member, same⟩

theorem Places.right (front back : List WrittenFile) (place : Location)
    (written : Places back place) : Places (front ++ back) place := by
  obtain ⟨file, member, same⟩ := written
  exact ⟨file, List.mem_append_right _ member, same⟩

theorem Kept.single {file : WrittenFile}
    (leads : after.find (base.join file.key) = .ok (file.place, .file file.content)) :
    Kept base after [file] :=
  ⟨⟨file.content, leads, fun _ => rfl⟩, True.intro⟩

theorem Kept.at_split {files front later : List WrittenFile} {file : WrittenFile}
    (kept : Kept base after files) (split : files = front ++ file :: later) :
    ∃ now, after.find (base.join file.key) = .ok (file.place, .file now) ∧
      ((∀ other ∈ later, other.place ≠ file.place) → now = file.content) := by
  induction front generalizing files with
  | nil =>
      subst split
      exact kept.1
  | cons first more ih =>
      subst split
      exact ih kept.2 rfl

/-- Files stay where they are while others are written after them. -/
theorem Kept.append {front back : List WrittenFile} (kept : Kept base middle front)
    (edits : Edits anywhere (Places back) middle after) (later : Kept base after back) :
    Kept base after (front ++ back) := by
  induction front with
  | nil => exact later
  | cons file more ih =>
      obtain ⟨⟨old, found, held⟩, rest⟩ := kept
      refine ⟨?_, ih rest⟩
      obtain ⟨now, leads, stands⟩ := edits.find_file found
      refine ⟨now, leads, ?_⟩
      intro alone
      have stood : middle.at? file.place = some (.file old) :=
        holds_of_resolve (.file old) (find_eq_ok_iff.mp found)
      have unwritten : ¬ Places back file.place := by
        rintro ⟨other, member, same⟩
        exact alone other (List.mem_append_right _ member) same
      have kept := edits.file_unwritten stood unwritten
      rw [stands] at kept
      cases kept
      exact held fun other member => alone other (List.mem_append_left _ member)

/-! ## One object -/

/-- What is written to the place of an object, once its directory is ready, is found there. -/
theorem writes_of_creation {place : Location} {created : FileTree} (content : Bytes)
    (creation : (prepareParent tree path).tree.createFile path = .ok (place, created)) :
    Edits anywhere (· = place) tree (created.put place (.file content)) ∧
      (created.put place (.file content)).find path = .ok (place, .file content) := by
  have above : Edits anywhere (· = place) tree (prepareParent tree path).tree :=
    (edits_ready tree path).mono (fun _ => id) fun _ => False.elim
  obtain ⟨edits, leads⟩ := edits_written content creation
  exact ⟨above.trans edits, leads⟩

theorem stageObject_writes {object : ObjectRef} {staged : StagedObject}
    (success : (stageObject store times bucket base tree object medium).outcome = .ok staged) :
    ∃ place,
      Edits anywhere (· = place) tree
        (stageObject store times bucket base tree object medium).tree ∧
      (stageObject store times bucket base tree object medium).tree.find (base.join object.key) =
        .ok (place, .file (contentOf store bucket object.key)) := by
  obtain ⟨destination, reader, safe, opened, ended, -, -, same⟩ := stageObject_of_ok success
  obtain ⟨place, created, -, creation, -, -, -, left, -⟩ := transfer_of_ok ended
  have content : contentOf store bucket object.key = (reader chunkSize).content := by
    simp only [contentOf, opened]
  rw [same, left, content, ← eq_join_of_destination safe]
  exact ⟨place, writes_of_creation (reader chunkSize).content creation⟩

/-! ## A listing -/

/-- A listing that is staged to its end has written one file for each key, in the order listed. -/
theorem Stages.files_of_ok {outcome : Except StagingError StagingSummary} {made : List Call}
    (run : Stages store times bucket base ignoreManifests medium tree objects outcome made after)
    {summary : StagingSummary} (success : outcome = .ok summary) :
    ∃ files, files.map WrittenFile.key = stagedKeys ignoreManifests objects ∧
      (∀ file ∈ files, file.content = contentOf store bucket file.key) ∧
      Edits anywhere (Places files) tree after ∧ Kept base after files := by
  induction run generalizing summary with
  | finished =>
      exact ⟨[], rfl, by simp, .refl _, True.intro⟩
  | skipped kind rest ih =>
      obtain ⟨inner, fine⟩ := ok_of_map_ok success
      rw [stagedKeys_cons, kind]
      exact ih fine
  | passed kind rest ih =>
      rw [stagedKeys_cons, kind]
      exact ih success
  | failed => cases success
  | @staged tree after object others outcome made written kind landed rest ih =>
      obtain ⟨inner, fine⟩ := ok_of_map_ok success
      obtain ⟨files, keys, contents, edits, kept⟩ := ih fine
      obtain ⟨place, writes, leads⟩ := stageObject_writes landed
      let file : WrittenFile := ⟨object.key, place, contentOf store bucket object.key⟩
      have first := @Kept.single base _ file leads
      refine ⟨file :: files, ?_, ?_, ?_, first.append edits kept⟩
      · rw [stagedKeys_cons, if_pos kind, List.map_cons, keys]
      · intro other member
        rcases List.mem_cons.mp member with rfl | member
        · rfl
        · exact contents other member
      · have here : Edits anywhere (Places (file :: files)) tree _ :=
          writes.mono (fun _ => id) (Places.head file files)
        have there : Edits anywhere (Places (file :: files)) _ after :=
          edits.mono (fun _ => id) (Places.right [file] files)
        exact here.trans there

end Staging
end Stagehand
