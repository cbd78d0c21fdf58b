import Stagehand.Proofs.Staging.Files
import Stagehand.Rehearsal.Dispatcher

/-! # A staging that succeeds

A staging without a failure, which the medium did not disturb, sorts the listing into what it passes
over, the placeholders of directories, and what it stages; it reports each of them in the order of the
listing, and it leaves the tree as the staged keys say: the last object that goes to a place is there
as a whole, with the directories above it, and nothing else is different.
-/

set_option autoImplicit false

namespace Stagehand.Staging

open FileTree Stagehand.Path

variable {store : Store} {times : DownloadTimes} {bucket payloadId : String} {base : Path}
  {ignoreManifests : Bool} {tree after : FileTree} {objects : List ObjectRef} {medium : Medium}
  {summary : StagingSummary} {location : Location}

/-! ## The report -/

theorem treatment_cases (ignoreManifests : Bool) (key : String) :
    (treatment ignoreManifests key = .skip ∧ ignoreManifests = true ∧
      manifestEnding.toList <:+ key.toList) ∨
    (treatment ignoreManifests key = .marker ∧
      ¬ (ignoreManifests = true ∧ manifestEnding.toList <:+ key.toList) ∧
      key.toList.getLast? = some '/') ∨
    (treatment ignoreManifests key = .stage ∧
      ¬ (ignoreManifests = true ∧ manifestEnding.toList <:+ key.toList) ∧
      key.toList.getLast? ≠ some '/') := by
  have ends : manifestEnding.toList.isSuffixOf key.toList = true ↔
      manifestEnding.toList <:+ key.toList := List.isSuffixOf_iff_suffix
  unfold treatment
  split_ifs with manifest marker
  · rw [Bool.and_eq_true, ends] at manifest
    exact Or.inl ⟨rfl, manifest⟩
  · rw [Bool.and_eq_true, ends] at manifest
    exact Or.inr (Or.inl ⟨rfl, manifest, marker⟩)
  · rw [Bool.and_eq_true, ends] at manifest
    exact Or.inr (Or.inr ⟨rfl, manifest, marker⟩)

/-- The keys of a listing that are passed over, in its order. -/
def skippedKeys (ignoreManifests : Bool) (objects : List ObjectRef) : List String :=
  (objects.map ObjectRef.key).filter fun key => treatment ignoreManifests key = .skip

/-- What is reported of an object that was staged. -/
def stagedAs (store : Store) (bucket : String) (base : Path) (key : String) : StagedObject :=
  ⟨key, base.join key, (contentOf store bucket key).length⟩

theorem skippedKeys_cons (ignoreManifests : Bool) (object : ObjectRef) (others : List ObjectRef) :
    skippedKeys ignoreManifests (object :: others) =
      if treatment ignoreManifests object.key = .skip then
        object.key :: skippedKeys ignoreManifests others
      else skippedKeys ignoreManifests others := by
  simp only [skippedKeys, List.map_cons, List.filter_cons, decide_eq_true_eq]

/-- The listed objects that are staged or passed over as manifests.  Placeholders of directories do
not count. -/
def countedObjects (ignoreManifests : Bool) (objects : List ObjectRef) : Nat :=
  objects.countP fun object => treatment ignoreManifests object.key ≠ .marker

theorem length_stagedKeys_add (ignoreManifests : Bool) (objects : List ObjectRef) :
    (stagedKeys ignoreManifests objects).length + (skippedKeys ignoreManifests objects).length =
      countedObjects ignoreManifests objects := by
  unfold countedObjects
  induction objects with
  | nil => rfl
  | cons object others ih =>
      rw [stagedKeys_cons, skippedKeys_cons, List.countP_cons, ← ih]
      cases treatment ignoreManifests object.key <;> simp <;> omega

theorem staged_of_ok {object : ObjectRef} {staged : StagedObject}
    (success : (stageObject store times bucket base tree object medium).outcome = .ok staged) :
    staged = stagedAs store bucket base object.key := by
  obtain ⟨destination, reader, place, opened, ended, key, path, -⟩ := stageObject_of_ok success
  obtain ⟨-, -, -, -, -, -, size, -⟩ := transfer_of_ok ended
  have spelled := eq_join_of_destination place
  have content : contentOf store bucket object.key = (reader chunkSize).content := by
    simp only [contentOf, opened]
  obtain ⟨stagedKey, stagedPath, bytes⟩ := staged
  simp only at key path size
  rw [stagedAs, content, Download.length_content, ← spelled, key, path, size]

/-- A staging that succeeds reports every object under its own treatment, in the order listed. -/
theorem Stages.summary_of_ok {outcome : Except StagingError StagingSummary} {made : List Call}
    (run : Stages store times bucket base ignoreManifests medium tree objects outcome made after)
    (success : outcome = .ok summary) :
    summary.skipped = skippedKeys ignoreManifests objects ∧
      summary.staged =
        (stagedKeys ignoreManifests objects).map (stagedAs store bucket base) := by
  induction run generalizing summary with
  | finished =>
      cases Except.ok.inj success
      exact ⟨rfl, rfl⟩
  | @skipped tree after object others outcome made kind rest ih =>
      obtain ⟨inner, fine⟩ := ok_of_map_ok success
      obtain ⟨skipped, staged⟩ := ih fine
      rw [fine] at success
      cases Except.ok.inj success
      rw [skippedKeys_cons, stagedKeys_cons, if_pos kind, if_neg (by rw [kind]; simp)]
      exact ⟨congrArg (object.key :: ·) skipped, staged⟩
  | @passed tree after object others outcome made kind rest ih =>
      rw [skippedKeys_cons, stagedKeys_cons, if_neg (by rw [kind]; simp),
        if_neg (by rw [kind]; simp)]
      exact ih success
  | failed => cases success
  | @staged tree after object others outcome made written kind landed rest ih =>
      obtain ⟨inner, fine⟩ := ok_of_map_ok success
      obtain ⟨skipped, staged⟩ := ih fine
      rw [fine] at success
      cases Except.ok.inj success
      rw [skippedKeys_cons, stagedKeys_cons, if_neg (by rw [kind]; simp), if_pos kind,
        List.map_cons, ← staged_of_ok landed]
      exact ⟨skipped, congrArg (written :: ·) staged⟩

/-! ## The tree -/

theorem exists_lastStaged {keys : List String} {key : String} (member : key ∈ keys) :
    ∃ last, lastStaged? keys (placeOf key) = some last := by
  cases written : lastStaged? keys (placeOf key) with
  | none => exact absurd rfl (lastStaged?_eq_none.mp written key member)
  | some last => exact ⟨last, rfl⟩

/-- The place of a staged object is not on the way to that of another: it holds a file. -/
theorem Stages.apart_of_ok {outcome : Except StagingError StagingSummary} {made : List Call}
    (run : Stages store times bucket base ignoreManifests medium tree objects outcome made after)
    (found : tree.find base = .ok (location, .directory)) (linkFree : tree.LinkFreeBelow location)
    (success : outcome = .ok summary) {first second : String}
    (memberFirst : first ∈ stagedKeys ignoreManifests objects)
    (memberSecond : second ∈ stagedKeys ignoreManifests objects)
    (starts : placeOf first <+: placeOf second) : placeOf first = placeOf second := by
  obtain ⟨holds, ways⟩ := run.holds_of_ok found linkFree success
  obtain ⟨last, written⟩ := exists_lastStaged memberFirst
  have file := holds _ _ written
  obtain ⟨rest, whole⟩ := starts
  -- On the way to the second place there are directories only.
  by_contra other
  have more : rest ≠ [] := by
    rintro rfl
    exact other (by rw [← whole, List.append_nil])
  have split : (placeOf second).dropLast = placeOf first ++ rest.dropLast := by
    rw [← whole, List.dropLast_append_of_ne_nil more]
  have nonempty : placeOf first ≠ [] := (ways first memberFirst).2.down.names_ne_nil
  rw [(ways second memberSecond).1.at?_eq split nonempty] at file
  cases file

/-- The path of a staged key leads to its place, and there is the content of the last object that went
there. -/
theorem Stages.find_of_ok {outcome : Except StagingError StagingSummary} {made : List Call}
    (run : Stages store times bucket base ignoreManifests medium tree objects outcome made after)
    (found : tree.find base = .ok (location, .directory)) (linkFree : tree.LinkFreeBelow location)
    (success : outcome = .ok summary) {key : String}
    (member : key ∈ stagedKeys ignoreManifests objects) :
    ∃ last, lastStaged? (stagedKeys ignoreManifests objects) (placeOf key) = some last ∧
      after.find (base.join key) =
        .ok (location ++ placeOf key, .file (contentOf store bucket last)) := by
  obtain ⟨holds, ways⟩ := run.holds_of_ok found linkFree success
  obtain ⟨last, written⟩ := exists_lastStaged member
  have edits := run.edits found linkFree
  obtain ⟨files, keys, -, -, kept⟩ := run.files_of_ok success
  rw [← keys] at member
  obtain ⟨file, listed, rfl⟩ := List.mem_map.mp member
  obtain ⟨front, later, split⟩ := List.append_of_mem listed
  obtain ⟨now, leads, -⟩ := kept.at_split split
  have resolved := find_eq_ok_iff.mp leads
  have below := (ways file.key (by rw [← keys]; exact member)).2
  obtain ⟨-, ends⟩ := ends_of_resolve (edits.find found) below (edits.linkFreeBelow linkFree) resolved
  have stands : after.at? file.place = some (.file now) :=
    holds_of_resolve (.file now) resolved
  have spelled : file.place = location ++ placeOf file.key := by
    generalize file.place = place at ends
    cases ends
    rfl
  refine ⟨last, written, ?_⟩
  rw [spelled, holds _ _ written] at stands
  rw [leads, spelled, Node.file.inj (Option.some.inj stands)]

/-- A staging that succeeds has sorted the whole listing into manifests to skip, placeholders of
directories, and objects to stage, and reports the first and the last of these in the order listed.
The path of each staged object leads to a file with the whole content of the last one that denotes
the same place.  These files and the directories above them are all that is different, and no staged
place lies above another. -/
theorem stagePayload_leaves_listing
    (found : tree.find base = .ok (location, .directory)) (linkFree : tree.LinkFreeBelow location)
    (success : (stagePayload store times bucket payloadId base ignoreManifests tree
      medium).outcome = .ok summary) :
    let after :=
      (stagePayload store times bucket payloadId base ignoreManifests tree medium).tree
    ∃ objects, store.list bucket payloadId = .ok objects ∧
      let keys := stagedKeys ignoreManifests objects
      (∀ object ∈ objects,
        let key := object.key
        let manifest := ignoreManifests = true ∧ manifestEnding.toList <:+ key.toList
        (treatment ignoreManifests key = .skip ∧ manifest) ∨
          (treatment ignoreManifests key = .marker ∧ ¬ manifest ∧
            key.toList.getLast? = some '/') ∨
          (treatment ignoreManifests key = .stage ∧ ¬ manifest ∧
            key.toList.getLast? ≠ some '/')) ∧
      summary.skipped = skippedKeys ignoreManifests objects ∧
      summary.staged = keys.map (stagedAs store bucket base) ∧
      (∀ key ∈ keys, store.HandsOut bucket key ∧ placeOf key ≠ [] ∧
        ∃ last, lastStaged? keys (placeOf key) = some last ∧
          after.find (base.join key) =
            .ok (location ++ placeOf key, .file (contentOf store bucket last))) ∧
      (∀ place, place ≠ [] → after.at? (location ++ place) =
        (stagedNode? store bucket keys place).or (tree.at? (location ++ place))) ∧
      (∀ place, ¬ Inside location place → after.at? place = tree.at? place) ∧
      Edits (Above location keys) (Among location keys) tree after ∧
      ∀ first ∈ keys, ∀ second ∈ keys, placeOf first <+: placeOf second →
        placeOf first = placeOf second := by
  obtain ⟨objects, listed, ended, left⟩ := stagePayload_of_ok success
  have run := @stages_stageObjects store times bucket base ignoreManifests medium objects tree
  dsimp only at run ⊢
  rw [left]
  obtain ⟨skipped, staged⟩ := run.summary_of_ok ended
  obtain ⟨handed, -⟩ := run.calls_of_ok ended
  obtain ⟨-, ways⟩ := run.holds_of_ok found linkFree ended
  have edits := run.edits found linkFree
  refine ⟨objects, listed, ?_, skipped, staged, ?_, ?_, ?_, edits, ?_⟩
  · intro object _
    exact treatment_cases ignoreManifests object.key
  · intro key member
    exact ⟨handed key member, (ways key member).2.down.names_ne_nil,
      run.find_of_ok found linkFree ended member⟩
  · intro place nonempty
    exact run.at?_of_ok found linkFree ended nonempty
  · intro place outside
    refine edits.at?_eq ?_ ?_
    · rintro ⟨key, _, front, nonempty, _, spelled⟩
      exact outside ⟨front, nonempty, spelled⟩
    · rintro ⟨key, _, nonempty, spelled⟩
      exact outside ⟨placeOf key, nonempty, spelled⟩
  · intro first memberFirst second memberSecond starts
    exact run.apart_of_ok found linkFree ended memberFirst memberSecond starts

/-- Two keys for one place, of which the second lands in a directory that was there, and a manifest. -/
theorem stagePayload_leaves_last_alias :
    let store : Rehearsal.ScriptedStore :=
      ⟨"data", [{ key := "p/a/b", content := [1] }, { key := "p/a/", content := [] },
        { key := "p/m.json", content := [] }, { key := "p//a/./b", content := [2, 3] }], none⟩
    let tree : FileTree := { nodes := [(["in"], .directory), (["in", "p"], .directory)] }
    let work := stagePayload store.toStore (fun _ => .zero) "data" "p" ⟨"/in"⟩ true tree .sound
    ∃ summary, work.outcome = .ok summary ∧ summary.skipped = ["p/m.json"] ∧
      summary.staged = [⟨"p/a/b", ⟨"/in/p/a/b"⟩, 1⟩, ⟨"p//a/./b", ⟨"/in/p//a/./b"⟩, 2⟩] ∧
      work.tree.find ⟨"/in/p/a/b"⟩ = .ok (["in", "p", "a", "b"], .file [2, 3]) := by
  intro store tree work
  have found : tree.find ⟨"/in"⟩ = .ok (["in"], .directory) := by decide +kernel
  have linkFree : tree.LinkFree := linkFree_of_nodes (by simp [tree])
  cases ended : work.outcome with
  | error reason =>
      have fine : work.outcome.isOk = true := by decide +kernel
      rw [ended] at fine
      cases fine
  | ok summary =>
      obtain ⟨objects, listed, -, skipped, staged, leads, -⟩ :=
        stagePayload_leaves_listing found (linkFree.below _) ended
      have listing : store.toStore.list "data" "p" =
          .ok [⟨"p/a/b", 1⟩, ⟨"p/a/", 0⟩, ⟨"p/m.json", 0⟩, ⟨"p//a/./b", 2⟩] := by decide +kernel
      rw [listing] at listed
      cases Except.ok.inj listed
      obtain ⟨-, -, last, chosen, there⟩ := leads "p/a/b" (by decide +kernel)
      refine ⟨summary, rfl, skipped.trans (by decide +kernel), staged.trans (by decide +kernel), ?_⟩
      refine there.trans ?_
      cases (show _ = some "p//a/./b" by decide +kernel).symm.trans chosen
      decide +kernel

end Stagehand.Staging
