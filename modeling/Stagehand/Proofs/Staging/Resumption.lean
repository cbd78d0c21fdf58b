import Stagehand.Proofs.FileTree.Repetition
import Stagehand.Proofs.FileTree.Rewrites
import Stagehand.Proofs.Staging.Complete
import Stagehand.Proofs.Staging.Openings

/-! # A staging that is taken up again

An attempt that broke off has left the directories and files of some first objects, the last file
perhaps in part.  The next attempt goes the same ways: it finds those directories, opens those files
at their places again and overwrites them, and goes on where nothing was done yet.
-/

set_option autoImplicit false

namespace Stagehand

open FileTree

theorem FileTree.Rewrites.ensureDirectory {files : Location → Prop} {before after : FileTree}
    (rewrites : Rewrites files before after) (purpose : String) (path : Path) :
    Rewrites files (ensureDirectory before purpose path).tree
        (ensureDirectory after purpose path).tree ∧
      (ensureDirectory after purpose path).outcome =
        (ensureDirectory before purpose path).outcome := by
  unfold Stagehand.ensureDirectory
  rcases rewrites.find path with same | ⟨place, old, new, led, leads⟩
  · rw [same]
    rcases before.find path with failure | ⟨place, _ | content | target⟩
    · dsimp only
      split_ifs
      · exact ⟨rewrites, rfl⟩
      · obtain ⟨made, ended⟩ := rewrites.makeAll path.ancestors
        unfold makeDirectories
        generalize before.makeAll path.ancestors = first at made ended ⊢
        generalize after.makeAll path.ancestors = second at made ended ⊢
        obtain ⟨first, reason | done⟩ := first
        · obtain ⟨second, _⟩ := second
          cases ended
          exact ⟨made, rfl⟩
        · obtain ⟨second, _⟩ := second
          cases ended
          exact ⟨made, rfl⟩
    · exact ⟨rewrites, rfl⟩
    · exact ⟨rewrites, rfl⟩
    · exact ⟨rewrites, rfl⟩
  · rw [led, leads]
    exact ⟨rewrites, rfl⟩

namespace Staging

variable {store other : Store} {times otherTimes : DownloadTimes} {bucket payloadId : String}
  {base path : Path} {ignoreManifests : Bool} {files : Location → Prop}
  {tree left ready after final : FileTree} {place : Location} {object : ObjectRef}
  {objects others : List ObjectRef} {medium : Medium} {summary : StagingSummary}

/-! ## One object -/

/-- The same work in a tree with other contents. -/
theorem Lands.rewritten (lands : Lands tree path ready place)
    (rewrites : Rewrites files tree left) :
    ∃ readied, Rewrites files ready readied ∧ Lands left path readied place := by
  obtain ⟨prepared, rfl, created⟩ := lands
  have readying : Rewrites files (prepareParent tree path).tree (prepareParent left path).tree ∧
      (prepareParent left path).outcome = (prepareParent tree path).outcome := by
    unfold prepareParent
    cases path.parent? with
    | none => exact ⟨rewrites, rfl⟩
    | some parent =>
        obtain ⟨made, ended⟩ := rewrites.ensureDirectory "object" parent
        refine ⟨made, ?_⟩
        simp only [Activity.outcome_map, Activity.outcome_mapFailure, ended]
  obtain ⟨readied, ended⟩ := readying
  exact ⟨_, readied, ended.trans prepared, rfl, readied.createFile created⟩

/-- The same work in a tree in which it is done already, and more. -/
theorem Lands.again {content : Bytes} {directories files : Location → Prop}
    (lands : Lands tree path ready place)
    (edits : Edits directories files (ready.put place (.file content)) left) :
    (∃ old, left.at? place = some (.file old)) ∧ Lands left path left place := by
  obtain ⟨prepared, rfl, created⟩ := lands
  obtain ⟨-, nonroot, writable, -⟩ := createFile_holds created
  have wide : Edits anywhere anywhere (prepareParent tree path).tree left :=
    (Edits.put_file True.intro content writable).trans
      (edits.mono (fun _ _ => True.intro) fun _ _ => True.intro)
  -- The file is there, and it makes no difference how much of it was written.
  have since : Edits anywhere anywhere ((prepareParent tree path).tree.put place (.file [])) left := by
    have stands := at?_put_self (prepareParent tree path).tree (.file []) nonroot
    have filled := @Edits.put_file anywhere anywhere _ place True.intro content
      (Or.inr ⟨_, stands⟩)
    rw [put_put] at filled
    exact filled.trans (edits.mono (fun _ _ => True.intro) fun _ _ => True.intro)
  obtain ⟨stands, creates⟩ := createFile_again created since
  have readied : (prepareParent left path).tree = left ∧
      (prepareParent left path).outcome = .ok () := by
    unfold prepareParent at prepared wide ⊢
    cases up : path.parent? with
    | none => exact ⟨rfl, rfl⟩
    | some parent =>
        simp only [up, Activity.outcome_map, Activity.outcome_mapFailure, Activity.tree_map,
          Activity.tree_mapFailure] at prepared wide ⊢
        cases ended : (ensureDirectory tree "object" parent).outcome with
        | error failure => rw [ended] at prepared; cases prepared
        | ok made =>
            obtain ⟨same, again, fine⟩ := ensureDirectory_again ended wide
            exact ⟨same, by rw [fine]; rfl⟩
  exact ⟨stands, readied.2, readied.1, creates⟩

/-! ## A listing -/

/-- Some first objects of a listing are staged, but for what their files hold. -/
def Ahead (store : Store) (times : DownloadTimes) (bucket : String) (base : Path)
    (ignoreManifests : Bool) (files : Location → Prop) (tree : FileTree)
    (objects : List ObjectRef) (left : FileTree) : Prop :=
  ∃ front, front <+: objects ∧
    Rewrites files (stageObjects store times bucket base ignoreManifests tree front .sound).tree left

theorem Ahead.rewritten
    (ahead : Ahead store times bucket base ignoreManifests files tree objects left)
    (rewrites : Rewrites files left after) :
    Ahead store times bucket base ignoreManifests files tree objects after := by
  obtain ⟨front, starts, first⟩ := ahead
  exact ⟨front, starts, first.trans rewrites⟩

theorem Ahead.edits (ahead : Ahead store times bucket base ignoreManifests files tree objects left) :
    Edits anywhere anywhere tree left := by
  obtain ⟨front, -, rewrites⟩ := ahead
  have first := edits_stageObjects_opens store times bucket base ignoreManifests tree front .sound
  exact (first.mono (fun _ => id) fun _ _ => True.intro).trans
    (rewrites.edits.mono (fun _ => id) fun _ _ => True.intro)

theorem ahead_of_rewrites (rewrites : Rewrites files tree left) :
    Ahead store times bucket base ignoreManifests files tree objects left :=
  ⟨[], List.nil_prefix, rewrites⟩

theorem tree_stageObjects_of_passed (kind : treatment ignoreManifests object.key ≠ .stage)
    (medium : Medium) :
    (stageObjects store times bucket base ignoreManifests tree (object :: others) medium).tree =
      (stageObjects store times bucket base ignoreManifests tree others medium).tree := by
  rw [stageObjects]
  cases treated : treatment ignoreManifests object.key with
  | skip => rfl
  | marker => rfl
  | stage => exact absurd treated kind

theorem ahead_cons_of_passed (kind : treatment ignoreManifests object.key ≠ .stage) :
    Ahead store times bucket base ignoreManifests files tree (object :: others) left ↔
      Ahead store times bucket base ignoreManifests files tree others left := by
  constructor
  · rintro ⟨front, starts, rewrites⟩
    rcases List.prefix_cons_iff.mp starts with rfl | ⟨more, rfl, fewer⟩
    · exact ahead_of_rewrites rewrites
    · rw [tree_stageObjects_of_passed kind] at rewrites
      exact ⟨more, fewer, rewrites⟩
  · rintro ⟨front, starts, rewrites⟩
    refine ⟨object :: front, List.cons_prefix_cons.mpr ⟨rfl, starts⟩, ?_⟩
    rwa [tree_stageObjects_of_passed kind]

section

variable {written : StagedObject} (kind : treatment ignoreManifests object.key = .stage)
  (landed : (stageObject store times bucket base tree object .sound).outcome = .ok written)

include kind landed

theorem ahead_cons_of_staged :
    Ahead store times bucket base ignoreManifests files tree (object :: others) left ↔
      Rewrites files tree left ∨ Ahead store times bucket base ignoreManifests files
        (stageObject store times bucket base tree object .sound).tree others left := by
  have cons (more : List ObjectRef) :
      (stageObjects store times bucket base ignoreManifests tree (object :: more) .sound).tree =
        (stageObjects store times bucket base ignoreManifests
          (stageObject store times bucket base tree object .sound).tree more .sound).tree := by
    rw [stageObjects, kind]
    dsimp only
    rw [Activity.andThen_of_ok _ landed]
    rfl
  constructor
  · rintro ⟨front, starts, rewrites⟩
    rcases List.prefix_cons_iff.mp starts with rfl | ⟨more, rfl, fewer⟩
    · exact Or.inl rewrites
    · rw [cons] at rewrites
      exact Or.inr ⟨more, fewer, rewrites⟩
  · rintro (rewrites | ⟨front, starts, rewrites⟩)
    · exact ahead_of_rewrites rewrites
    · refine ⟨object :: front, List.cons_prefix_cons.mpr ⟨rfl, starts⟩, ?_⟩
      rwa [cons]

/-- An object that another attempt may have staged already: afterwards it is not less than it was, and
without a failure it is staged. -/
theorem Ahead.stageObject
    (allowed : ∀ place content,
      (Staging.stageObject store times bucket base tree object .sound).tree.find
        (base.join object.key) = .ok (place, .file content) → files place)
    (ahead : Ahead store times bucket base ignoreManifests files tree (object :: others) left)
    (medium : Medium) :
    let work := Staging.stageObject other otherTimes bucket base left object medium
    Ahead store times bucket base ignoreManifests files tree (object :: others) work.tree ∧
      (∀ staged, work.outcome = .ok staged →
        Ahead store times bucket base ignoreManifests files
          (Staging.stageObject store times bucket base tree object .sound).tree others work.tree) ∧
      (medium = .sound → other.HandsOut bucket object.key →
        ∃ staged, work.outcome = .ok staged) := by
  intro work
  obtain ⟨path, ready, place, content, safe, lands, same, leads⟩ := lands_of_staged landed
  rw [same] at allowed ⊢
  have allowed := allowed place content leads
  rw [ahead_cons_of_staged kind landed, same] at ahead ⊢
  -- Whether the object was reached or not, it lands where it did, and then it is staged.
  obtain ⟨readied, lands', staged⟩ : ∃ readied, Lands left path readied place ∧ ∀ now,
      Ahead store times bucket base ignoreManifests files (ready.put place (.file content)) others
        (readied.put place (.file now)) := by
    rcases ahead with rewrites | ahead
    · obtain ⟨readied, readying, lands'⟩ := lands.rewritten rewrites
      refine ⟨readied, lands', fun now => ahead_of_rewrites ?_⟩
      obtain ⟨-, nonroot, -⟩ := createFile_holds lands'.created
      have filled := Rewrites.put_file allowed
        (at?_put_self readied (.file content) nonroot) now
      rw [put_put] at filled
      exact (readying.put place (.file content)).trans filled
    · obtain ⟨⟨old, stands⟩, lands'⟩ := lands.again ahead.edits
      exact ⟨left, lands', fun now => ahead.rewritten (Rewrites.put_file allowed stands now)⟩
  obtain ⟨touched, fine⟩ :=
    stageObject_of_lands other otherTimes bucket safe lands' medium
  refine ⟨?_, ?_, fine⟩
  · rcases touched with ⟨-, untouched⟩ | ⟨now, put⟩
    · rw [untouched]
      exact ahead
    · rw [put]
      exact Or.inr (staged now)
  · intro final ended
    rcases touched with ⟨⟨reason, failed⟩, -⟩ | ⟨now, put⟩
    · cases failed.symm.trans ended
    · rw [put]
      exact staged now

end

/-- What another attempt on a listing comes to when the listing can be staged to its end: it is not
behind afterwards, without a failure it has caught up, and a sound one does not fail. -/
theorem Stages.attempted {outcome : Except StagingError StagingSummary} {made : List Call}
    (run : Stages store times bucket base ignoreManifests .sound tree objects outcome made after)
    (success : outcome = .ok summary)
    (allowed : ∀ key ∈ stagedKeys ignoreManifests objects, ∀ place content,
      after.find (base.join key) = .ok (place, .file content) → files place)
    (ahead : Ahead store times bucket base ignoreManifests files tree objects left)
    (medium : Medium) :
    let work := stageObjects other otherTimes bucket base ignoreManifests left objects medium
    Ahead store times bucket base ignoreManifests files tree objects work.tree ∧
      (∀ final, work.outcome = .ok final → Rewrites files after work.tree) ∧
      (medium = .sound → (∀ key ∈ stagedKeys ignoreManifests objects, other.HandsOut bucket key) →
        ∃ final, work.outcome = .ok final) := by
  dsimp only
  induction run generalizing left summary with
  | finished tree =>
      obtain ⟨front, starts, rewrites⟩ := ahead
      rw [List.prefix_nil.mp starts] at rewrites
      exact ⟨ahead_of_rewrites rewrites, fun _ _ => rewrites, fun _ _ => ⟨_, rfl⟩⟩
  | @skipped tree after object others outcome made kind rest ih =>
      obtain ⟨inner, fine⟩ := ok_of_map_ok success
      have passed : treatment ignoreManifests object.key ≠ .stage := by rw [kind]; decide
      rw [stagedKeys_cons, if_neg passed] at allowed ⊢
      rw [ahead_cons_of_passed passed] at ahead ⊢
      obtain ⟨kept, caughtUp, sound⟩ := ih fine allowed ahead
      simp only [stageObjects, kind, Activity.tree_after, Activity.tree_map, Activity.outcome_after,
        Activity.outcome_map]
      refine ⟨kept, fun final ended => ?_, fun isSound handed => ?_⟩
      · obtain ⟨inner, fine⟩ := ok_of_map_ok ended
        exact caughtUp inner fine
      · obtain ⟨inner, fine⟩ := sound isSound handed
        exact ⟨_, by rw [fine]; rfl⟩
  | @passed tree after object others outcome made kind rest ih =>
      have passed : treatment ignoreManifests object.key ≠ .stage := by rw [kind]; decide
      rw [stagedKeys_cons, if_neg passed] at allowed ⊢
      rw [ahead_cons_of_passed passed] at ahead ⊢
      simp only [stageObjects, kind, Activity.tree_after, Activity.outcome_after]
      exact ih success allowed ahead
  | failed => cases success
  | @staged tree after object others outcome made written kind landed rest ih =>
      obtain ⟨inner, fine⟩ := ok_of_map_ok success
      rw [stagedKeys_cons, if_pos kind] at allowed ⊢
      obtain ⟨_, _, _, edits, _⟩ := rest.files_of_ok fine
      have allowedHere (place : Location) (content : Bytes)
          (found : (stageObject store times bucket base tree object .sound).tree.find
            (base.join object.key) = .ok (place, .file content)) : files place := by
        obtain ⟨now, leads, -⟩ := edits.find_file found
        exact allowed object.key List.mem_cons_self place now leads
      have allowedLater := fun key member => allowed key (List.mem_cons_of_mem _ member)
      obtain ⟨kept, onward, sound⟩ := @Ahead.stageObject store other times otherTimes bucket base
        ignoreManifests files tree left object others written kind landed allowedHere ahead medium
      simp only [stageObjects, kind]
      cases ended : (stageObject other otherTimes bucket base left object medium).outcome with
      | error reason =>
          rw [Activity.andThen_of_error _ ended]
          refine ⟨kept, fun _ fine => (by cases fine), fun isSound handed => ?_⟩
          obtain ⟨staged, fine⟩ := sound isSound (handed object.key List.mem_cons_self)
          cases ended.symm.trans fine
      | ok staged =>
          rw [Activity.andThen_of_ok _ ended]
          obtain ⟨later, caughtUp, soundLater⟩ := ih fine allowedLater (onward staged ended)
          simp only [Activity.tree_after, Activity.tree_map, Activity.outcome_after,
            Activity.outcome_map]
          refine ⟨(ahead_cons_of_staged kind landed).mpr (Or.inr later), fun final done => ?_,
            fun isSound handed => ?_⟩
          · obtain ⟨inner, fine⟩ := ok_of_map_ok done
            exact caughtUp inner fine
          · obtain ⟨inner, fine⟩ :=
              soundLater isSound fun key member => handed key (List.mem_cons_of_mem _ member)
            exact ⟨_, by rw [fine]; rfl⟩

/-! ## The same files -/

/-- The same keys staged into trees that differ only in contents are written to the same places. -/
theorem Kept.files_eq {written written' : List WrittenFile} (kept : Kept base after written)
    (kept' : Kept base final written')
    (keys : written'.map WrittenFile.key = written.map WrittenFile.key)
    (contents : ∀ file ∈ written, file.content = contentOf store bucket file.key)
    (contents' : ∀ file ∈ written', file.content = contentOf store bucket file.key)
    (rewrites : Rewrites files after final) : written' = written := by
  induction written generalizing written' with
  | nil => simpa using keys
  | cons file later ih =>
      cases written' with
      | nil => cases keys
      | cons file' later' =>
          obtain ⟨key, keysLater⟩ := List.cons.inj keys
          obtain ⟨⟨now, leads, -⟩, keptLater⟩ := kept
          obtain ⟨⟨now', leads', -⟩, keptLater'⟩ := kept'
          have place : file'.place = file.place := by
            rw [key] at leads'
            rcases rewrites.find (base.join file.key) with same | ⟨place, old, new, led, led'⟩
            · rw [same, leads] at leads'
              exact (Prod.mk.inj (Except.ok.inj leads')).1.symm
            · obtain ⟨here, -⟩ := Prod.mk.inj (Except.ok.inj (leads.symm.trans led))
              obtain ⟨there, -⟩ := Prod.mk.inj (Except.ok.inj (leads'.symm.trans led'))
              rw [here, there]
          have content : file'.content = file.content := by
            rw [contents' file' List.mem_cons_self, contents file List.mem_cons_self, key]
          have later := ih keptLater keptLater' keysLater
            (fun other member => contents other (List.mem_cons_of_mem _ member))
            fun other member => contents' other (List.mem_cons_of_mem _ member)
          obtain ⟨_, _, _⟩ := file
          obtain ⟨_, _, _⟩ := file'
          cases key
          cases place
          cases content
          rw [later]

/-- Each place holds what was last written to it. -/
theorem Kept.at?_eq {written : List WrittenFile} (kept : Kept base after written)
    (kept' : Kept base final written) (member : Places written place) :
    final.at? place = after.at? place := by
  induction written with
  | nil =>
      obtain ⟨file, none, -⟩ := member
      cases none
  | cons file later ih =>
      by_cases again : Places later place
      · exact ih kept.2 kept'.2 again
      · obtain ⟨⟨now, leads, held⟩, -⟩ := kept
        obtain ⟨⟨now', leads', held'⟩, -⟩ := kept'
        obtain ⟨first, among, rfl⟩ := member
        have alone : ∀ other ∈ later, other.place ≠ first.place :=
          fun other member same => again ⟨other, member, same⟩
        rcases List.mem_cons.mp among with rfl | among
        · have stands : after.at? first.place = some (.file now) :=
            holds_of_resolve (.file now) (find_eq_ok_iff.mp leads)
          have stands' : final.at? first.place = some (.file now') :=
            holds_of_resolve (.file now') (find_eq_ok_iff.mp leads')
          rw [stands, stands', held alone, held' alone]
        · exact absurd rfl (alone first among)

/-! ## Payloads -/

/-- An attempt to stage a payload: the store as it answers this time, its clock and its medium. -/
structure Attempt where
  store : Store
  times : DownloadTimes := fun _ => .zero
  medium : Medium := .sound

/-- The tree that some attempts at the same payload leave, one after the other. -/
def leftBy (bucket payloadId : String) (base : Path) (ignoreManifests : Bool) (tree : FileTree)
    (attempts : List Attempt) : FileTree :=
  attempts.foldl (fun left attempt => (stagePayload attempt.store attempt.times bucket payloadId
    base ignoreManifests left attempt.medium).tree) tree

theorem stagePayload_of_listed (listed : store.list bucket payloadId = .ok objects)
    (medium : Medium) :
    let work := stagePayload store times bucket payloadId base ignoreManifests tree medium
    let transfers := stageObjects store times bucket base ignoreManifests tree objects medium
    work.tree = transfers.tree ∧ work.outcome = transfers.outcome := by
  unfold stagePayload
  rw [listed]
  dsimp only
  cases ended : (stageObjects store times bucket base ignoreManifests tree objects
      medium).outcome with
  | error reason =>
      rw [Activity.andThen_of_error _ (by simpa using ended)]
      exact ⟨rfl, rfl⟩
  | ok summary =>
      rw [Activity.andThen_of_ok _ (by simpa using ended)]
      exact ⟨rfl, rfl⟩

theorem ahead_leftBy {outcome : Except StagingError StagingSummary} {made : List Call}
    (run : Stages store times bucket base ignoreManifests .sound tree objects outcome made after)
    (success : outcome = .ok summary)
    (allowed : ∀ key ∈ stagedKeys ignoreManifests objects, ∀ place content,
      after.find (base.join key) = .ok (place, .file content) → files place)
    (attempts : List Attempt)
    (same : ∀ attempt ∈ attempts, ∀ listed,
      attempt.store.list bucket payloadId = .ok listed → listed = objects)
    (ahead : Ahead store times bucket base ignoreManifests files tree objects left) :
    Ahead store times bucket base ignoreManifests files tree objects
      (leftBy bucket payloadId base ignoreManifests left attempts) := by
  induction attempts generalizing left with
  | nil => exact ahead
  | cons attempt later ih =>
      refine ih (fun other member => same other (List.mem_cons_of_mem _ member)) ?_
      dsimp only
      cases answer : attempt.store.list bucket payloadId with
      | error reason =>
          unfold stagePayload
          rw [answer]
          exact ahead
      | ok listed =>
          obtain rfl := same attempt List.mem_cons_self listed answer
          rw [(stagePayload_of_listed answer attempt.medium).1]
          exact (run.attempted success allowed ahead attempt.medium).1

/-- If a payload can be staged into a tree, it can be staged after any attempts at it, wherever they
broke off, with the same summary and into the same tree. -/
theorem stagePayload_resumes (store : Store) (times later : DownloadTimes)
    (bucket payloadId : String) (base : Path) (ignoreManifests : Bool) (tree : FileTree)
    (attempts : List Attempt)
    (same : ∀ attempt ∈ attempts, ∀ objects,
      attempt.store.list bucket payloadId = .ok objects →
        store.list bucket payloadId = .ok objects)
    {summary : StagingSummary}
    (success : (stagePayload store times bucket payloadId base ignoreManifests tree .sound).outcome =
      .ok summary) :
    let direct := (stagePayload store times bucket payloadId base ignoreManifests tree .sound).tree
    let left := leftBy bucket payloadId base ignoreManifests tree attempts
    let again := stagePayload store later bucket payloadId base ignoreManifests left .sound
    again.outcome = .ok summary ∧ again.tree.workingDirectory = direct.workingDirectory ∧
      ∀ place, again.tree.at? place = direct.at? place := by
  obtain ⟨objects, listed, ended, landed⟩ := stagePayload_of_ok success
  have run := @stages_stageObjects store times bucket base ignoreManifests .sound objects tree
  intro direct left again
  dsimp only at run
  rw [← landed] at run
  let files (place : Location) : Prop := ∃ key ∈ stagedKeys ignoreManifests objects, ∃ content,
    direct.find (base.join key) = .ok (place, .file content)
  have allowed : ∀ key ∈ stagedKeys ignoreManifests objects, ∀ place content,
      direct.find (base.join key) = .ok (place, .file content) → files place :=
    fun key member place content found => ⟨key, member, content, found⟩
  have ahead : Ahead store times bucket base ignoreManifests files tree objects left :=
    ahead_leftBy run ended allowed attempts
      (fun attempt member other answer =>
        Except.ok.inj ((same attempt member other answer).symm.trans listed))
      (ahead_of_rewrites (.refl tree))
  obtain ⟨-, caughtUp, sound⟩ :=
    @Stages.attempted store store times later bucket base ignoreManifests files tree left direct
      objects summary _ _ run ended allowed ahead .sound
  obtain ⟨final, fine⟩ := sound rfl (run.calls_of_ok ended).1
  have rewrites := caughtUp final fine
  -- Both runs are over, so each place that they wrote to holds what went there last.
  have rerun := @stages_stageObjects store later bucket base ignoreManifests .sound objects left
  obtain ⟨sameTree, sameOutcome⟩ : again.tree = _ ∧ again.outcome = _ :=
    stagePayload_of_listed listed .sound
  rw [sameTree, sameOutcome]
  obtain ⟨written, keys, contents, -, kept⟩ := run.files_of_ok ended
  obtain ⟨written', keys', contents', -, kept'⟩ := rerun.files_of_ok fine
  obtain rfl := kept.files_eq kept' (keys'.trans keys.symm) contents contents' rewrites
  refine ⟨?_, rewrites.workingDirectory, fun place => ?_⟩
  · obtain ⟨skipped, staged⟩ := run.summary_of_ok ended
    obtain ⟨skipped', staged'⟩ := rerun.summary_of_ok fine
    have whole : final = summary := by
      cases final
      cases summary
      exact congrArg₂ StagingSummary.mk (staged'.trans staged.symm) (skipped'.trans skipped.symm)
    rw [fine, whole]
  · rcases rewrites.place place with unchanged | ⟨⟨key, member, content, found⟩, -⟩
    · exact unchanged
    · rw [← keys] at member
      obtain ⟨file, listed, rfl⟩ := List.mem_map.mp member
      obtain ⟨front, behind, split⟩ := List.append_of_mem listed
      obtain ⟨now, leads, -⟩ := kept.at_split split
      obtain ⟨here, -⟩ := Prod.mk.inj (Except.ok.inj (leads.symm.trans found))
      exact kept.at?_eq kept' ⟨file, listed, here⟩

/-- The second attempt broke off in a file behind a symbolic link, in a directory that it had made. -/
theorem stagePayload_resumes_behind_link :
    let parts : Rehearsal.ScriptedStore :=
      ⟨"data", [{ key := "p/a", content := [1] }, { key := "p/l/c/b", content := [2, 3] }], none⟩
    let broken : Rehearsal.ScriptedStore :=
      ⟨"data", [{ key := "p/a", content := [1] },
        { key := "p/l/c/b", content := [2], listedSize := some 2, readFault := some "reset" }], none⟩
    let silent : Rehearsal.ScriptedStore := { broken with listFault := some (.backend "down") }
    let tree : FileTree := { nodes := [(["in"], .directory), (["in", "p"], .directory),
      (["in", "p", "l"], .link "/far"), (["far"], .directory)] }
    let direct := stagePayload parts.toStore (fun _ => .zero) "data" "p" ⟨"/in"⟩ false tree .sound
    let left := leftBy "data" "p" ⟨"/in"⟩ false tree
      [{ store := silent.toStore }, { store := broken.toStore }]
    let again := stagePayload parts.toStore (fun _ => .zero) "data" "p" ⟨"/in"⟩ false left .sound
    left.at? ["far", "c", "b"] = some (.file [2]) ∧
      ∃ summary, direct.outcome = .ok summary ∧ again.outcome = .ok summary ∧
        again.tree.at? ["far", "c", "b"] = some (.file [2, 3]) := by
  intro parts broken silent tree direct left again
  refine ⟨by decide +kernel, ?_⟩
  cases success : direct.outcome with
  | error reason =>
      have fine : direct.outcome.isOk = true := by decide +kernel
      rw [success] at fine
      cases fine
  | ok summary =>
      have same : ∀ attempt ∈ [({ store := silent.toStore } : Attempt), { store := broken.toStore }],
          ∀ objects, attempt.store.list "data" "p" = .ok objects →
            parts.toStore.list "data" "p" = .ok objects := by
        intro attempt member objects answer
        rcases List.mem_pair.mp member with rfl | rfl
        · cases answer
        · rw [← answer]
          decide +kernel
      obtain ⟨ended, -, holds⟩ := stagePayload_resumes parts.toStore (fun _ => .zero)
        (fun _ => .zero) "data" "p" ⟨"/in"⟩ false tree _ same success
      exact ⟨summary, rfl, ended, (holds _).trans (by decide +kernel)⟩

end Staging
end Stagehand
