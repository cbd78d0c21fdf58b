import Stagehand.Proofs.Staging.Calls
import Stagehand.Proofs.Staging.Destination
import Stagehand.Proofs.Workspace.Ensure

/-! # What staging leaves in the file tree

The place of an object below the input directory is spelled by the names of its key.  Staging adds
directories on the way to such places and writes files at them, whether it ends well or not.  When
it does, each place holds what the store handed out for the last key that spells it, and the
directories above are there.
-/

set_option autoImplicit false

namespace Stagehand.Staging

open FileTree Stagehand.Path

variable {tree : FileTree} {base : Path} {location : Location}

/-- The names that lead from the input directory to the place of an object. -/
def placeOf (key : String) : List String :=
  names (segments key.toList)

/-- The directories on the way to the places of some keys. -/
def Above (location : Location) (keys : List String) (place : Location) : Prop :=
  ∃ key ∈ keys, Way location (placeOf key).dropLast place

/-- The places of some keys. -/
def Among (location : Location) (keys : List String) (place : Location) : Prop :=
  ∃ key ∈ keys, placeOf key ≠ [] ∧ place = location ++ placeOf key

theorem Above.mono {few many : List String} (fewer : few ⊆ many) (place : Location)
    (above : Above location few place) : Above location many place := by
  obtain ⟨key, member, way⟩ := above
  exact ⟨key, fewer member, way⟩

theorem Among.mono {few many : List String} (fewer : few ⊆ many) (place : Location)
    (among : Among location few place) : Among location many place := by
  obtain ⟨key, member, spelled⟩ := among
  exact ⟨key, fewer member, spelled⟩

/-! ## Keys -/

theorem eq_join_of_destination {key : String} {destination : Path}
    (place : destination? base key = some destination) : destination = base.join key :=
  ((destination?_eq_some_iff _ _ _).mp place).2

/-- The key of an object to be staged only leads down. -/
theorem leadsDown_of_destination {ignoreManifests : Bool} {key : String} {destination : Path}
    (kind : treatment ignoreManifests key = .stage)
    (place : destination? base key = some destination) :
    (Path.mk key).isAbsolute = false ∧ LeadsDown (segments key.toList) := by
  obtain ⟨descends, -⟩ := (destination?_eq_some_iff _ _ _).mp place
  refine ⟨descends.isAbsolute, descends.leadsDown ?_⟩
  intro slash
  unfold treatment at kind
  split_ifs at kind

/-- An object to be staged has its place below the input directory. -/
theorem below_of_destination {ignoreManifests : Bool} {key : String} {destination : Path}
    (found : tree.find base = .ok (location, .directory))
    (kind : treatment ignoreManifests key = .stage)
    (place : destination? base key = some destination) :
    Below base (segments key.toList) destination := by
  obtain ⟨relative, down⟩ := leadsDown_of_destination kind place
  obtain rfl := eq_join_of_destination place
  exact below_join (text_ne_empty_of_find found) relative down

/-! ## One object -/

section

variable {destination : Path} {pieces : List (List Char)}
  (found : tree.find base = .ok (location, .directory))
  (below : Below base pieces destination) (linkFree : tree.LinkFreeBelow location)

include found below linkFree

theorem edits_prepareParent :
    Edits (Way location (names pieces).dropLast) nowhere tree
      (prepareParent tree destination).tree := by
  obtain ⟨parent, up, ⟨fewer, name, higher, ⟨piece, ends, step⟩, longer⟩ | ⟨-, trims⟩⟩ :=
    below.parent (text_ne_empty_of_find found)
  · have made := ensureDirectory_below "object" found ⟨fewer, piece, higher, ends, step, rfl⟩
      linkFree
    unfold prepareParent
    rw [up, longer, List.dropLast_concat]
    exact made.1
  · have same := ensureDirectory_trims "object" found trims
    unfold prepareParent
    rw [up]
    dsimp only
    rw [Activity.tree_map, Activity.tree_mapFailure, same]
    exact .refl tree

/-- A transfer adds directories above the place of its object and writes there; if it gets as far as
the end, the place holds what was handed out. -/
theorem edits_transfer (key : String) (download : Download) (medium : Medium) :
    Edits (Way location (names pieces).dropLast) (· = location ++ names pieces) tree
        (transfer tree key destination download medium).tree ∧
      ∀ size, (transfer tree key destination download medium).outcome = .ok size →
        (transfer tree key destination download medium).tree.at? (location ++ names pieces) =
            some (.file download.content) ∧
          (transfer tree key destination download medium).tree.Open location
            (names pieces).dropLast := by
  have parents := edits_prepareParent found below linkFree
  have widened : Edits (Way location (names pieces).dropLast) (· = location ++ names pieces) tree
      (prepareParent tree destination).tree := parents.mono (fun _ => id) fun _ => False.elim
  unfold transfer
  cases prepared : (prepareParent tree destination).outcome with
  | error reason =>
      rw [Activity.andThen_of_error _ prepared]
      exact ⟨widened, fun _ fine => by cases fine⟩
  | ok done =>
      rw [Activity.andThen_of_ok _ prepared]
      generalize (prepareParent tree destination).tree = ready at parents widened ⊢
      dsimp only
      cases creation : ready.createFile destination with
      | error reason => exact ⟨widened, fun _ fine => by cases fine⟩
      | ok file =>
          obtain ⟨place, created⟩ := file
          obtain ⟨rfl, rfl, writable, opened⟩ := createFile_of_ok (parents.find found) below
            (parents.linkFreeBelow linkFree) creation
          have nonroot : location ++ names pieces ≠ [] := by simp [below.down.names_ne_nil]
          have empty := @Edits.put_file (Way location (names pieces).dropLast)
            (· = location ++ names pieces) ready _ rfl [] writable
          have filled (content : Bytes) := @Edits.put_file (Way location (names pieces).dropLast)
            (· = location ++ names pieces) _ _ rfl content
            (Or.inr ⟨[], at?_put_self ready (.file []) nonroot⟩)
          dsimp only
          cases medium (location ++ names pieces) download.chunks with
          | some fault =>
              exact ⟨widened.trans (empty.trans (filled _)), fun _ fine => by cases fine⟩
          | none =>
              refine ⟨widened.trans (empty.trans (filled _)), fun _ _ => ⟨?_, ?_⟩⟩
              · exact at?_put_self _ _ nonroot
              · exact opened.mono fun _ stood =>
                  (filled _).directory_kept (empty.directory_kept stood)

end

variable {store : Store} {times : DownloadTimes} {bucket : String} {object : ObjectRef}
  {medium : Medium}

/-- The bytes that a store hands out for a key. -/
def contentOf (store : Store) (bucket key : String) : Bytes :=
  match store.get bucket key with
  | .ok reader => (reader chunkSize).content
  | .error _ => []

variable (store times bucket medium) in
theorem edits_stageObject {ignoreManifests : Bool}
    (found : tree.find base = .ok (location, .directory)) (linkFree : tree.LinkFreeBelow location)
    (kind : treatment ignoreManifests object.key = .stage) :
    Edits (Above location [object.key]) (Among location [object.key]) tree
        (stageObject store times bucket base tree object medium).tree ∧
      ∀ staged, (stageObject store times bucket base tree object medium).outcome = .ok staged →
        (stageObject store times bucket base tree object medium).tree.at?
            (location ++ placeOf object.key) = some (.file (contentOf store bucket object.key)) ∧
          (stageObject store times bucket base tree object medium).tree.Open location
            (placeOf object.key).dropLast ∧
          Below base (segments object.key.toList) (base.join object.key) := by
  unfold stageObject
  cases place : destination? base object.key with
  | none => exact ⟨.refl tree, fun _ fine => by cases fine⟩
  | some destination =>
      have below := below_of_destination found kind place
      cases opened : store.get bucket object.key with
      | error reason =>
          dsimp only
          exact ⟨.refl tree, fun _ fine => by cases fine⟩
      | ok reader =>
          have content : contentOf store bucket object.key = (reader chunkSize).content := by
            unfold contentOf
            rw [opened]
          obtain ⟨exact_, written⟩ := edits_transfer found below linkFree object.key
            (reader chunkSize) medium
          have edits := exact_.mono
            (fun place way => (⟨_, List.mem_singleton_self _, way⟩ :
              Above location [object.key] place))
            (fun place spelled => (⟨_, List.mem_singleton_self _, below.down.names_ne_nil, spelled⟩ :
              Among location [object.key] place))
          rw [content]
          dsimp only
          cases ended : (transfer tree object.key destination (reader chunkSize) medium).outcome with
          | error reason =>
              rw [Activity.andThen_of_error _ (by simpa using ended)]
              exact ⟨edits, fun _ fine => by cases fine⟩
          | ok size =>
              rw [Activity.andThen_of_ok _ (by simpa using ended)]
              obtain ⟨holds, open_⟩ := written size ended
              exact ⟨edits, fun _ _ => ⟨holds, open_, eq_join_of_destination place ▸ below⟩⟩

/-! ## A listing -/

section

variable {ignoreManifests : Bool} {after : FileTree} {objects : List ObjectRef}
  {outcome : Except StagingError StagingSummary} {made : List Call}

theorem Stages.edits
    (run : Stages store times bucket base ignoreManifests medium tree objects outcome made after)
    (found : tree.find base = .ok (location, .directory))
    (linkFree : tree.LinkFreeBelow location) :
    Edits (Above location (stagedKeys ignoreManifests objects))
      (Among location (stagedKeys ignoreManifests objects)) tree after := by
  induction run with
  | finished => exact .refl _
  | skipped kind rest ih | passed kind rest ih =>
      rw [stagedKeys_cons, kind]
      exact ih found linkFree
  | failed kind failure =>
      have first := (edits_stageObject store times bucket medium found linkFree kind).1
      rw [stagedKeys_cons, if_pos kind]
      exact first.mono (Above.mono (by simp)) (Among.mono (by simp))
  | staged kind success rest ih =>
      have first := (edits_stageObject store times bucket medium found linkFree kind).1
      have later := ih (first.find found) (first.linkFreeBelow linkFree)
      rw [stagedKeys_cons, if_pos kind]
      exact (first.mono (Above.mono (by simp)) (Among.mono (by simp))).trans
        (later.mono (Above.mono (List.subset_cons_self _ _))
          (Among.mono (List.subset_cons_self _ _)))

/-- The last of some keys whose object goes to a place. -/
def lastStaged? (keys : List String) (place : List String) : Option String :=
  (keys.filter fun key => placeOf key = place).getLast?

/-- What a staging of some keys puts at a place below the input directory: the content of the last
key that spells it, or a directory if the place is on the way to another. -/
def stagedNode? (store : Store) (bucket : String) (keys : List String) (place : List String) :
    Option Node :=
  match lastStaged? keys place with
  | some key => some (.file (contentOf store bucket key))
  | none => if keys.any fun key => place.isPrefixOf (placeOf key) then some .directory else none

theorem lastStaged?_cons (key : String) (keys : List String) (place : List String) :
    lastStaged? (key :: keys) place =
      (lastStaged? keys place).or (if placeOf key = place then some key else none) := by
  unfold lastStaged?
  rw [List.filter_cons]
  by_cases same : placeOf key = place
  · simp only [same, decide_true, if_true, List.getLast?_cons]
    cases (keys.filter fun other => decide (placeOf other = place)).getLast? <;> rfl
  · simp only [same, decide_false, Bool.false_eq_true, if_false, Option.or_none]

theorem lastStaged?_eq_none {keys : List String} {place : List String} :
    lastStaged? keys place = none ↔ ∀ key ∈ keys, placeOf key ≠ place := by
  simp [lastStaged?]

/-- A listing that is staged to its end leaves at each place the content of the last key that spells
it, and a way to every place. -/
theorem Stages.holds_of_ok
    (run : Stages store times bucket base ignoreManifests medium tree objects outcome made after)
    (found : tree.find base = .ok (location, .directory))
    (linkFree : tree.LinkFreeBelow location) {summary : StagingSummary}
    (success : outcome = .ok summary) :
    (∀ place key, lastStaged? (stagedKeys ignoreManifests objects) place = some key →
        after.at? (location ++ place) = some (.file (contentOf store bucket key))) ∧
      ∀ key ∈ stagedKeys ignoreManifests objects,
        after.Open location (placeOf key).dropLast ∧
          Below base (segments key.toList) (base.join key) := by
  induction run generalizing summary with
  | finished =>
      constructor
      · intro place key last
        cases last
      · intro key member
        cases member
  | skipped kind rest ih =>
      obtain ⟨inner, fine⟩ := ok_of_map_ok success
      rw [stagedKeys_cons, kind]
      exact ih found linkFree fine
  | passed kind rest ih =>
      rw [stagedKeys_cons, kind]
      exact ih found linkFree success
  | failed => cases success
  | @staged tree after object others outcome made written kind landed rest ih =>
      obtain ⟨inner, fine⟩ := ok_of_map_ok success
      obtain ⟨first, second⟩ := edits_stageObject store times bucket medium found linkFree kind
      obtain ⟨content, opened, below⟩ := second written landed
      have led := first.find found
      have free := first.linkFreeBelow linkFree
      obtain ⟨holds, ways⟩ := ih led free fine
      have edits := rest.edits led free
      rw [stagedKeys_cons, if_pos kind]
      constructor
      · intro place key last
        rw [lastStaged?_cons] at last
        cases again : lastStaged? (stagedKeys ignoreManifests others) place with
        | some other =>
            rw [again, Option.some_or] at last
            cases Option.some.inj last
            exact holds place key again
        | none =>
            rw [again, Option.none_or] at last
            split_ifs at last with same
            cases Option.some.inj last
            subst same
            refine edits.file_unwritten content ?_
            rintro ⟨other, member, -, same⟩
            rw [List.append_cancel_left_eq] at same
            exact lastStaged?_eq_none.mp again other member same.symm
      · intro key member
        rcases List.mem_cons.mp member with rfl | member
        · exact ⟨opened.mono fun _ => edits.directory_kept, below⟩
        · exact ways key member

/-- What a successful staging leaves: below the input directory what its keys put there over what was
there before, and nothing new elsewhere. -/
theorem Stages.at?_of_ok
    (run : Stages store times bucket base ignoreManifests medium tree objects outcome made after)
    (found : tree.find base = .ok (location, .directory))
    (linkFree : tree.LinkFreeBelow location) {summary : StagingSummary}
    (success : outcome = .ok summary) {place : List String} (nonempty : place ≠ []) :
    after.at? (location ++ place) =
      (stagedNode? store bucket (stagedKeys ignoreManifests objects) place).or
        (tree.at? (location ++ place)) := by
  obtain ⟨holds, ways⟩ := run.holds_of_ok found linkFree success
  have edits := run.edits found linkFree
  unfold stagedNode?
  cases last : lastStaged? (stagedKeys ignoreManifests objects) place with
  | some key => exact holds place key last
  | none =>
      have elsewhere := lastStaged?_eq_none.mp last
      dsimp only
      split_ifs with above
      · obtain ⟨key, member, starts⟩ := List.any_eq_true.mp above
        obtain ⟨rest, whole⟩ := List.isPrefixOf_iff_prefix.mp starts
        have more : rest ≠ [] := by
          rintro rfl
          exact elsewhere key member (by rw [← whole, List.append_nil])
        have split : (placeOf key).dropLast = place ++ rest.dropLast := by
          rw [← whole, List.dropLast_append_of_ne_nil more]
        exact (ways key member).1.at?_eq split nonempty
      · rw [Option.none_or]
        refine edits.at?_eq ?_ ?_
        · rintro ⟨key, member, front, -, starts, same⟩
          rw [List.append_cancel_left_eq] at same
          subst same
          refine above (List.any_eq_true.mpr ⟨key, member, ?_⟩)
          exact List.isPrefixOf_iff_prefix.mpr (starts.trans (List.dropLast_prefix _))
        · rintro ⟨key, member, -, same⟩
          rw [List.append_cancel_left_eq] at same
          exact elsewhere key member same.symm

end

/-! ## A payload -/

/-- A place below a location. -/
def Inside (location place : Location) : Prop :=
  ∃ rest, rest ≠ [] ∧ place = location ++ rest

theorem edits_stagePayload (payloadId : String) (ignoreManifests : Bool)
    (found : tree.find base = .ok (location, .directory)) (linkFree : tree.LinkFreeBelow location) :
    Edits (Inside location) (Inside location) tree
      (stagePayload store times bucket payloadId base ignoreManifests tree medium).tree := by
  unfold stagePayload
  cases store.list bucket payloadId with
  | error reason => exact .refl tree
  | ok objects =>
      have run := @stages_stageObjects store times bucket base ignoreManifests medium objects tree
      have edits := (run.edits found linkFree).mono
        (fun place ⟨_, _, front, nonempty, _, same⟩ =>
          (⟨front, nonempty, same⟩ : Inside location place))
        (fun place ⟨_, _, nonempty, same⟩ => (⟨_, nonempty, same⟩ : Inside location place))
      dsimp only
      cases ended : (stageObjects store times bucket base ignoreManifests tree objects
          medium).outcome with
      | error reason => rwa [Activity.andThen_of_error _ (by simpa using ended)]
      | ok summary => rwa [Activity.andThen_of_ok _ (by simpa using ended)]

theorem stagePayload_of_ok {payloadId : String} {ignoreManifests : Bool} {summary : StagingSummary}
    (success : (stagePayload store times bucket payloadId base ignoreManifests tree
      medium).outcome = .ok summary) :
    ∃ objects, store.list bucket payloadId = .ok objects ∧
      (stageObjects store times bucket base ignoreManifests tree objects medium).outcome =
        .ok summary ∧
      (stagePayload store times bucket payloadId base ignoreManifests tree medium).tree =
        (stageObjects store times bucket base ignoreManifests tree objects medium).tree := by
  unfold stagePayload at success ⊢
  cases listed : store.list bucket payloadId with
  | error reason => rw [listed] at success; cases success
  | ok objects =>
      rw [listed] at success
      dsimp only at success ⊢
      cases ended : (stageObjects store times bucket base ignoreManifests tree objects
          medium).outcome with
      | error reason =>
          rw [Activity.andThen_of_error _ (by simpa using ended)] at success
          cases success
      | ok staged =>
          rw [Activity.andThen_of_ok _ (by simpa using ended)] at success ⊢
          exact ⟨objects, rfl, by rw [ended, Except.ok.inj success], rfl⟩

end Stagehand.Staging
