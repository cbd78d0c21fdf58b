import Stagehand.Proofs.Staging.Destination
import Stagehand.Proofs.Staging.Failure
import Stagehand.Proofs.Store.Listing
import Stagehand.Rehearsal.Dispatcher
import Stagehand.Store.Remote

/-! # Staging what a remote store lists

A remote store lists objects by their paths, opens them by keys that it reads as paths, and a staging
takes a key for the way to a file.  On the paths that a listing can show, the three agree: a key denotes
the path it was made from, its place is the input directory with the segments of the path behind it, and
no two paths share a place.  So a staging of what was listed is never ended by the form of a key.
-/

set_option autoImplicit false

namespace Stagehand

open Stagehand.Path

/-! ## The key of a listed path -/

namespace ObjectPath.IsLocation

variable {path : ObjectPath} (location : path.IsLocation)

include location

theorem raw_ne_nil : path.raw.toList ≠ [] := by
  intro bare
  exact location.written [] (by simp [bare, Path.segments]) rfl

theorem head?_ne_slash : path.raw.toList.head? ≠ some '/' := by
  intro slash
  obtain ⟨rest, spelled⟩ : ∃ rest, path.raw.toList = '/' :: rest := by
    cases characters : path.raw.toList with
    | nil => exact absurd characters location.raw_ne_nil
    | cons c rest =>
        rw [characters] at slash
        exact ⟨rest, by rw [Option.some.inj slash]⟩
  exact location.written [] (by simp [spelled, Path.segments]) rfl

theorem getLast?_ne_slash : path.raw.toList.getLast? ≠ some '/' := by
  intro slash
  have trailing := (getLast?_segments_eq_nil location.raw_ne_nil).mpr slash
  exact location.written [] (List.mem_of_getLast? trailing) rfl

theorem descends : Descends path.raw where
  written := by simpa using location.raw_ne_nil
  relative := location.head?_ne_slash
  undotted := fun dotted => (location.undotted _ (List.mem_of_mem_head? dotted)).1 rfl
  straight := fun up => (location.undotted _ up).2 rfl

/-- Every segment of a listed path names something. -/
theorem namingSegments_eq : namingSegments path.raw = Path.segments path.raw.toList := by
  refine List.filter_eq_self.mpr fun piece member => ?_
  simp [location.written piece member, (location.undotted piece member).1]

theorem segmentRefusal?_eq_none {piece : List Char}
    (member : piece ∈ Path.segments path.raw.toList) : segmentRefusal? piece = none := by
  have clean : piece.find? isControl = none :=
    List.find?_eq_none.mpr fun c among => by simp [location.printable piece member c among]
  simp [segmentRefusal?, location.written piece member, location.undotted piece member, clean]

/-- A key that is the text of a listed path denotes that path. -/
theorem parse_raw : parse path.raw = .ok path := by
  have unled : dropLeadingSlash path.raw.toList = path.raw.toList := by
    have first := location.head?_ne_slash
    cases characters : path.raw.toList with
    | nil => rfl
    | cons c rest =>
        have slash : c ≠ '/' := by simpa [characters] using first
        unfold dropLeadingSlash
        split
        · exact absurd (List.cons.inj ‹_›).1 slash
        · rfl
  have spelled : dropTrailingSlash path.raw.toList = path.raw.toList :=
    if_neg location.getLast?_ne_slash
  have accepted : (Path.segments path.raw.toList).findSome? segmentRefusal? = none :=
    List.findSome?_eq_none_iff.mpr fun piece member => location.segmentRefusal?_eq_none member
  unfold parse
  dsimp only
  rw [unled, if_neg location.raw_ne_nil, spelled, accepted]
  simp

theorem destination_eq (inputDirectory : Path) :
    destination? inputDirectory path.raw = some (inputDirectory.join path.raw) :=
  (destination?_eq_some_iff _ _ _).mpr ⟨location.descends, rfl⟩

theorem components_join_raw (inputDirectory : Path) :
    (inputDirectory.join path.raw).components =
      inputDirectory.components ++ (Path.segments path.raw.toList).map nameOf := by
  rw [components_destination (location.destination_eq inputDirectory), location.namingSegments_eq]

/-- Two listed paths with one place are the same. -/
theorem eq_of_components {other : ObjectPath} (also : other.IsLocation) {inputDirectory : Path}
    (same : (inputDirectory.join path.raw).components =
      (inputDirectory.join other.raw).components) : path = other := by
  rw [location.components_join_raw, also.components_join_raw, List.append_cancel_left_eq,
    nameOf_injective.list_map.eq_iff] at same
  exact congrArg ObjectPath.mk (String.toList_inj.mp (segments_injective same))

end ObjectPath.IsLocation

/-! ## What a remote store lists and opens -/

namespace RemoteBucket

/-- A listing shows paths only. -/
def ListsLocations (there : RemoteBucket) : Prop :=
  ∀ parent objects, there.listing parent = .ok objects →
    ∀ object ∈ objects, (ObjectPath.mk object.key).IsLocation

/-- The remote store itself failed over an object: it did not open it, or broke it off. -/
def FailsAt (there : RemoteBucket) (bucket key : String) (fault : StoreError) : Prop :=
  (∃ failure, there.opening ⟨key⟩ = .error failure ∧ fault = failure.toStoreError bucket key) ∨
    ∃ parts, there.opening ⟨key⟩ = .ok parts ∧
      ((ChunkReader.ofParts parts).download Staging.chunkSize).fault = some fault

variable {there : RemoteBucket} {bucket key : String}

theorem get_of_location (location : (ObjectPath.mk key).IsLocation) :
    there.get bucket key =
      match there.opening ⟨key⟩ with
      | .error failure => .error (failure.toStoreError bucket key)
      | .ok parts => .ok (ChunkReader.ofParts parts).download := by
  cases opened : there.opening ⟨key⟩ <;> simp only [get, location.parse_raw, opened]

theorem failsAt_of_unopened (location : (ObjectPath.mk key).IsLocation) {fault : StoreError}
    (closed : there.get bucket key = .error fault) : there.FailsAt bucket key fault := by
  rw [get_of_location location] at closed
  split at closed
  · rename_i failure failed
    exact Or.inl ⟨failure, failed, (Except.error.inj closed).symm⟩
  · cases closed

theorem failsAt_of_broken (location : (ObjectPath.mk key).IsLocation) {fault : StoreError}
    {reader : Nat → Download} (opened : there.get bucket key = .ok reader)
    (broken : (reader Staging.chunkSize).fault = some fault) : there.FailsAt bucket key fault := by
  rw [get_of_location location] at opened
  split at opened
  · cases opened
  · rename_i parts given
    cases Except.ok.inj opened
    exact Or.inr ⟨parts, given, broken⟩

theorem list_locations (lists : there.ListsLocations) {startingWith : String}
    {objects : List ObjectRef} (listed : there.list bucket startingWith = .ok objects) :
    ∀ object ∈ objects, (ObjectPath.mk object.key).IsLocation := by
  intro object member
  unfold list listStartingWith at listed
  cases shown : there.listing (listingParent? startingWith) with
  | error failure =>
      rw [shown] at listed
      cases listed
  | ok everything =>
      rw [shown] at listed
      cases Except.ok.inj listed
      exact lists _ _ shown object (List.mem_filter.mp member).1

end RemoteBucket

namespace Staging

variable {store : Store} {times : DownloadTimes} {bucket payloadId : String} {base : Path}
  {ignoreManifests : Bool} {tree : FileTree} {objects : List ObjectRef} {medium : Medium}

/-! ## Which objects a staging opens -/

theorem eq_of_get_mem_downloadCalls {other key asked : String}
    (member : .get other asked ∈ downloadCalls store bucket key) : asked = key := by
  unfold downloadCalls at member
  rcases List.mem_cons.mp member with same | member
  · cases same
    rfl
  · split at member
    · cases member
    · simp [chunkCalls] at member

theorem eq_of_get_mem_openCalls {other key asked : String} {chunks : List Bytes}
    (member : .get other asked ∈ openCalls bucket key chunks) : asked = key := by
  rcases List.mem_cons.mp member with same | member
  · cases same
    rfl
  · simp [chunkCalls] at member

theorem Failure.eq_of_get_mem {key other asked : String} {reason : StagingError}
    {made : List Call} {file : Option WrittenFile} {after : FileTree}
    (failure : Failure store medium bucket base tree key reason made file after)
    (member : .get other asked ∈ made) : asked = key := by
  cases failure with
  | escaping => cases member
  | unopened =>
      cases List.mem_singleton.mp member
      rfl
  | unprepared | uncreated | unread | unheard | unwritten => exact eq_of_get_mem_openCalls member

theorem key_mem_of_get_mem_downloads {other asked : String}
    (member : .get other asked ∈
      (stagedKeys ignoreManifests objects).flatMap (downloadCalls store bucket)) :
    asked ∈ objects.map ObjectRef.key := by
  obtain ⟨key, among, member⟩ := List.mem_flatMap.mp member
  rw [eq_of_get_mem_downloadCalls member]
  exact (List.mem_filter.mp among).1

/-- A staging opens objects of its listing only. -/
theorem key_mem_of_get_mem (listed : store.list bucket payloadId = .ok objects) {other asked : String}
    (member : .get other asked ∈ calls (stagePayload store times bucket payloadId base
      ignoreManifests tree medium).journal) : asked ∈ objects.map ObjectRef.key := by
  cases ended : (stagePayload store times bucket payloadId base ignoreManifests tree
      medium).outcome with
  | ok summary =>
      obtain ⟨others, again, -, made⟩ := (calls_stagePayload store times bucket payloadId base
        ignoreManifests tree medium).2 _ ended
      cases Except.ok.inj (listed.symm.trans again)
      rw [made] at member
      rcases List.mem_cons.mp member with asks | member
      · cases asks
      · exact key_mem_of_get_mem_downloads member
  | error reason =>
      obtain ⟨broken, asked, -⟩ := stagePayload_of_error listed ended
      obtain ⟨front, object, back, summary, rfl, -, fine, failed, made, -⟩ :=
        exists_first_failure objects broken
      obtain ⟨file, failure⟩ := failure_of_error failed
      rw [asked, made] at member
      rcases List.mem_cons.mp member with same | member
      · cases same
      rw [List.map_append, List.map_cons]
      rcases List.mem_append.mp member with member | member
      · have run := @stages_stageObjects store times bucket base ignoreManifests medium front tree
        rw [(run.calls_of_ok fine).2] at member
        exact List.mem_append_left _ (key_mem_of_get_mem_downloads member)
      · rw [failure.eq_of_get_mem member]
        exact List.mem_append_right _ List.mem_cons_self

/-- A staging that fails after its listing fails over an object of it. -/
theorem exists_failure_of_error (listed : store.list bucket payloadId = .ok objects)
    {reason : StagingError}
    (ended : (stagePayload store times bucket payloadId base ignoreManifests tree
      medium).outcome = .error reason) :
    ∃ object ∈ objects, ∃ before made file after,
      Failure store medium bucket base before object.key reason made file after := by
  obtain ⟨broken, -, -⟩ := stagePayload_of_error listed ended
  obtain ⟨front, object, back, summary, rfl, -, -, failed, -, -⟩ :=
    exists_first_failure objects broken
  obtain ⟨file, failure⟩ := failure_of_error failed
  exact ⟨object, List.mem_append_right _ List.mem_cons_self, _, _, _, _, failure⟩

end Staging

/-! ## The three readings of a key -/

variable {remote : RemoteStore} {there : RemoteBucket} {bucket : String}

theorem RemoteStore.list_eq (reached : remote bucket = .ok there) (startingWith : String) :
    remote.toStore.list bucket startingWith = there.list bucket startingWith := by
  simp only [RemoteStore.toStore, reached]
  rfl

theorem RemoteStore.get_eq (reached : remote bucket = .ok there) (key : String) :
    remote.toStore.get bucket key = there.get bucket key := by
  simp only [RemoteStore.toStore, reached]
  rfl

/-- On listed paths the key, the path that it denotes and the place of the object agree.  A key does not
end in a slash, it denotes the path that was listed, and the place below the input directory has exactly
the segments of the path; different paths have different places.  So whatever a remote store lists, a
staging of it opens listed keys only, all of which denote their paths, and never fails because of the
form of a key: if an object cannot be downloaded, it is the remote store that failed over it. -/
theorem staging_takes_listed_keys (inputDirectory : Path) :
    (∀ path : ObjectPath, path.IsLocation →
      path.raw.toList.getLast? ≠ some '/' ∧ ObjectPath.parse path.raw = .ok path ∧
      ∃ destination, destination? inputDirectory path.raw = some destination ∧
        destination.components = inputDirectory.components ++
          (Path.segments path.raw.toList).map nameOf) ∧
    (∀ path other : ObjectPath, path.IsLocation → other.IsLocation → path ≠ other →
      ∀ destination destination', destination? inputDirectory path.raw = some destination →
        destination? inputDirectory other.raw = some destination' →
          destination.components ≠ destination'.components) ∧
    ∀ (remote : RemoteStore) (bucket : String) (there : RemoteBucket),
      remote bucket = .ok there → there.ListsLocations → ∀ payloadId objects,
      remote.toStore.list bucket payloadId = .ok objects →
      (∀ object ∈ objects, (ObjectPath.mk object.key).IsLocation) ∧
      ∀ times ignoreManifests tree medium,
        let work := Staging.stagePayload remote.toStore times bucket payloadId inputDirectory
          ignoreManifests tree medium
        (∀ other key, .get other key ∈ calls work.journal →
          key ∈ objects.map ObjectRef.key ∧ ObjectPath.parse key = .ok ⟨key⟩) ∧
        (∀ key, work.outcome ≠ .error (.unsafeKey key)) ∧
        ∀ key fault, work.outcome = .error (.download key fault) →
          there.FailsAt bucket key fault := by
  refine ⟨fun path location => ?_, ?_, ?_⟩
  · exact ⟨location.getLast?_ne_slash, location.parse_raw, _,
      location.destination_eq inputDirectory, location.components_join_raw inputDirectory⟩
  · intro path other location also differ destination destination' place place' same
    obtain ⟨-, rfl⟩ := (destination?_eq_some_iff _ _ _).mp place
    obtain ⟨-, rfl⟩ := (destination?_eq_some_iff _ _ _).mp place'
    exact differ (location.eq_of_components also same)
  · intro remote bucket there reached lists payloadId objects listed
    have locations := RemoteBucket.list_locations lists
      ((RemoteStore.list_eq reached payloadId).symm.trans listed)
    refine ⟨locations, fun times ignoreManifests tree medium => ?_⟩
    intro work
    refine ⟨fun other key member => ?_, fun key ended => ?_, fun key fault ended => ?_⟩
    · have among := Staging.key_mem_of_get_mem listed member
      obtain ⟨object, present, rfl⟩ := List.mem_map.mp among
      exact ⟨among, (locations object present).parse_raw⟩
    · obtain ⟨object, present, before, made, file, after, failure⟩ :=
        Staging.exists_failure_of_error listed ended
      cases failure with
      | escaping unsafeKey =>
          rw [(isSafeKey_iff _).mpr (locations object present).descends] at unsafeKey
          cases unsafeKey
    · obtain ⟨object, present, before, made, file, after, failure⟩ :=
        Staging.exists_failure_of_error listed ended
      have location := locations object present
      cases failure with
      | unopened safe closed =>
          rw [RemoteStore.get_eq reached] at closed
          exact RemoteBucket.failsAt_of_unopened location closed
      | unread safe opened ready creation taken broken
      | unheard safe opened ready creation refused late broken =>
          rw [RemoteStore.get_eq reached] at opened
          exact RemoteBucket.failsAt_of_broken location opened broken

theorem Shelf.lists_locations {shelf : Shelf} {opening : ObjectPath → Except RemoteError (List Part)}
    (locations : ∀ entry ∈ shelf.objects, entry.1.IsLocation) :
    (RemoteBucket.mk shelf.listing opening).ListsLocations := by
  intro parent objects listed object member
  cases Except.ok.inj listed
  obtain ⟨entry, among, rfl⟩ := List.mem_map.mp member
  exact locations entry (List.mem_filter.mp among).1

/-- Segments with dots in them are names.  Of two objects the first is staged, and the second fails only
because the network breaks it off. -/
theorem staging_takes_dotted_segments :
    let shelf : Shelf := ⟨[(⟨"p/.../a."⟩, 2), (⟨"p/..b"⟩, 1)]⟩
    let there : RemoteBucket := ⟨shelf.listing, fun path =>
      .ok [.content [1, 2], if path.raw = "p/..b" then .fault .notImplemented else .content []]⟩
    let remote : RemoteStore := fun _ => .ok there
    let work := Staging.stagePayload remote.toStore (fun _ => .zero) "data" "p" ⟨"/w"⟩ true
      Rehearsal.stage .sound
    let fault := StoreError.backend "Operation not yet implemented."
    there.ListsLocations ∧ work.outcome = .error (.download "p/..b" fault) ∧
      there.FailsAt "data" "p/..b" fault ∧ ObjectPath.parse "p/.../a." = .ok ⟨"p/.../a."⟩ ∧
      (Path.mk "/w/p/.../a.").components ≠ (Path.mk "/w/p/..b").components := by
  intro shelf there remote work fault
  have locations : ∀ entry ∈ shelf.objects, entry.1.IsLocation := by
    intro entry member
    simp only [shelf, List.mem_cons, List.not_mem_nil, or_false] at member
    rcases member with rfl | rfl <;> decide +kernel
  have first : (ObjectPath.mk "p/.../a.").IsLocation := locations _ List.mem_cons_self
  have second : (ObjectPath.mk "p/..b").IsLocation := locations (⟨"p/..b"⟩, 1) (by simp [shelf])
  have lists : there.ListsLocations := Shelf.lists_locations locations
  have ended : work.outcome = .error (.download "p/..b" fault) := by decide +kernel
  obtain ⟨agrees, differ, staged⟩ := staging_takes_listed_keys ⟨"/w"⟩
  obtain ⟨-, staging⟩ := staged remote "data" there rfl lists "p" _ rfl
  obtain ⟨-, -, broken⟩ := staging (fun _ => .zero) true Rehearsal.stage .sound
  exact ⟨lists, ended, broken _ _ ended, (agrees _ first).2.1,
    differ _ _ first second (by decide) _ _ (by decide) (by decide)⟩

end Stagehand
