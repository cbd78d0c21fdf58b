import Mathlib.Data.List.Count
import Mathlib.Tactic.SplitIfs
import Stagehand.Proofs.Path.Segments
import Stagehand.Proofs.Text.Encoded
import Stagehand.Store.Listing

/-! # Which objects a listing finds

A store lists by whole segments below a path, and that path is made from the text that keys have to
start with.  Where making it leaves every byte as it is, every object is found whose key starts with
the text.  Where a byte is written as a percent code, the path is another one than the keys spell,
and nothing is found at all.
-/

set_option autoImplicit false

namespace Stagehand

open Stagehand.Path

namespace ObjectPath

/-- A path that a store can list: no segment of it is empty, a dot or two dots, and none has a
control character. -/
structure IsLocation (path : ObjectPath) : Prop where
  written : ∀ piece ∈ Path.segments path.raw.toList, piece ≠ []
  undotted : ∀ piece ∈ Path.segments path.raw.toList, piece ≠ ['.'] ∧ piece ≠ ['.', '.']
  printable : ∀ piece ∈ Path.segments path.raw.toList, ∀ c ∈ piece, isControl c = false

instance : DecidablePred IsLocation := fun path =>
  decidable_of_iff ((Path.segments path.raw.toList).all fun piece =>
      piece ≠ [] ∧ (piece ≠ ['.'] ∧ piece ≠ ['.', '.']) ∧ piece.all (isControl · = false)) <| by
    simp only [List.all_eq_true, decide_eq_true_eq]
    exact ⟨fun all => ⟨fun piece among => (all piece among).1,
        fun piece among => (all piece among).2.1, fun piece among => (all piece among).2.2⟩,
      fun path piece among => ⟨path.written piece among, path.undotted piece among,
        path.printable piece among⟩⟩

/-! ## What a segment is encoded as -/

/-- What stands for a byte in an encoded segment. -/
def byteCode (b : UInt8) : List Char :=
  if keepsByte b then [Char.ofNat b.toNat] else percentCode b

/-- What stands for a character. -/
def charCode (c : Char) : List Char :=
  (String.utf8EncodeChar c).flatMap byteCode

/-- The character is encoded as itself. -/
def keepsChar (c : Char) : Bool :=
  (String.utf8EncodeChar c).all keepsByte

theorem encodeSegment_of_plain {segment : List Char} (undotted : segment ≠ ['.'])
    (straight : segment ≠ ['.', '.']) : encodeSegment segment = segment.flatMap charCode := by
  unfold encodeSegment
  rw [if_neg undotted, if_neg straight, Text.encode_ofList, List.flatMap_assoc]
  rfl

theorem keepsByte_lt : ∀ b, keepsByte b = true → b < 0x80 :=
  Text.forall_byte (by decide +kernel)

/-- Only a character of ASCII has a byte that is kept. -/
theorem ascii_of_keepsByte {c : Char} {b : UInt8} (member : b ∈ String.utf8EncodeChar c)
    (kept : keepsByte b = true) : c.toNat < 0x80 := by
  by_contra beyond
  have above := Text.le_of_mem_encodeChar (Nat.le_of_not_lt beyond) member
  exact absurd (keepsByte_lt b kept) (UInt8.not_lt.mpr above)

theorem encodeSegment_cases (segment : List Char) :
    segment = ['.'] ∨ segment = ['.', '.'] ∨ encodeSegment segment = segment.flatMap charCode := by
  by_cases dotted : segment = ['.'] ∨ segment = ['.', '.']
  · exact dotted.imp_right Or.inl
  · obtain ⟨undotted, straight⟩ := not_or.mp dotted
    exact Or.inr (Or.inr (encodeSegment_of_plain undotted straight))

theorem length_percentCode (b : UInt8) : 3 ≤ (percentCode b).length := by
  simp only [percentCode, List.length_cons, List.length_append, List.length_replicate]
  omega

theorem charCode_of_keeps {c : Char} (kept : keepsChar c = true) : charCode c = [c] := by
  obtain ⟨first, others, split, -, -⟩ := Text.encodeChar_eq_cons c
  have firstKept : keepsByte first = true := by
    simp only [keepsChar, split, List.all_cons, Bool.and_eq_true] at kept
    exact kept.1
  have ascii : c.toNat < 0x80 := by
    apply ascii_of_keepsByte _ firstKept
    rw [split]
    exact List.mem_cons_self
  have code : (UInt8.ofNat c.toNat).toNat = c.toNat := by
    rw [UInt8.toNat_ofNat']
    omega
  rw [keepsChar, Text.encodeChar_of_ascii ascii, List.all_cons, List.all_nil, Bool.and_true] at kept
  rw [charCode, Text.encodeChar_of_ascii ascii, List.flatMap_cons, List.flatMap_nil,
    List.append_nil, byteCode, if_pos kept, code, Char.ofNat_toNat]

/-- A character takes a place at least in its code, and more than one if it is not kept. -/
theorem length_charCode (c : Char) :
    1 + (if keepsChar c then 0 else 1) ≤ (charCode c).length := by
  by_cases kept : keepsChar c = true
  · simp [charCode_of_keeps kept, kept]
  · obtain ⟨b, member, lost⟩ : ∃ b ∈ String.utf8EncodeChar c, keepsByte b = false := by
      simpa [keepsChar] using kept
    obtain ⟨before, after, split⟩ := List.append_of_mem member
    have long := length_percentCode b
    rw [if_neg kept, charCode, split, List.flatMap_append, List.flatMap_cons, byteCode,
      if_neg (by simp [lost])]
    simp only [List.length_append]
    omega

theorem length_flatMap_charCode (segment : List Char) :
    segment.length + segment.countP (fun c => !keepsChar c) ≤
      (segment.flatMap charCode).length := by
  induction segment with
  | nil => simp
  | cons c rest ih =>
      have first := length_charCode c
      cases kept : keepsChar c <;>
        simp only [kept, List.flatMap_cons, List.length_append, List.length_cons,
          List.countP_cons, Bool.not_true, Bool.not_false, if_true, Bool.false_eq_true,
          if_false] at first ⊢ <;>
        omega

theorem flatMap_charCode_of_keeps {segment : List Char}
    (kept : ∀ c ∈ segment, keepsChar c = true) : segment.flatMap charCode = segment := by
  induction segment with
  | nil => rfl
  | cons c rest ih =>
      rw [List.flatMap_cons, charCode_of_keeps (kept c List.mem_cons_self),
        ih fun other member => kept other (List.mem_cons_of_mem _ member)]
      rfl

theorem encodeSegment_eq_self_iff {segment : List Char} (undotted : segment ≠ ['.'])
    (straight : segment ≠ ['.', '.']) :
    encodeSegment segment = segment ↔ ∀ c ∈ segment, keepsChar c = true := by
  rw [encodeSegment_of_plain undotted straight]
  constructor
  · intro same c member
    have long := length_flatMap_charCode segment
    rw [same] at long
    have none : segment.countP (fun c => !keepsChar c) = 0 := by omega
    have kept := List.countP_eq_zero.mp none c member
    simpa using kept
  · exact flatMap_charCode_of_keeps

theorem slash_not_mem_percentCode : ∀ b, '/' ∉ percentCode b :=
  Text.forall_byte (by decide +kernel)

theorem slash_not_mem_charCode {c : Char} (other : c ≠ '/') : '/' ∉ charCode c := by
  by_cases kept : keepsChar c = true
  · rw [charCode_of_keeps kept, List.mem_singleton]
    exact Ne.symm other
  · intro member
    obtain ⟨b, among, member⟩ := List.mem_flatMap.mp member
    have lost : ¬ keepsByte b = true := by
      intro keeps
      have single := Text.encodeChar_of_ascii (ascii_of_keepsByte among keeps)
      rw [single, List.mem_singleton] at among
      simp [keepsChar, single, ← among, keeps] at kept
    rw [byteCode, if_neg lost] at member
    exact slash_not_mem_percentCode b member

theorem slash_not_mem_encodeSegment {segment : List Char} (plain : '/' ∉ segment) :
    '/' ∉ encodeSegment segment := by
  rcases encodeSegment_cases segment with rfl | rfl | coded
  · decide
  · decide
  · rw [coded]
    intro member
    obtain ⟨c, among, member⟩ := List.mem_flatMap.mp member
    refine slash_not_mem_charCode (fun same => ?_) member
    exact plain (same ▸ among)

theorem encodeSegment_ne_nil {segment : List Char} (written : segment ≠ []) :
    encodeSegment segment ≠ [] := by
  rcases encodeSegment_cases segment with rfl | rfl | coded
  · decide
  · decide
  · rw [coded]
    have long := length_flatMap_charCode segment
    have some := List.length_pos_of_ne_nil written
    intro none
    rw [none, List.length_nil] at long
    omega

/-! ## The segments of a path -/

theorem segments_of_pieces {pieces : List (List Char)} (nonempty : pieces ≠ [])
    (plain : ∀ piece ∈ pieces, '/' ∉ piece) (written : ∀ piece ∈ pieces, piece ≠ []) :
    (ObjectPath.mk (String.ofList (joinSegments pieces))).segments = pieces := by
  have split := segments_joinSegments nonempty plain
  unfold segments
  rw [String.toList_ofList, split]
  refine if_neg fun trailing => ?_
  exact written [] (List.mem_of_getLast? trailing) rfl

theorem IsLocation.segments_eq {path : ObjectPath} (location : path.IsLocation) :
    path.segments = Path.segments path.raw.toList := by
  unfold segments
  exact if_neg fun trailing => location.written [] (List.mem_of_getLast? trailing) rfl

theorem segments_ofText {parent : List Char}
    (written : ∀ piece ∈ Path.segments parent, piece ≠ []) :
    (ofText (String.ofList parent)).segments = (Path.segments parent).map encodeSegment := by
  have whole : (Path.segments parent).filter (· ≠ []) = Path.segments parent := by
    rw [List.filter_eq_self]
    intro piece member
    simpa using written piece member
  unfold ofText
  rw [String.toList_ofList, whole]
  apply segments_of_pieces
  · simpa using segments_ne_nil parent
  · intro piece member
    obtain ⟨plain, among, rfl⟩ := List.mem_map.mp member
    exact slash_not_mem_encodeSegment (slash_not_mem_of_mem_segments among)
  · intro piece member
    obtain ⟨plain, among, rfl⟩ := List.mem_map.mp member
    exact encodeSegment_ne_nil (written plain among)

theorem forall_segments_iff {text : List Char} {property : Char → Prop} (slash : property '/') :
    (∀ piece ∈ Path.segments text, ∀ c ∈ piece, property c) ↔ ∀ c ∈ text, property c := by
  induction text with
  | nil => simp [Path.segments]
  | cons c rest ih =>
      obtain ⟨first, others, split⟩ := List.exists_cons_of_ne_nil (segments_ne_nil rest)
      rw [split] at ih
      by_cases same : c = '/'
      · rw [Path.segments, if_pos same, split, List.forall_mem_cons, ih, List.forall_mem_cons, same]
        simp [slash]
      · simp only [Path.segments, if_neg same, split, List.forall_mem_cons, ← ih, and_assoc]

/-- The path made from what stands before a slash is above a location exactly if every character of
it is encoded as itself. -/
theorem isAbove_ofText_iff {path : ObjectPath} {parent more : List Char}
    (location : path.IsLocation) (spelled : path.raw.toList = parent ++ '/' :: more) :
    (ofText (String.ofList parent)).isAbove path = true ↔ ∀ c ∈ parent, keepsChar c = true := by
  have pieces : Path.segments path.raw.toList =
      Path.segments parent ++ Path.segments more := by
    rw [spelled, segments_append_slash]
  have among : ∀ piece ∈ Path.segments parent, piece ∈ Path.segments path.raw.toList := by
    intro piece member
    rw [pieces]
    exact List.mem_append_left _ member
  have encoded := segments_ofText fun piece member => location.written piece (among piece member)
  have longer : (Path.segments parent).length <
      (Path.segments parent ++ Path.segments more).length := by
    have := List.length_pos_of_ne_nil (segments_ne_nil more)
    rw [List.length_append]
    omega
  -- There are as many encoded segments as plain ones, so they can only stand in their place.
  have same : (Path.segments parent).map encodeSegment <+:
        Path.segments parent ++ Path.segments more ↔
      (Path.segments parent).map encodeSegment = Path.segments parent := by
    constructor
    · intro starts
      have shorter := List.prefix_of_prefix_length_le starts (List.prefix_append _ _)
        (Nat.le_of_eq (List.length_map _))
      exact shorter.eq_of_length (List.length_map _)
    · intro equal
      rw [equal]
      exact List.prefix_append _ _
  have each : (Path.segments parent).map encodeSegment = Path.segments parent ↔
      ∀ piece ∈ Path.segments parent, encodeSegment piece = piece := by
    simpa using List.map_inj_left (l := Path.segments parent) (f := encodeSegment) (g := id)
  unfold isAbove
  rw [location.segments_eq, encoded, pieces, List.length_map, decide_eq_true longer,
    Bool.and_true, List.isPrefixOf_iff_prefix, same, each,
    ← forall_segments_iff (by decide : keepsChar '/' = true)]
  refine forall₂_congr fun piece member => ?_
  obtain ⟨undotted, straight⟩ := location.undotted piece (among piece member)
  exact encodeSegment_eq_self_iff undotted straight

end ObjectPath

/-! ## Listings -/

/-- An object as a listing shows it. -/
def ObjectRef.ofEntry (entry : ObjectPath × Nat) : ObjectRef :=
  ⟨entry.1.raw, entry.2⟩

/-- The listing of a store with these objects: all of them, or those below a path, in one order. -/
structure SegmentListing.Shows (listing : SegmentListing) (objects : List (ObjectPath × Nat)) :
    Prop where
  everything : listing none = .ok (objects.map .ofEntry)
  below : ∀ parent, listing (some parent) =
    .ok ((objects.filter fun entry => parent.isAbove entry.1).map .ofEntry)

/-- The objects whose keys start with a text, as a listing shows them. -/
def matching (objects : List (ObjectPath × Nat)) (startingWith : String) : List ObjectRef :=
  (objects.map .ofEntry).filter fun object =>
    startingWith.toList.isPrefixOf object.key.toList

theorem Shelf.listing_shows {shelf : Shelf}
    (locations : ∀ entry ∈ shelf.objects, entry.1.IsLocation) :
    SegmentListing.Shows shelf.listing shelf.objects := by
  refine ⟨?_, fun parent => rfl⟩
  have all : (shelf.objects.filter fun entry => (ObjectPath.mk "").isAbove entry.1) =
      shelf.objects := by
    rw [List.filter_eq_self]
    intro entry member
    have nonempty : 0 < entry.1.segments.length := by
      rw [(locations entry member).segments_eq]
      exact List.length_pos_of_ne_nil (segments_ne_nil _)
    have bare : (ObjectPath.mk "").segments = [] := rfl
    simp [ObjectPath.isAbove, bare, nonempty]
  simp only [listing, Option.getD_none, all]
  rfl

theorem toList_of_beforeLastSlash {text parent : String}
    (found : beforeLastSlash? text = some parent) :
    ∃ last, text.toList = parent.toList ++ '/' :: last := by
  unfold beforeLastSlash? at found
  have whole := joinSegments_segments text.toList
  obtain ⟨front, last, split⟩ :=
    (List.eq_nil_or_concat (Path.segments text.toList)).resolve_left (segments_ne_nil _)
  rw [List.concat_eq_append] at split
  rw [split, List.dropLast_concat] at found
  cases front with
  | nil => cases found
  | cons first others =>
      cases Option.some.inj found
      refine ⟨last, ?_⟩
      rw [← whole, split, String.toList_ofList, joinSegments_concat (List.cons_ne_nil _ _)]

theorem forall_keepsByte_iff (text : String) :
    (∀ b ∈ Text.encode text, ObjectPath.keepsByte b = true) ↔
      ∀ c ∈ text.toList, ObjectPath.keepsChar c = true := by
  simp only [Text.encode_eq, List.mem_flatMap, ObjectPath.keepsChar, List.all_eq_true]
  constructor
  · intro every c member b among
    exact every b ⟨c, member, among⟩
  · rintro every b ⟨c, member, among⟩
    exact every c member b among

/-- No byte before the last slash of the text is written as a percent code in a path. -/
def ParentKept (startingWith : String) : Prop :=
  ∀ front ∈ beforeLastSlash? startingWith, ∀ b ∈ Text.encode front, ObjectPath.keepsByte b = true

theorem parentKept_of_listingParent_none {startingWith : String}
    (everything : listingParent? startingWith = none) : ParentKept startingWith := by
  intro front cut b member
  unfold listingParent? at everything
  rw [Option.mem_def.mp cut] at everything
  dsimp only at everything
  split_ifs at everything with bare
  rw [String.isEmpty_iff.mp bare, Text.encode_eq] at member
  cases member

/-- An object whose key starts with the text is below the path that the listing starts from, exactly
if that path spells what stands before the last slash. -/
theorem isAbove_listingParent_iff {path parent : ObjectPath} {startingWith : String}
    (location : path.IsLocation) (starts : startingWith.toList <+: path.raw.toList)
    (found : listingParent? startingWith = some parent) :
    parent.isAbove path = true ↔ ParentKept startingWith := by
  unfold listingParent? at found
  unfold ParentKept
  cases cut : beforeLastSlash? startingWith with
  | none => simp [cut] at found
  | some front =>
      simp only [cut] at found
      split_ifs at found with bare
      cases Option.some.inj found
      obtain ⟨last, split⟩ := toList_of_beforeLastSlash cut
      obtain ⟨rest, whole⟩ := starts
      have spelled : path.raw.toList = front.toList ++ '/' :: (last ++ rest) := by
        rw [← whole, split]
        simp
      have above := ObjectPath.isAbove_ofText_iff location spelled
      rw [String.ofList_toList] at above
      rw [above, ← forall_keepsByte_iff]
      simp

section

variable {listing : SegmentListing} {objects : List (ObjectPath × Nat)}

theorem listStartingWith_of_none (shows : listing.Shows objects) {startingWith : String}
    (everything : listingParent? startingWith = none) :
    listStartingWith listing startingWith = .ok (matching objects startingWith) := by
  unfold listStartingWith
  rw [everything, shows.everything]
  rfl

theorem listStartingWith_of_some (shows : listing.Shows objects) {startingWith : String}
    {parent : ObjectPath} (found : listingParent? startingWith = some parent) :
    listStartingWith listing startingWith =
      .ok ((objects.filter fun entry => startingWith.toList.isPrefixOf entry.1.raw.toList &&
        parent.isAbove entry.1).map .ofEntry) := by
  unfold listStartingWith
  rw [found, shows.below, Except.map, List.filter_map, List.filter_filter]
  rfl

theorem matching_eq (startingWith : String) :
    matching objects startingWith =
      (objects.filter fun entry => startingWith.toList.isPrefixOf entry.1.raw.toList).map
        .ofEntry := by
  unfold matching
  rw [List.filter_map]
  rfl

/-- The listing finds exactly the objects whose keys start with the text, in the order of the store
and each once, as long as the path that it starts from spells the text up to its last slash.
Otherwise it finds nothing. -/
theorem listStartingWith_finds_matching (shows : listing.Shows objects)
    (locations : ∀ entry ∈ objects, entry.1.IsLocation)
    (distinct : (objects.map fun entry => entry.1.raw).Nodup) (startingWith : String) :
    (ParentKept startingWith →
        listStartingWith listing startingWith = .ok (matching objects startingWith)) ∧
      (¬ ParentKept startingWith → listStartingWith listing startingWith = .ok []) ∧
      ((matching objects startingWith).map ObjectRef.key).Nodup := by
  refine ⟨fun kept => ?_, fun lost => ?_, ?_⟩
  · cases found : listingParent? startingWith with
    | none => exact listStartingWith_of_none shows found
    | some parent =>
        rw [listStartingWith_of_some shows found, matching_eq]
        congr 2
        refine List.filter_congr fun entry member => ?_
        cases starts : startingWith.toList.isPrefixOf entry.1.raw.toList with
        | false => rfl
        | true =>
            rw [(isAbove_listingParent_iff (locations entry member)
              (List.isPrefixOf_iff_prefix.mp starts) found).mpr kept]
            rfl
  · cases found : listingParent? startingWith with
    | none => exact absurd (parentKept_of_listingParent_none found) lost
    | some parent =>
        rw [listStartingWith_of_some shows found]
        congr 1
        rw [List.map_eq_nil_iff, List.filter_eq_nil_iff]
        intro entry member both
        rw [Bool.and_eq_true] at both
        exact lost ((isAbove_listingParent_iff (locations entry member)
          (List.isPrefixOf_iff_prefix.mp both.1) found).mp both.2)
  · rw [matching_eq, List.map_map]
    exact distinct.sublist (List.filter_sublist.map _)

end

/-- Of three objects whose keys share a beginning, the two below the segment are found. -/
theorem listStartingWith_finds_segment :
    let objects : List (ObjectPath × Nat) := [(⟨"p1/a"⟩, 3), (⟨"p1/b/c"⟩, 0), (⟨"p10/a"⟩, 5)]
    SegmentListing.Shows (Shelf.mk objects).listing objects ∧
      (∀ entry ∈ objects, entry.1.IsLocation) ∧
      (objects.map fun entry => entry.1.raw).Nodup ∧ ParentKept "p1/" ∧
      listStartingWith (Shelf.mk objects).listing "p1/" = .ok [⟨"p1/a", 3⟩, ⟨"p1/b/c", 0⟩] := by
  intro objects
  have locations : ∀ entry ∈ objects, entry.1.IsLocation := by
    intro entry member
    simp only [objects, List.mem_cons, List.not_mem_nil, or_false] at member
    rcases member with rfl | rfl | rfl <;> decide +kernel
  have shows := @Shelf.listing_shows ⟨objects⟩ locations
  have distinct : (objects.map fun entry => entry.1.raw).Nodup := by decide
  have kept : ParentKept "p1/" := by
    unfold ParentKept
    decide +kernel
  refine ⟨shows, locations, distinct, kept, ?_⟩
  rw [(listStartingWith_finds_matching shows locations distinct "p1/").1 kept]
  rfl

/-- A segment with a letter beyond ASCII is looked for under its percent code, so the object whose
key starts with it is not found. -/
theorem listStartingWith_misses_accented_segment :
    (ObjectPath.mk "é/scan").IsLocation ∧
      listStartingWith (Shelf.mk [(⟨"é/scan"⟩, 1)]).listing "é/" = .ok [] ∧
      matching [(⟨"é/scan"⟩, 1)] "é/" = [⟨"é/scan", 1⟩] := by
  refine ⟨by decide +kernel, rfl, ?_⟩
  decide +kernel

end Stagehand
