import Stagehand.Proofs.Path.Components
import Stagehand.Staging.Destination

/-! # Which keys have a place

A key is taken exactly if it descends: it is not empty, starts neither at the root nor with a dot, and
never steps up.  Its place is then the input directory with the segments of the key behind it, less
those that are empty or a dot, and these segments alone decide which place it is.
-/

set_option autoImplicit false

namespace Stagehand

open Stagehand.Path

/-- The key leads down from wherever it is taken, and at least by one name. -/
structure Descends (key : String) : Prop where
  written : key ≠ ""
  relative : key.toList.head? ≠ some '/'
  undotted : (segments key.toList).head? ≠ some ['.']
  straight : ['.', '.'] ∉ segments key.toList

instance : DecidablePred Descends := fun key =>
  decidable_of_iff (key ≠ "" ∧ key.toList.head? ≠ some '/' ∧
      (segments key.toList).head? ≠ some ['.'] ∧ ['.', '.'] ∉ segments key.toList)
    ⟨fun ⟨written, relative, undotted, straight⟩ => ⟨written, relative, undotted, straight⟩,
      fun descends => ⟨descends.written, descends.relative, descends.undotted, descends.straight⟩⟩

/-- The segments of a key that name something: empty ones and dots do not. -/
def namingSegments (key : String) : List (List Char) :=
  (segments key.toList).filter fun piece => piece ≠ [] ∧ piece ≠ ['.']

/-- The component that a segment with a name in it stands for. -/
def nameOf (segment : List Char) : Path.Component :=
  .name (String.ofList segment)

theorem nameOf_injective : Function.Injective nameOf := by
  intro first second same
  exact String.ofList_injective (Path.Component.name.inj same)

namespace Path

/-- Without a step up, the components of segments are their names. -/
theorem filterMap_component?_of_straight {pieces : List (List Char)}
    (straight : ['.', '.'] ∉ pieces) :
    pieces.filterMap component? =
      (pieces.filter fun piece => piece ≠ [] ∧ piece ≠ ['.']).map nameOf := by
  induction pieces with
  | nil => rfl
  | cons piece others ih =>
      rw [List.mem_cons, not_or] at straight
      rw [List.filterMap_cons, component?, if_neg (Ne.symm straight.1), ih straight.2]
      by_cases trivial : piece = [] ∨ piece = ['.']
      · rw [if_pos trivial, List.filter_cons_of_neg]
        simpa [or_iff_not_imp_left] using trivial
      · rw [if_neg trivial, List.filter_cons_of_pos]
        · rfl
        · simpa [not_or] using trivial

end Path

namespace Descends

variable {key : String}

theorem isAbsolute (descends : Descends key) : (Path.mk key).isAbsolute = false :=
  (isAbsolute_eq_false_iff key).mpr descends.relative

theorem components (descends : Descends key) :
    (Path.mk key).components = (namingSegments key).map nameOf := by
  rw [components_of_relative descends.isAbsolute descends.undotted,
    filterMap_component?_of_straight descends.straight]
  rfl

/-- The first segment of a key that descends is a name. -/
theorem starts (descends : Descends key) :
    ∃ first others, segments key.toList = first :: others ∧ isStep first = true := by
  obtain ⟨first, others, split⟩ := List.exists_cons_of_ne_nil (segments_ne_nil key.toList)
  have undotted : first ≠ ['.'] := by simpa [split] using descends.undotted
  have filled : first ≠ [] := by
    rintro rfl
    have nonempty : key.toList ≠ [] := by simpa using descends.written
    obtain ⟨c, rest, spelled⟩ := List.exists_cons_of_ne_nil nonempty
    have slash : c ≠ '/' := by simpa [spelled] using descends.relative
    have tail := segments_ne_nil rest
    rw [spelled, segments, if_neg slash] at split
    split at split
    · exact absurd ‹_› tail
    · cases split
  exact ⟨first, others, split, isStep_iff.mpr ⟨filled, undotted⟩⟩

theorem namingSegments_ne_nil (descends : Descends key) : namingSegments key ≠ [] := by
  obtain ⟨first, others, split, step⟩ := descends.starts
  unfold namingSegments
  rw [split, List.filter_cons_of_pos (by simpa using isStep_iff.mp step)]
  exact List.cons_ne_nil _ _

/-- A key that descends and does not end in a slash only leads down. -/
theorem leadsDown (descends : Descends key) (unslashed : key.toList.getLast? ≠ some '/') :
    LeadsDown (segments key.toList) where
  starts := descends.starts
  plain := fun _ member up => descends.straight (up ▸ member)
  ends := fun trailing =>
    unslashed ((getLast?_segments_eq_nil (by simpa using descends.written)).mp trailing)

end Descends

theorem isSafeKey_iff (key : String) : isSafeKey key = true ↔ Descends key := by
  simp only [isSafeKey, Bool.and_eq_true, Bool.not_eq_true', List.all_eq_true]
  constructor
  · rintro ⟨written, named⟩
    obtain ⟨first, others, split⟩ := List.exists_cons_of_ne_nil (segments_ne_nil key.toList)
    have parts := @components_of_segments ⟨key⟩ _ _ split
    have relative : (Path.mk key).isAbsolute = false := by
      by_contra absolute
      rw [parts, if_pos (by simpa using absolute)] at named
      exact Bool.false_ne_true (named .root List.mem_cons_self)
    have undotted : first ≠ ['.'] := by
      intro dotted
      rw [parts, relative, if_neg Bool.false_ne_true, if_pos dotted] at named
      exact Bool.false_ne_true (named .here List.mem_cons_self)
    refine ⟨by simpa using written, (isAbsolute_eq_false_iff key).mp relative,
      by simpa [split] using undotted, fun up => ?_⟩
    rw [components_of_relative relative (by simpa [split] using undotted)] at named
    exact Bool.false_ne_true (named .up (List.mem_filterMap.mpr ⟨_, up, rfl⟩))
  · intro descends
    refine ⟨by simpa using descends.written, fun component member => ?_⟩
    rw [descends.components] at member
    obtain ⟨piece, -, rfl⟩ := List.mem_map.mp member
    rfl

theorem destination?_eq_some_iff (inputDirectory : Path) (key : String) (destination : Path) :
    destination? inputDirectory key = some destination ↔
      Descends key ∧ destination = inputDirectory.join key := by
  unfold destination?
  rw [← isSafeKey_iff]
  split_ifs with safe
  · simp [safe, eq_comm]
  · simp [safe]

theorem components_destination {inputDirectory destination : Path} {key : String}
    (place : destination? inputDirectory key = some destination) :
    destination.components = inputDirectory.components ++ (namingSegments key).map nameOf := by
  obtain ⟨descends, rfl⟩ := (destination?_eq_some_iff _ _ _).mp place
  rw [components_join descends.isAbsolute descends.undotted, descends.components]

/-- A key has a place exactly if it descends.  The place is below the input directory, by one name at
least and by names only, and two keys share it exactly if their naming segments are the same. -/
theorem destination?_of_descending (inputDirectory : Path) :
    (∀ key, (destination? inputDirectory key).isSome = true ↔ Descends key) ∧
    (∀ key destination, destination? inputDirectory key = some destination →
      ∃ added, destination.components = inputDirectory.components ++ added ∧
        added = (namingSegments key).map nameOf ∧ added ≠ [] ∧
        ∀ component ∈ added, ∃ name, component = .name name ∧ name ∉ ["", ".", ".."]) ∧
    ∀ key other destination destination', destination? inputDirectory key = some destination →
      destination? inputDirectory other = some destination' →
      (destination.components = destination'.components ↔
        namingSegments key = namingSegments other) := by
  refine ⟨fun key => ?_, fun key destination place => ?_, ?_⟩
  · simp [Option.isSome_iff_exists, destination?_eq_some_iff]
  · obtain ⟨descends, -⟩ := (destination?_eq_some_iff _ _ _).mp place
    refine ⟨_, components_destination place, rfl, ?_, fun component member => ?_⟩
    · simpa using descends.namingSegments_ne_nil
    · obtain ⟨piece, among, rfl⟩ := List.mem_map.mp member
      obtain ⟨segment, naming⟩ := List.mem_filter.mp among
      have straight : piece ≠ ['.', '.'] := fun up => descends.straight (up ▸ segment)
      refine ⟨_, rfl, ?_⟩
      simp only [decide_eq_true_eq] at naming
      simp [← String.toList_inj, naming.1, naming.2, straight]
  · intro key other destination destination' place place'
    rw [components_destination place, components_destination place', List.append_cancel_left_eq,
      nameOf_injective.list_map.eq_iff]

/-- Keys that differ in slashes and dots only have one place, and a dot in front spoils a key. -/
theorem destination?_of_dotted_keys :
    let input : Path := ⟨"w/a/input"⟩
    Descends "p//./f" ∧ Descends "p/f/." ∧ destination? input "./p/f" = none ∧
      (Path.mk "w/a/input/p//./f").components = (Path.mk "w/a/input/p/f/.").components := by
  intro input
  obtain ⟨taken, -, shared⟩ := destination?_of_descending input
  refine ⟨(taken _).mp (by decide), (taken _).mp (by decide), by decide, ?_⟩
  exact (shared "p//./f" "p/f/." _ _ (by decide) (by decide)).mpr (by decide)

end Stagehand
