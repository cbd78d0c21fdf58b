import Stagehand.Proofs.FileTree.Edits

/-! # Making directories and files below a base

A directory made below a base, with the parents that it lacks, adds directories on the way to it and
does nothing else, whether it succeeds or not; a file is created where nothing or a file stood.
-/

set_option autoImplicit false

namespace Stagehand.FileTree

open Stagehand.Path (segments names isStep LeadsDown Below)

variable {tree after : FileTree} {base path : Path} {location : Location}
  {pieces : List (List Char)}

theorem isDirectory_iff :
    tree.isDirectory path = true ↔ ∃ place, tree.find path = .ok (place, .directory) := by
  unfold isDirectory
  split <;> simp_all

theorem way_mono {short long : List String} (shorter : short <+: long) (place : Location)
    (way : Way location short place) : Way location long place := by
  obtain ⟨front, nonempty, starts, same⟩ := way
  exact ⟨front, nonempty, starts.trans shorter, same⟩

section

variable (found : tree.find base = .ok (location, .directory)) (below : Below base pieces path)
  (linkFree : tree.LinkFreeBelow location)

include found below linkFree

theorem find_of_isDirectory (stands : tree.isDirectory path = true) :
    tree.find path = .ok (location ++ names pieces, .directory) := by
  obtain ⟨place, there⟩ := isDirectory_iff.mp stands
  obtain ⟨-, rfl, -⟩ := (find_below_iff found below linkFree).mp there
  exact there

theorem makeDirectory_of_ok (made : tree.makeDirectory path = .ok after) :
    Edits (Way location (names pieces)) nowhere tree after ∧
      after.find path = .ok (location ++ names pieces, .directory) := by
  obtain ⟨place, resolved, rfl⟩ := makeDirectory_eq_ok_iff.mp made
  obtain ⟨accepted, ends⟩ := ends_of_resolve found below linkFree resolved
  cases ends with
  | free front last split opened seen =>
      have free : tree.at? (location ++ names pieces) = none := by
        rw [split, ← List.append_assoc]
        exact look_eq_ok seen
      have nonempty := below.down.names_ne_nil
      have edits : Edits (Way location (names pieces)) nowhere tree
          (tree.put (location ++ names pieces) .directory) :=
        .put_directory ⟨names pieces, nonempty, List.prefix_rfl, rfl⟩ free
      have stands : (tree.put (location ++ names pieces) .directory).at?
          (location ++ front ++ [last]) = some .directory := by
        rw [List.append_assoc, ← split]
        exact at?_put_self tree .directory (by simp [nonempty])
      refine ⟨edits, (find_below_iff (edits.find found) below
        (edits.linkFreeBelow linkFree)).mpr ⟨accepted, rfl, ?_⟩⟩
      rw [split] at edits stands ⊢
      exact open_concat.mpr
        ⟨opened.mono fun _ => edits.directory_kept, look_of_at? seen stands⟩

/-- A new file stands at the place that its names spell, in a directory. -/
theorem createFile_of_ok {place : Location} (created : tree.createFile path = .ok (place, after)) :
    place = location ++ names pieces ∧ after = tree.put place (.file []) ∧
      (tree.at? place = none ∨ ∃ old, tree.at? place = some (.file old)) ∧
      tree.Open location (names pieces).dropLast := by
  unfold createFile at created
  cases resolved : tree.resolve .write path with
  | error failure => rw [resolved] at created; cases created
  | ok spot =>
      obtain ⟨-, ends⟩ := ends_of_resolve found below linkFree resolved
      rw [resolved] at created
      cases ends with
      | directory => cases created
      | free front last split opened seen =>
          cases Except.ok.inj created
          refine ⟨rfl, rfl, Or.inl ?_, ?_⟩
          · rw [split, ← List.append_assoc]
            exact look_eq_ok seen
          · rw [split, List.dropLast_concat]
            exact opened
      | file front last content split opened seen =>
          cases Except.ok.inj created
          refine ⟨rfl, rfl, Or.inr ⟨content, ?_⟩, ?_⟩
          · rw [split, ← List.append_assoc]
            exact look_eq_ok seen
          · rw [split, List.dropLast_concat]
            exact opened

end

/-! ## Directories with their parents -/

/-- A directory made in its parent, or found there. -/
def makeOrFind (tree : FileTree) (path : Path) : Changed :=
  match tree.makeDirectory path with
  | .ok made => (made, .ok ())
  | .error failure => (tree, if tree.isDirectory path then .ok () else .error failure)

theorem makeAll_of_not_missing (written : path.text ≠ "") (parents : List Path)
    (present : tree.makeDirectory path ≠ .error .missing) :
    tree.makeAll (path :: parents) = tree.makeOrFind path := by
  have nonempty : ¬ path.text.isEmpty = true := by simpa using written
  unfold makeOrFind
  rw [makeAll, if_neg nonempty]
  cases made : tree.makeDirectory path with
  | ok next => rfl
  | error failure =>
      have other : failure ≠ .missing := by
        rintro rfl
        exact present made
      simp only [ne_eq, other, not_false_eq_true, if_true]

theorem makeAll_of_missing (written : path.text ≠ "") (parents : List Path)
    (missing : tree.makeDirectory path = .error .missing) :
    tree.makeAll (path :: parents) =
      match tree.makeAll parents with
      | (before, .error deeper) => (before, .error deeper)
      | (before, .ok ()) => before.makeOrFind path := by
  have nonempty : ¬ path.text.isEmpty = true := by simpa using written
  rw [makeAll, if_neg nonempty, missing]
  simp only [ne_eq, not_true_eq_false, if_false]
  rfl

/-! ## Related trees -/

section

variable {related : FileTree → FileTree → Prop} {first second : FileTree}

/-- The two trees take a directory at a path the same way, and stay related if they do. -/
def MakesAlike (related : FileTree → FileTree → Prop) (path : Path) (first second : FileTree) :
    Prop :=
  second.isDirectory path = first.isDirectory path ∧
    ((∃ failure, first.makeDirectory path = .error failure ∧
        second.makeDirectory path = .error failure) ∨
      ∃ made made', first.makeDirectory path = .ok made ∧ second.makeDirectory path = .ok made' ∧
        related made made')

theorem makeOrFind_alike (stand : related first second) (makes : MakesAlike related path first second) :
    related (first.makeOrFind path).1 (second.makeOrFind path).1 ∧
      (second.makeOrFind path).2 = (first.makeOrFind path).2 := by
  unfold makeOrFind
  obtain ⟨stands, ⟨failure, failed, failed'⟩ | ⟨made, made', done, done', left⟩⟩ := makes
  · rw [failed, failed', stands]
    exact ⟨stand, rfl⟩
  · rw [done, done']
    exact ⟨left, rfl⟩

/-- A directory is made the same way in related trees if its parents are and it is with them. -/
theorem makeAll_alike (stand : related first second) (written : path.text ≠ "") (parents : List Path)
    (makes : ∀ first second, related first second → MakesAlike related path first second)
    (deeper : first.makeDirectory path = .error .missing →
      related (first.makeAll parents).1 (second.makeAll parents).1 ∧
        (second.makeAll parents).2 = (first.makeAll parents).2) :
    related (first.makeAll (path :: parents)).1 (second.makeAll (path :: parents)).1 ∧
      (second.makeAll (path :: parents)).2 = (first.makeAll (path :: parents)).2 := by
  have missing_iff : second.makeDirectory path = .error .missing ↔
      first.makeDirectory path = .error .missing := by
    obtain ⟨-, ⟨failure, failed, failed'⟩ | ⟨made, made', done, done', -⟩⟩ := makes _ _ stand
    · rw [failed, failed']
    · rw [done, done']
      simp
  by_cases missing : first.makeDirectory path = .error .missing
  · obtain ⟨before, ended⟩ := deeper missing
    rw [makeAll_of_missing written _ missing, makeAll_of_missing written _ (missing_iff.mpr missing)]
    generalize first.makeAll parents = left at before ended ⊢
    generalize second.makeAll parents = right at before ended ⊢
    obtain ⟨left, reason | done⟩ := left
    · obtain ⟨right, _⟩ := right
      cases ended
      exact ⟨before, rfl⟩
    · obtain ⟨right, _⟩ := right
      cases ended
      exact makeOrFind_alike before (makes _ _ before)
  · have missing' := fun other => missing (missing_iff.mp other)
    rw [makeAll_of_not_missing written _ missing, makeAll_of_not_missing written _ missing']
    exact makeOrFind_alike stand (makes _ _ stand)

end

/-! ## Below a base -/

/-- What is expected of a directory made below a base: only directories on the way to it are added,
and without a failure the path leads to it. -/
def MadeBelow (tree : FileTree) (path : Path) (location : Location) (names : List String)
    (changed : Changed) : Prop :=
  Edits (Way location names) nowhere tree changed.1 ∧
    (changed.2 = .ok () → changed.1.find path = .ok (location ++ names, .directory))

theorem makeOrFind_below (found : tree.find base = .ok (location, .directory))
    (below : Below base pieces path) (linkFree : tree.LinkFreeBelow location) :
    MadeBelow tree path location (names pieces) (tree.makeOrFind path) := by
  unfold makeOrFind
  cases made : tree.makeDirectory path with
  | ok next =>
      obtain ⟨edits, there⟩ := makeDirectory_of_ok found below linkFree made
      exact ⟨edits, fun _ => there⟩
  | error failure =>
      refine ⟨.refl tree, fun fine => ?_⟩
      dsimp only at fine ⊢
      split_ifs at fine with stands
      exact find_of_isDirectory found below linkFree stands

/-- A single name has its parent: the directory that the base leads to. -/
theorem makeDirectory_ne_missing (found : tree.find base = .ok (location, .directory))
    (below : Below base pieces path) (linkFree : tree.LinkFreeBelow location) {name : String}
    (single : names pieces = [name]) {last : List Char} (ends : pieces.getLast? = some last)
    (step : isStep last = true) : tree.makeDirectory path ≠ .error .missing := by
  intro missing
  obtain ⟨piece, alone⟩ := below.down.eq_singleton single ends step
  refine absurd ?_ (@resolve_ne_missing tree .entry _ _ _ _ found below linkFree _ alone)
  unfold makeDirectory at missing
  split at missing
  · rename_i failure resolved
    rw [resolved, Except.error.inj missing]
  · cases missing
  · cases missing

theorem makeAll_below (bound : Nat) (found : tree.find base = .ok (location, .directory))
    (below : Below base pieces path) (linkFree : tree.LinkFreeBelow location) {last : List Char}
    (ends : pieces.getLast? = some last) (step : isStep last = true) :
    MadeBelow tree path location (names pieces)
      (tree.makeAll (path :: path.parentsUpTo bound)) := by
  have written := below.text_ne_empty
  induction bound generalizing path pieces last with
  | zero =>
      by_cases missing : tree.makeDirectory path = .error .missing
      · rw [makeAll_of_missing written _ missing]
        exact ⟨.refl tree, fun fine => by cases fine⟩
      · rw [makeAll_of_not_missing written _ missing]
        exact makeOrFind_below found below linkFree
  | succ bound ih =>
      by_cases missing : tree.makeDirectory path = .error .missing
      · obtain ⟨parent, up, ⟨fewer, name, higher, ⟨piece, fewerEnds, pieceStep⟩, longer⟩ |
          ⟨⟨name, single⟩, -⟩⟩ := below.parent (text_ne_empty_of_find found)
        · have shorter : names fewer <+: names pieces := ⟨[name], longer.symm⟩
          obtain ⟨edits, there⟩ := ih higher fewerEnds pieceStep higher.text_ne_empty
          rw [makeAll_of_missing written _ missing, Path.parentsUpTo, up]
          dsimp only
          generalize tree.makeAll (parent :: parent.parentsUpTo bound) = before at edits there ⊢
          have widened := edits.mono (way_mono shorter) fun _ => id
          obtain ⟨before, deeper | done⟩ := before
          · exact ⟨widened, fun fine => by cases fine⟩
          · obtain ⟨more, finally_⟩ := makeOrFind_below (edits.find found) below
              (edits.linkFreeBelow linkFree)
            exact ⟨widened.trans more, finally_⟩
        · exact absurd missing (makeDirectory_ne_missing found below linkFree single ends step)
      · rw [makeAll_of_not_missing written _ missing]
        exact makeOrFind_below found below linkFree

end Stagehand.FileTree
