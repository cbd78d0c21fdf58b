import Stagehand.Proofs.FileTree.Persistence
import Stagehand.Proofs.FileTree.Place

/-! # Trees that are alike below a name

Two trees without links in which a base leads to the same directory may hold different things, and yet
be the same at and below one name in that directory.  A path that continues the base with this name
cannot tell them apart, and what is made or created through it leaves them alike.
-/

set_option autoImplicit false

namespace Stagehand.FileTree

open Stagehand.Path (segments names isStep LeadsDown Below)

variable {first second tree other : FileTree} {purpose : Purpose} {here location : Location}
  {onFirst onSecond onLink : Location → List String → Except SystemError Spot}

/-! ## The way to a base -/

theorem leads_of_entries {steps : List String} (linkFree : tree.LinkFree)
    (leads : tree.Leads onFirst here steps location)
    (kept : ∀ place ∈ entries here steps, other.at? place = tree.at? place) :
    other.Leads onSecond here steps location := by
  induction steps generalizing here with
  | nil => exact leads_nil.mpr (leads_nil.mp leads)
  | cons name more ih =>
      rw [leads_cons] at leads ⊢
      rw [entries] at kept
      split_ifs at leads kept ⊢
      · exact ih leads kept
      · exact ih leads kept
      · rcases leads with ⟨seen, leads⟩ | ⟨target, seen, -⟩
        · have stands : other.at? (here ++ [name]) = some .directory := by
            rw [kept _ List.mem_cons_self, look_eq_ok seen]
          refine Or.inl ⟨look_of_at? seen stands, ih leads ?_⟩
          intro place member
          exact kept place (List.mem_cons_of_mem _ member)
        · exact absurd (look_eq_ok seen) (linkFree _ target)

/-- A path leads to its directory as long as nothing becomes of the places on its way. -/
theorem find_of_through {path : Path} (linkFree : tree.LinkFree)
    (found : tree.find path = .ok (location, .directory))
    (stood : other.workingDirectory = tree.workingDirectory)
    (kept : ∀ place ∈ tree.through path, other.at? place = tree.at? place) :
    other.find path = .ok (location, .directory) := by
  rw [find_eq_ok_iff, resolve_eq, namesFor_look] at found ⊢
  cases refused : refusal? path with
  | some failure => rw [refused] at found; cases found
  | none =>
      rw [refused] at found
      rw [stood]
      exact leads_of_entries linkFree found kept

/-! ## The way down from it -/

theorem look_congr {name : String}
    (same : second.at? (here ++ [name]) = first.at? (here ++ [name])) :
    second.look here name = first.look here name := by
  unfold look
  rw [same]

/-- Where the names on a way down show the same, the way ends the same. -/
theorem followWith_congr {pieces : List (List Char)} (linkFree : first.LinkFreeBelow here)
    (plain : ∀ piece ∈ pieces, piece ≠ ['.', '.'])
    (same : ∀ front, front ≠ [] → front <+: names pieces →
      second.at? (here ++ front) = first.at? (here ++ front)) :
    second.followWith purpose onSecond here (entered pieces) =
      first.followWith purpose onFirst here (entered pieces) := by
  induction pieces generalizing here with
  | nil => rfl
  | cons piece more ih =>
      have plainMore := fun other member => plain other (List.mem_cons_of_mem _ member)
      rw [names_cons] at same
      by_cases step : isStep piece = true
      · have down := plain piece List.mem_cons_self
        rw [if_pos step] at same
        have looks : second.look here (String.ofList piece) = first.look here (String.ofList piece) :=
          look_congr (same [_] (by simp) (by simp))
        by_cases seen : first.look here (String.ofList piece) = .ok (some .directory)
        · rw [followWith_entered_of_directory step down seen,
            followWith_entered_of_directory step down (looks.trans seen)]
          refine ih linkFree.deeper plainMore ?_
          intro front nonempty starts
          rw [List.append_assoc]
          exact same _ (by simp) (List.cons_prefix_cons.mpr ⟨rfl, starts⟩)
        · -- Whatever else stands here ends the way, and both ways look at the same.
          obtain ⟨loud, up⟩ := name_of_isStep step down
          rw [entered_cons, if_neg (Path.isStep_iff.mp step).1]
          by_cases last : entered more = []
          · rw [last, followWith_singleton, followWith_singleton, lastStep, lastStep, looks]
            simp only [if_neg loud, if_neg up]
            rcases ended : first.look here (String.ofList piece) with
              failure | (_ | _ | content | target)
            · rfl
            · rfl
            · rfl
            · rfl
            · exact absurd ended linkFree.look
          · rw [followWith_cons _ last (Or.inr (entered_ne_blank more)),
              followWith_cons _ last (Or.inr (entered_ne_blank more)), looks]
            simp only [if_neg loud, if_neg up]
            rcases ended : first.look here (String.ofList piece) with
              failure | (_ | _ | content | target)
            · rfl
            · rfl
            · exact absurd ended seen
            · rfl
            · exact absurd ended linkFree.look
      · rw [if_neg step] at same
        rw [followWith_entered_of_trivial (not_isStep_iff.mp step),
          followWith_entered_of_trivial (not_isStep_iff.mp step)]
        exact ih linkFree plainMore same

/-! ## Alike trees -/

/-- A tree without links in which a base leads to a directory. -/
structure Based (base : Path) (location : Location) (tree : FileTree) : Prop where
  found : tree.find base = .ok (location, .directory)
  linkFree : tree.LinkFree

/-- Two such trees with the same at and below a name in that directory. -/
structure Alike (base : Path) (location : Location) (name : String)
    (first second : FileTree) : Prop where
  left : Based base location first
  right : Based base location second
  workingDirectory : second.workingDirectory = first.workingDirectory
  same (rest : List String) :
    second.at? (location ++ name :: rest) = first.at? (location ++ name :: rest)

namespace Based

variable {base : Path} {directories files : Location → Prop}

theorem edited (based : Based base location tree) (edits : Edits directories files tree other) :
    Based base location other :=
  ⟨edits.find based.found, edits.linkFree based.linkFree⟩

theorem alike (based : Based base location tree) (name : String) :
    Alike base location name tree tree :=
  ⟨based, based, rfl, fun _ => rfl⟩

end Based

theorem at?_put_congr {place here : Location} (node : Node)
    (same : second.at? place = first.at? place) :
    (second.put here node).at? place = (first.put here node).at? place := by
  by_cases root : place = []
  · rw [root, at?_nil, at?_nil]
  by_cases there : place = here
  · rw [there, at?_put_self second node (there ▸ root), at?_put_self first node (there ▸ root)]
  · rw [at?_put_of_ne second node there, at?_put_of_ne first node there, same]

/-- The place that a file is created at, by the end of its path. -/
def writePlace : Except SystemError Spot → Except SystemError Location
  | .error failure => .error failure
  | .ok (.taken place (.file _)) => .ok place
  | .ok (.taken _ _) => .error .isDirectory
  | .ok (.free place) => .ok place

theorem createFile_eq (tree : FileTree) (path : Path) :
    tree.createFile path =
      (writePlace (tree.resolve .write path)).map fun place => (place, tree.put place (.file [])) := by
  unfold createFile
  rcases tree.resolve .write path with failure | (⟨place, _ | content | target⟩ | place) <;> rfl

namespace Alike

variable {base path : Path} {name : String} {more : List String} {pieces : List (List Char)}
  {first' second' third : FileTree}

theorem trans (before : Alike base location name first second)
    (after : Alike base location name second third) : Alike base location name first third :=
  ⟨before.left, after.right, after.workingDirectory.trans before.workingDirectory,
    fun rest => (after.same rest).trans (before.same rest)⟩

/-- Changes that add to both trees and come to the same below the name. -/
theorem edited {directories files directories' files' : Location → Prop}
    (alike : Alike base location name first second) (edits : Edits directories files first first')
    (edits' : Edits directories' files' second second')
    (same : ∀ rest, second'.at? (location ++ name :: rest) = first'.at? (location ++ name :: rest)) :
    Alike base location name first' second' where
  left := alike.left.edited edits
  right := alike.right.edited edits'
  workingDirectory := by
    rw [edits.workingDirectory, edits'.workingDirectory, alike.workingDirectory]
  same := same

section

variable (alike : Alike base location name first second) (below : Below base pieces path)
  (spelled : names pieces = name :: more)

include alike below spelled

theorem resolve (purpose : Purpose) : second.resolve purpose path = first.resolve purpose path := by
  obtain ⟨links, onward⟩ := resolve_below alike.left.found below
  obtain ⟨links', onward'⟩ := resolve_below alike.right.found below
  rw [onward purpose, onward' purpose]
  cases refusal? path with
  | some failure => rfl
  | none =>
      have same : ∀ front, front ≠ [] → front <+: names pieces →
          second.at? (location ++ front) = first.at? (location ++ front) := by
        intro front nonempty starts
        rw [spelled] at starts
        rcases List.prefix_cons_iff.mp starts with rfl | ⟨rest, rfl, -⟩
        · exact absurd rfl nonempty
        · exact alike.same rest
      have free := alike.left.linkFree.below location
      -- There is no link on the way down, so it does not matter how many may still be followed.
      cases links <;> cases links' <;> exact followWith_congr free below.down.plain same

theorem find : second.find path = first.find path := by
  unfold FileTree.find
  rw [alike.resolve below spelled .look]

theorem isDirectory : second.isDirectory path = first.isDirectory path := by
  unfold FileTree.isDirectory
  rw [alike.find below spelled]

theorem makesAlike : MakesAlike (Alike base location name) path first second := by
  refine ⟨alike.isDirectory below spelled, ?_⟩
  have same := alike.resolve below spelled .entry
  cases resolved : first.resolve .entry path with
  | error failure =>
      rw [resolved] at same
      exact Or.inl ⟨failure, by simp [FileTree.makeDirectory, resolved],
        by simp [FileTree.makeDirectory, same]⟩
  | ok spot =>
      rw [resolved] at same
      cases spot with
      | taken place node =>
          exact Or.inl ⟨.exists_, by simp [FileTree.makeDirectory, resolved],
            by simp [FileTree.makeDirectory, same]⟩
      | free place =>
          have made : first.makeDirectory path = .ok (first.put place .directory) := by
            simp [FileTree.makeDirectory, resolved]
          have made' : second.makeDirectory path = .ok (second.put place .directory) := by
            simp [FileTree.makeDirectory, same]
          refine Or.inr ⟨_, _, made, made', alike.edited (edits_makeDirectory made)
            (edits_makeDirectory made') ?_⟩
          intro rest
          exact at?_put_congr .directory (alike.same rest)

theorem createFile :
    (∃ failure, first.createFile path = .error failure ∧
      second.createFile path = .error failure) ∨
    ∃ place created created', first.createFile path = .ok (place, created) ∧
      second.createFile path = .ok (place, created') ∧
      ∀ content, Alike base location name (created.put place (.file content))
        (created'.put place (.file content)) := by
  rw [createFile_eq, createFile_eq, alike.resolve below spelled .write]
  cases written : writePlace (first.resolve .write path) with
  | error failure => exact Or.inl ⟨failure, rfl, rfl⟩
  | ok place =>
      have creation : first.createFile path = .ok (place, first.put place (.file [])) := by
        rw [createFile_eq, written]
        rfl
      have creation' : second.createFile path = .ok (place, second.put place (.file [])) := by
        rw [createFile_eq, alike.resolve below spelled .write, written]
        rfl
      refine Or.inr ⟨place, _, _, rfl, rfl, ?_⟩
      intro content
      refine alike.edited (edits_written content creation).1 (edits_written content creation').1 ?_
      intro rest
      exact at?_put_congr _ (at?_put_congr _ (alike.same rest))

end

theorem makeAll (bound : Nat) (alike : Alike base location name first second)
    (below : Below base pieces path) (spelled : names pieces = name :: more) {last : List Char}
    (ends : pieces.getLast? = some last) (step : isStep last = true) :
    Alike base location name (first.makeAll (path :: path.parentsUpTo bound)).1
        (second.makeAll (path :: path.parentsUpTo bound)).1 ∧
      (second.makeAll (path :: path.parentsUpTo bound)).2 =
        (first.makeAll (path :: path.parentsUpTo bound)).2 := by
  induction bound generalizing path pieces more last with
  | zero =>
      exact makeAll_alike alike below.text_ne_empty []
        (fun _ _ other => other.makesAlike below spelled) fun _ => ⟨alike, rfl⟩
  | succ bound ih =>
      refine makeAll_alike alike below.text_ne_empty _
        (fun _ _ other => other.makesAlike below spelled) fun missing => ?_
      -- The parent is below the base too, or it is the base, under which nothing is missing.
      obtain ⟨parent, up, ⟨fewer, final, higher, ⟨piece, fewerEnds, pieceStep⟩, longer⟩ |
        ⟨⟨final, single⟩, -⟩⟩ := below.parent (text_ne_empty_of_find alike.left.found)
      · rw [Path.parentsUpTo, up]
        obtain ⟨head, others, split⟩ := List.exists_cons_of_ne_nil higher.down.names_ne_nil
        rw [spelled, split] at longer
        obtain ⟨rfl, -⟩ := List.cons.inj longer
        exact ih higher split fewerEnds pieceStep
      · have free := alike.left.linkFree.below location
        exact absurd missing
          (makeDirectory_ne_missing alike.left.found below free single ends step)

end Alike
end Stagehand.FileTree
