import Stagehand.Proofs.FileTree.Edits

/-! # The place that a path spells

A path that meets no symbolic link means what it says: its place is found by walking along its names,
with a step back for each pair of dots, and no look at the tree is needed.
-/

set_option autoImplicit false

namespace Stagehand.FileTree

open Stagehand.Path (segments names isStep LeadsDown Below)

variable {tree : FileTree} {here location : Location}

/-- No symbolic link stands anywhere. -/
def LinkFree (tree : FileTree) : Prop :=
  ∀ location target, tree.at? location ≠ some (.link target)

/-- Names walked along without a look at the tree. -/
def walk : Location → List String → Location
  | here, [] => here
  | here, name :: more =>
      if name = "" ∨ name = "." then walk here more
      else if name = ".." then walk here.dropLast more
      else walk (here ++ [name]) more

/-- The place that a path spells. -/
def place (tree : FileTree) (path : Path) : Location :=
  walk (startOf path.text tree.workingDirectory) (stepNames path.text)

theorem LinkFree.below (linkFree : tree.LinkFree) (location : Location) :
    tree.LinkFreeBelow location :=
  fun _ target _ => linkFree _ target

theorem linkFree_of_nodes (plain : ∀ entry ∈ tree.nodes, ∀ target, entry.2 ≠ .link target) :
    tree.LinkFree := by
  intro location target stands
  unfold at? at stands
  split_ifs at stands
  · cases stands
  · obtain ⟨entry, listed, same⟩ := Option.map_eq_some_iff.mp stands
    exact plain entry (List.mem_of_find?_eq_some listed) target same

theorem walk_append (front back : List String) :
    walk here (front ++ back) = walk (walk here front) back := by
  induction front generalizing here with
  | nil => rfl
  | cons name more ih =>
      simp only [List.cons_append, walk]
      split_ifs
      · exact ih
      · exact ih
      · exact ih

theorem walk_entered {pieces : List (List Char)} (plain : ∀ piece ∈ pieces, piece ≠ ['.', '.']) :
    walk here (entered pieces) = here ++ names pieces := by
  induction pieces generalizing here with
  | nil => exact (List.append_nil here).symm
  | cons piece more ih =>
      have plainMore := fun other member => plain other (List.mem_cons_of_mem _ member)
      rw [entered_cons, names_cons]
      by_cases step : isStep piece = true
      · obtain ⟨loud, up⟩ := name_of_isStep step (plain piece List.mem_cons_self)
        rw [if_neg (Path.isStep_iff.mp step).1, if_pos step, walk, if_neg loud, if_neg up,
          ih plainMore, List.append_assoc, List.singleton_append]
      · rw [if_neg step]
        rcases not_isStep_iff.mp step with rfl | rfl <;> exact ih plainMore

/-- The places that are entered by name along some steps. -/
def entries : Location → List String → List Location
  | _, [] => []
  | here, name :: more =>
      if name = "" ∨ name = "." then entries here more
      else if name = ".." then entries here.dropLast more
      else (here ++ [name]) :: entries (here ++ [name]) more

/-- The places that a path leads through, by what it spells. -/
def through (tree : FileTree) (path : Path) : List Location :=
  entries (startOf path.text tree.workingDirectory) (stepNames path.text)

theorem through_congr {other : FileTree}
    (same : other.workingDirectory = tree.workingDirectory) (path : Path) :
    other.through path = tree.through path := by
  unfold through
  rw [same]

/-- No symbolic link stands where the path leads through. -/
def Plain (tree : FileTree) (path : Path) : Prop :=
  ∀ place ∈ tree.through path, ∀ target, tree.at? place ≠ some (.link target)

theorem LinkFree.plain (linkFree : tree.LinkFree) (path : Path) : tree.Plain path :=
  fun place _ => linkFree place

theorem walk_of_leads {onLink : Location → List String → Except SystemError Spot}
    {steps : List String}
    (plain : ∀ place ∈ entries here steps, ∀ target, tree.at? place ≠ some (.link target))
    (leads : tree.Leads onLink here steps location) : walk here steps = location := by
  induction steps generalizing here with
  | nil => exact leads_nil.mp leads
  | cons name more ih =>
      rw [leads_cons] at leads
      rw [walk]
      rw [entries] at plain
      split_ifs at leads plain ⊢
      · exact ih plain leads
      · exact ih plain leads
      · rcases leads with ⟨-, leads⟩ | ⟨target, seen, -⟩
        · exact ih (fun place member => plain place (List.mem_cons_of_mem _ member)) leads
        · exact absurd (look_eq_ok seen) (plain _ List.mem_cons_self target)

/-- A path that leads to a directory, and meets no link, leads to the place that it spells. -/
theorem place_of_plain {path : Path} (plain : tree.Plain path)
    (found : tree.find path = .ok (location, .directory)) : tree.place path = location := by
  rw [find_eq_ok_iff, resolve_eq] at found
  cases refused : refusal? path with
  | some failure => rw [refused] at found; cases found
  | none =>
      rw [refused, namesFor_look] at found
      exact walk_of_leads plain found

theorem place_of_find (linkFree : tree.LinkFree) {path : Path}
    (found : tree.find path = .ok (location, .directory)) : tree.place path = location :=
  place_of_plain (linkFree.plain path) found

/-- A slash at the end of a base leads nowhere. -/
theorem walk_stepNames (here : Location) (base : Path) :
    walk here (stepNames base.text) = walk here (entered base.leading) := by
  rcases stepNames_cases base with same | same
  · rw [same]
  · rw [same, walk_append]
    rfl

theorem place_below {base path : Path} {pieces : List (List Char)} (written : base.text ≠ "")
    (below : Below base pieces path) :
    tree.place path = tree.place base ++ names pieces := by
  unfold place
  rw [stepNames_below below, walk_append, walk_entered below.down.plain,
    startOf_eq (below.isAbsolute_eq written), walk_stepNames]

theorem entries_append (front back : List String) :
    entries here (front ++ back) = entries here front ++ entries (walk here front) back := by
  induction front generalizing here with
  | nil => rfl
  | cons name more ih =>
      simp only [List.cons_append, entries, walk]
      split_ifs
      · exact ih
      · exact ih
      · rw [ih, List.cons_append]

theorem entries_stepNames (here : Location) (base : Path) :
    entries here (stepNames base.text) = entries here (entered base.leading) := by
  rcases stepNames_cases base with same | same
  · rw [same]
  · rw [same, entries_append]
    exact List.append_nil _

theorem way_of_mem_entries {pieces : List (List Char)} {place : Location}
    (plain : ∀ piece ∈ pieces, piece ≠ ['.', '.'])
    (member : place ∈ entries here (entered pieces)) : Way here (names pieces) place := by
  induction pieces generalizing here with
  | nil => cases member
  | cons piece more ih =>
      have plainMore := fun other among => plain other (List.mem_cons_of_mem _ among)
      rw [entered_cons] at member
      rw [names_cons]
      by_cases step : isStep piece = true
      · obtain ⟨loud, up⟩ := name_of_isStep step (plain piece List.mem_cons_self)
        rw [if_neg (Path.isStep_iff.mp step).1, entries, if_neg loud, if_neg up] at member
        rw [if_pos step]
        rcases List.mem_cons.mp member with rfl | member
        · exact ⟨[_], by simp, by simp, rfl⟩
        · obtain ⟨front, -, starts, rfl⟩ := ih plainMore member
          exact ⟨String.ofList piece :: front, by simp, List.cons_prefix_cons.mpr ⟨rfl, starts⟩,
            by simp⟩
      · rw [if_neg step]
        refine ih plainMore ?_
        rcases not_isStep_iff.mp step with rfl | rfl <;> exact member

/-- A path below a base leads where the base does, and from its place along the names added. -/
theorem through_below {base path : Path} {pieces : List (List Char)} {place : Location}
    (written : base.text ≠ "") (below : Below base pieces path)
    (member : place ∈ tree.through path) :
    place ∈ tree.through base ∨ Way (tree.place base) (names pieces) place := by
  unfold through at member ⊢
  unfold FileTree.place
  rw [stepNames_below below, startOf_eq (below.isAbsolute_eq written), entries_append,
    List.mem_append] at member
  rw [walk_stepNames, entries_stepNames]
  exact member.imp id (way_of_mem_entries below.down.plain)

theorem place_congr {other : FileTree} (same : other.workingDirectory = tree.workingDirectory)
    (path : Path) : other.place path = tree.place path := by
  unfold place
  rw [same]

theorem Edits.linkFree {directories files : Location → Prop} {before after : FileTree}
    (edits : Edits directories files before after) (linkFree : before.LinkFree) :
    after.LinkFree :=
  fun location target stands => linkFree location target (edits.link_stood stands)

end Stagehand.FileTree
