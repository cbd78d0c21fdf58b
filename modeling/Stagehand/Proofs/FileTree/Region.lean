import Stagehand.Proofs.FileTree.Resolution

/-! # Below a directory without links

Where no symbolic link stands below a directory, a path that leads down from it ends at the place
that its names spell, and every name on the way is a directory.  Without any links the same holds
of all paths, steps up included.
-/

set_option autoImplicit false

namespace Stagehand.FileTree

open Stagehand.Path (segments names isStep LeadsDown Below Trims)

variable {tree : FileTree} {purpose : Purpose}
  {onLink : Location → List String → Except SystemError Spot} {here location : Location}

/-- No symbolic link stands below a location. -/
def LinkFreeBelow (tree : FileTree) (location : Location) : Prop :=
  ∀ rest target, rest ≠ [] → tree.at? (location ++ rest) ≠ some (.link target)

/-- Each name in turn leads to a directory. -/
def Open (tree : FileTree) : Location → List String → Prop
  | _, [] => True
  | here, name :: more =>
      tree.look here name = .ok (some .directory) ∧ Open tree (here ++ [name]) more

/-- The ends of a way down along some names. -/
inductive Ends (tree : FileTree) (here : Location) (names : List String) : Spot → Prop
  | directory (opened : tree.Open here names) : Ends tree here names (.taken (here ++ names) .directory)
  | free (front : List String) (last : String) (split : names = front ++ [last])
      (opened : tree.Open here front) (seen : tree.look (here ++ front) last = .ok none) :
      Ends tree here names (.free (here ++ names))
  | file (front : List String) (last : String) (content : Bytes)
      (split : names = front ++ [last]) (opened : tree.Open here front)
      (seen : tree.look (here ++ front) last = .ok (some (.file content))) :
      Ends tree here names (.taken (here ++ names) (.file content))

/-! ## Open ways -/

theorem look_eq_ok {name : String} {found : Option Node}
    (seen : tree.look here name = .ok found) : tree.at? (here ++ [name]) = found := by
  unfold look at seen
  split_ifs at seen
  exact Except.ok.inj seen

theorem look_of_at? {name : String} {found other : Option Node}
    (seen : tree.look here name = .ok found) {changed : FileTree}
    (now : changed.at? (here ++ [name]) = other) : changed.look here name = .ok other := by
  unfold look at seen ⊢
  split_ifs at seen ⊢
  rw [now]

theorem open_append {front back : List String} :
    tree.Open here (front ++ back) ↔ tree.Open here front ∧ tree.Open (here ++ front) back := by
  induction front generalizing here with
  | nil => simp [Open]
  | cons name more ih =>
      have next := @ih (here ++ [name])
      rw [List.append_assoc, List.singleton_append] at next
      simp only [List.cons_append, Open, next, and_assoc]

theorem open_concat {front : List String} {last : String} :
    tree.Open here (front ++ [last]) ↔
      tree.Open here front ∧ tree.look (here ++ front) last = .ok (some .directory) := by
  rw [open_append]
  simp [Open]

theorem Open.at?_eq {names front rest : List String} (opened : tree.Open here names)
    (split : names = front ++ rest) (nonempty : front ≠ []) :
    tree.at? (here ++ front) = some .directory := by
  rw [split] at opened
  obtain ⟨before, last, rfl⟩ := List.eq_nil_or_concat' front |>.resolve_left nonempty
  have seen := (open_concat.mp (open_append.mp opened).1).2
  rw [← List.append_assoc]
  exact look_eq_ok seen

theorem Open.mono {changed : FileTree} {names : List String} (opened : tree.Open here names)
    (kept : ∀ other, tree.at? other = some .directory → changed.at? other = some .directory) :
    changed.Open here names := by
  induction names generalizing here with
  | nil => trivial
  | cons name more ih =>
      obtain ⟨seen, rest⟩ := opened
      exact ⟨look_of_at? seen (kept _ (look_eq_ok seen)), ih rest⟩

/-! ## Ways down -/

theorem Ends.cons {name : String} {more : List String} {spot : Spot}
    (seen : tree.look here name = .ok (some .directory))
    (ends : tree.Ends (here ++ [name]) more spot) : tree.Ends here (name :: more) spot := by
  have joined : here ++ [name] ++ more = here ++ name :: more := by simp
  cases ends with
  | directory opened =>
      rw [joined]
      exact .directory ⟨seen, opened⟩
  | free front last split opened beyond =>
      rw [joined]
      refine .free (name :: front) last (by rw [split]; rfl) ⟨seen, opened⟩ ?_
      rwa [List.append_assoc, List.singleton_append] at beyond
  | file front last content split opened beyond =>
      rw [joined]
      refine .file (name :: front) last content (by rw [split]; rfl) ⟨seen, opened⟩ ?_
      rwa [List.append_assoc, List.singleton_append] at beyond

theorem LinkFreeBelow.look {name : String} {target : String}
    (linkFree : tree.LinkFreeBelow here) : tree.look here name ≠ .ok (some (.link target)) :=
  fun seen => linkFree [name] target (by simp) (look_eq_ok seen)

theorem LinkFreeBelow.deeper {rest : List String} (linkFree : tree.LinkFreeBelow here) :
    tree.LinkFreeBelow (here ++ rest) := by
  intro more target nonempty
  rw [List.append_assoc]
  exact linkFree _ target (by simp [nonempty])

theorem names_cons (piece : List Char) (more : List (List Char)) :
    names (piece :: more) =
      if isStep piece then String.ofList piece :: names more else names more := by
  unfold Path.names
  rw [List.filter_cons]
  split_ifs <;> rfl

theorem entered_cons (piece : List Char) (more : List (List Char)) :
    entered (piece :: more) =
      if piece = [] then entered more else String.ofList piece :: entered more := by
  unfold entered
  rw [List.filter_cons]
  by_cases empty : piece = [] <;> simp [empty]

theorem names_eq_nil_of_entered {pieces : List (List Char)} (none : entered pieces = []) :
    names pieces = [] := by
  simp only [entered, List.map_eq_nil_iff, List.filter_eq_nil_iff, decide_eq_true_eq,
    not_not] at none
  simp only [Path.names, List.map_eq_nil_iff, List.filter_eq_nil_iff]
  intro piece member step
  exact (Path.isStep_iff.mp step).1 (none piece member)

theorem entered_ne_blank (pieces : List (List Char)) : entered pieces ≠ [""] := by
  intro same
  have member : "" ∈ entered pieces := by simp [same]
  exact ne_empty_of_mem_entered member rfl

theorem not_isStep_iff {piece : List Char} :
    ¬ isStep piece = true ↔ piece = [] ∨ piece = ['.'] := by
  rw [Path.isStep_iff]
  tauto

/-- The name of a step that does not lead up is none of the special ones. -/
theorem name_of_isStep {piece : List Char} (step : isStep piece = true)
    (plain : piece ≠ ['.', '.']) :
    ¬ (String.ofList piece = "" ∨ String.ofList piece = ".") ∧ String.ofList piece ≠ ".." := by
  obtain ⟨some_, undotted⟩ := Path.isStep_iff.mp step
  simp only [ne_eq, ← String.toList_inj, String.toList_ofList]
  exact ⟨fun same => same.elim some_ undotted, plain⟩

theorem followWith_entered_of_trivial {piece : List Char} (trivial : piece = [] ∨ piece = ['.'])
    (more : List (List Char)) :
    tree.followWith purpose onLink here (entered (piece :: more)) =
      tree.followWith purpose onLink here (entered more) := by
  rw [entered_cons]
  rcases trivial with rfl | rfl
  · rw [if_pos rfl]
  · rw [if_neg (by simp)]
    by_cases last : entered more = []
    · rw [last, followWith_singleton, lastStep, if_pos (Or.inr rfl), followWith]
    · rw [followWith_cons _ last (Or.inr (entered_ne_blank more)), if_pos (Or.inr rfl)]

/-- A name that leads to a directory is gone through, be it the last one or not. -/
theorem followWith_entered_of_directory {piece : List Char} {more : List (List Char)}
    (step : isStep piece = true) (plain : piece ≠ ['.', '.'])
    (seen : tree.look here (String.ofList piece) = .ok (some .directory)) :
    tree.followWith purpose onLink here (entered (piece :: more)) =
      tree.followWith purpose onLink (here ++ [String.ofList piece]) (entered more) := by
  obtain ⟨loud, up⟩ := name_of_isStep step plain
  rw [entered_cons, if_neg (Path.isStep_iff.mp step).1]
  by_cases last : entered more = []
  · rw [last, followWith_singleton, lastStep, if_neg loud, if_neg up, seen, followWith]
  · rw [followWith_cons _ last (Or.inr (entered_ne_blank more)), if_neg loud, if_neg up, seen]

/-- A name that leads to no directory ends the way, and only the last one does so without failure. -/
theorem followWith_entered_of_other {piece : List Char} {more : List (List Char)} {spot : Spot}
    (step : isStep piece = true) (plain : piece ≠ ['.', '.'])
    (linkFree : tree.LinkFreeBelow here)
    (other : tree.look here (String.ofList piece) ≠ .ok (some .directory))
    (followed : tree.followWith purpose onLink here (entered (piece :: more)) = .ok spot) :
    entered more = [] ∧ tree.Ends here [String.ofList piece] spot := by
  obtain ⟨loud, up⟩ := name_of_isStep step plain
  rw [entered_cons, if_neg (Path.isStep_iff.mp step).1] at followed
  by_cases last : entered more = []
  · rw [last, followWith_singleton, lastStep, if_neg loud, if_neg up] at followed
    refine ⟨last, ?_⟩
    rcases seen : tree.look here (String.ofList piece) with
      failure | (_ | _ | content | target)
    · rw [seen] at followed; cases followed
    · rw [seen] at followed
      cases Except.ok.inj followed
      exact .free [] _ rfl trivial (by rwa [List.append_nil])
    · exact absurd seen other
    · rw [seen] at followed
      cases Except.ok.inj followed
      exact .file [] _ content rfl trivial (by rwa [List.append_nil])
    · exact absurd seen linkFree.look
  · rw [followWith_cons _ last (Or.inr (entered_ne_blank more)), if_neg loud, if_neg up]
      at followed
    rcases seen : tree.look here (String.ofList piece) with
      failure | (_ | _ | content | target)
    · rw [seen] at followed; cases followed
    · rw [seen] at followed; cases followed
    · exact absurd seen other
    · rw [seen] at followed; cases followed
    · exact absurd seen linkFree.look

/-- A way down through a region without links ends as its names say. -/
theorem ends_of_followWith {pieces : List (List Char)} {spot : Spot}
    (linkFree : tree.LinkFreeBelow here) (plain : ∀ piece ∈ pieces, piece ≠ ['.', '.'])
    (followed : tree.followWith purpose onLink here (entered pieces) = .ok spot) :
    tree.Ends here (names pieces) spot := by
  induction pieces generalizing here with
  | nil =>
      cases Except.ok.inj followed
      have ended := @Ends.directory tree here [] trivial
      rwa [List.append_nil] at ended
  | cons piece more ih =>
      have plainMore := fun other member => plain other (List.mem_cons_of_mem _ member)
      rw [names_cons]
      by_cases step : isStep piece = true
      · have down := plain piece List.mem_cons_self
        rw [if_pos step]
        by_cases seen : tree.look here (String.ofList piece) = .ok (some .directory)
        · rw [followWith_entered_of_directory step down seen] at followed
          exact .cons seen (ih linkFree.deeper plainMore followed)
        · obtain ⟨last, ended⟩ := followWith_entered_of_other step down linkFree seen followed
          rwa [names_eq_nil_of_entered last]
      · rw [followWith_entered_of_trivial (not_isStep_iff.mp step)] at followed
        rw [if_neg step]
        exact ih linkFree plainMore followed

theorem followWith_of_open {pieces : List (List Char)}
    (plain : ∀ piece ∈ pieces, piece ≠ ['.', '.']) (opened : tree.Open here (names pieces)) :
    tree.followWith purpose onLink here (entered pieces) =
      .ok (.taken (here ++ names pieces) .directory) := by
  induction pieces generalizing here with
  | nil =>
      rw [show names [] = [] from rfl, List.append_nil]
      rfl
  | cons piece more ih =>
      have plainMore := fun other member => plain other (List.mem_cons_of_mem _ member)
      rw [names_cons] at opened ⊢
      by_cases step : isStep piece = true
      · rw [if_pos step] at opened ⊢
        obtain ⟨seen, beyond⟩ := opened
        rw [followWith_entered_of_directory step (plain piece List.mem_cons_self) seen,
          ih plainMore beyond, List.append_assoc, List.singleton_append]
      · rw [if_neg step] at opened ⊢
        rw [followWith_entered_of_trivial (not_isStep_iff.mp step)]
        exact ih plainMore opened

theorem lastStep_ne_missing (linkFree : tree.LinkFreeBelow here) {name : String} :
    tree.lastStep purpose onLink here name ≠ .error .missing := by
  unfold lastStep
  by_cases trivial : name = "" ∨ name = "."
  · simp [trivial]
  by_cases up : name = ".."
  · simp [up]
  · rw [if_neg trivial, if_neg up]
    rcases seen : tree.look here name with failure | (_ | _ | content | target)
    · unfold look at seen
      split_ifs at seen
      cases Except.error.inj seen
      simp
    · simp
    · simp
    · simp
    · exact absurd seen linkFree.look

/-! ## Paths below a base -/

section Based

variable {base path : Path} {pieces : List (List Char)}
  (found : tree.find base = .ok (location, .directory)) (below : Below base pieces path)

include found below

theorem ends_of_resolve {spot : Spot} (linkFree : tree.LinkFreeBelow location)
    (resolved : tree.resolve purpose path = .ok spot) :
    refusal? path = none ∧ tree.Ends location (names pieces) spot := by
  obtain ⟨links, onward⟩ := resolve_below found below
  rw [onward purpose] at resolved
  cases refused : refusal? path with
  | some failure => rw [refused] at resolved; cases resolved
  | none =>
      rw [refused] at resolved
      refine ⟨rfl, ?_⟩
      cases links with
      | zero => exact ends_of_followWith linkFree below.down.plain resolved
      | succ links => exact ends_of_followWith linkFree below.down.plain resolved

theorem resolve_of_open (accepted : refusal? path = none)
    (opened : tree.Open location (names pieces)) :
    tree.resolve purpose path = .ok (.taken (location ++ names pieces) .directory) := by
  obtain ⟨links, onward⟩ := resolve_below found below
  rw [onward purpose, accepted]
  cases links with
  | zero => exact followWith_of_open below.down.plain opened
  | succ links => exact followWith_of_open below.down.plain opened

/-- A path below a base leads to a directory if all its names do. -/
theorem find_below_iff (linkFree : tree.LinkFreeBelow location) {place : Location} :
    tree.find path = .ok (place, .directory) ↔
      refusal? path = none ∧ place = location ++ names pieces ∧
        tree.Open location (names pieces) := by
  rw [find_eq_ok_iff]
  constructor
  · intro resolved
    obtain ⟨accepted, ends⟩ := ends_of_resolve found below linkFree resolved
    cases ends with
    | directory opened => exact ⟨accepted, rfl, opened⟩
  · rintro ⟨accepted, rfl, opened⟩
    exact resolve_of_open found below accepted opened

/-- A single name below a base can be missing only at the end of the path. -/
theorem resolve_ne_missing (linkFree : tree.LinkFreeBelow location) {piece : List Char}
    (single : pieces = [piece]) : tree.resolve purpose path ≠ .error .missing := by
  intro missing
  obtain ⟨links, onward⟩ := resolve_below found below
  rw [onward purpose] at missing
  cases refused : refusal? path with
  | some failure =>
      rw [refused] at missing
      cases Except.error.inj missing
      exact refusal?_ne_missing below.text_ne_empty refused
  | none =>
      obtain ⟨first, others, same, step⟩ := below.down.starts
      cases single.symm.trans same
      have alone : entered [piece] = [String.ofList piece] := by
        rw [entered_cons, if_neg (Path.isStep_iff.mp step).1]
        rfl
      rw [refused, single, alone] at missing
      cases links with
      | zero => exact lastStep_ne_missing linkFree ((followWith_singleton _).symm.trans missing)
      | succ links =>
          exact lastStep_ne_missing linkFree ((followWith_singleton _).symm.trans missing)

end Based

end Stagehand.FileTree
