import Stagehand.Proofs.FileTree.Clear
import Stagehand.Proofs.FileTree.Repetition

/-! # Directories that could not be made

A path that leads to a directory has a parent that does so as well, and the parent of a directory is
never what is missing.  So when a directory with its parents cannot be made, there is no directory
at its path in the tree that is left, whatever the failure was and wherever the links lead.
-/

set_option autoImplicit false

namespace Stagehand.FileTree

open Stagehand.Path (segments)

variable {tree : FileTree} {here location : Location} {path parent : Path}

/-! ## The start of a way -/

/-- The first names of a way to a directory lead to a directory themselves. -/
theorem followWith_start {onLong onShort : Location → List String → Except SystemError Spot}
    {rest : List String}
    (through : ∀ start names, onLong start (names ++ rest) = .ok (.taken location .directory) →
      ∃ place, onShort start names = .ok (.taken place .directory))
    (names : List String) (here : Location)
    (leads : tree.Leads onLong here (names ++ rest) location) :
    ∃ place, tree.Leads onShort here names place := by
  induction names generalizing here with
  | nil => exact ⟨here, leads_nil.mpr rfl⟩
  | cons name more ih =>
      rw [List.cons_append, leads_cons] at leads
      simp only [leads_cons]
      split_ifs at leads ⊢
      · exact ih _ leads
      · exact ih _ leads
      · rcases leads with ⟨seen, leads⟩ | ⟨target, seen, leads⟩
        · obtain ⟨place, leads⟩ := ih _ leads
          exact ⟨place, Or.inl ⟨seen, leads⟩⟩
        · rw [← List.append_assoc] at leads
          obtain ⟨place, leads⟩ := through _ _ leads
          exact ⟨place, Or.inr ⟨target, seen, leads⟩⟩

theorem follow_start {links : Nat} {names rest : List String}
    (leads : tree.follow .look links here (names ++ rest) = .ok (.taken location .directory)) :
    ∃ place, tree.follow .look links here names = .ok (.taken place .directory) := by
  induction links generalizing here names with
  | zero =>
      refine followWith_start ?_ names here leads
      intro start more led
      cases led
  | succ links ih => exact followWith_start (fun start more => @ih start more) names here leads

theorem entered_append (front back : List (List Char)) :
    entered (front ++ back) = entered front ++ entered back := by
  simp [entered]

theorem entered_leading (path : Path) :
    entered path.leading = entered (segments path.text.toList) := by
  unfold Path.leading
  split_ifs with trailing
  · obtain ⟨front, split⟩ := List.getLast?_eq_some_iff.mp trailing
    rw [split, List.dropLast_concat, entered_append]
    simp [entered]
  · rfl

/-- The parent of a path that leads to a directory leads to a directory. -/
theorem find_parent (found : tree.find path = .ok (location, .directory))
    (up : path.parent? = some parent) (written : parent.text ≠ "") :
    ∃ place, tree.find parent = .ok (place, .directory) := by
  obtain ⟨first, others, split⟩ :=
    List.exists_cons_of_ne_nil (Path.segments_ne_nil path.text.toList)
  obtain ⟨bare | ⟨front, last, trimmed, -⟩, trivial, whole, -⟩ := Path.dropTrivial_cases others
  · exact absurd (Path.parent?_of_bare split bare up) written
  · obtain ⟨same, found', absolute, parts⟩ := Path.parent?_of_pieces split trimmed
    cases Option.some.inj (up.symm.trans found')
    have led := leading_of_find found
    have pieces : first :: others = (first :: front) ++ (last :: trivial) := by
      rw [whole, trimmed]
      simp
    rw [entered_leading, split, pieces, entered_append] at led
    obtain ⟨place, led⟩ := follow_start led
    refine ⟨place, find_eq_ok_iff.mpr ?_⟩
    have accepted := refusal?_of_start (refusal?_of_find found) written (Path.parent?_start up)
    rw [resolve_eq, accepted, namesFor_look, startOf_eq absolute]
    exact follow_trimmed written parts led

/-! ## What is not missing -/

/-- Names that lead to a directory lead to something, also when the last link is not followed. -/
theorem followWith_entry {onLook onEntry : Location → List String → Except SystemError Spot}
    (through : ∀ start names, onLook start names = .ok (.taken location .directory) →
      onEntry start names ≠ .error .missing)
    (names : List String) (here : Location) (leads : tree.Leads onLook here names location) :
    tree.followWith .entry onEntry here names ≠ .error .missing := by
  induction names generalizing here with
  | nil => simp [followWith]
  | cons name more ih =>
      rw [leads_cons] at leads
      by_cases last : more = []
      · subst last
        rw [followWith_singleton, lastStep]
        simp only [if_true]
        split_ifs at leads ⊢
        · simp
        · simp
        · rcases leads with ⟨seen, -⟩ | ⟨target, seen, -⟩ <;> simp [seen]
      · rw [followWith_cons name last (Or.inl (by simp))]
        split_ifs at leads ⊢
        · exact ih _ leads
        · exact ih _ leads
        · rcases leads with ⟨seen, leads⟩ | ⟨target, seen, leads⟩
          · rw [seen]
            exact ih _ leads
          · rw [seen]
            exact through _ _ leads

theorem follow_entry {links : Nat} {names : List String}
    (leads : tree.follow .look links here names = .ok (.taken location .directory)) :
    tree.follow .entry links here names ≠ .error .missing := by
  induction links generalizing here names with
  | zero =>
      refine followWith_entry ?_ names here leads
      intro start more led
      cases led
  | succ links ih => exact followWith_entry (fun start more led => ih led) names here leads

/-- Where a directory is found, nothing is missing to make it. -/
theorem makeDirectory_ne_missing_of_find (found : tree.find path = .ok (location, .directory)) :
    tree.makeDirectory path ≠ .error .missing := by
  have resolved := find_eq_ok_iff.mp found
  have accepted := refusal?_of_find found
  obtain ⟨tail, idle, whole⟩ := stepNames_eq_namesFor_entry path.text
  rw [resolve_eq, accepted, namesFor_look, whole] at resolved
  have led : tree.follow .look linkLimit (startOf path.text tree.workingDirectory)
      (namesFor .entry path.text) = .ok (.taken location .directory) := by
    rcases idle with rfl | rfl
    · rwa [List.append_nil] at resolved
    · exact follow_init (Or.inl rfl) resolved
  have present := follow_entry led
  unfold makeDirectory
  rw [resolve_eq, accepted]
  dsimp only
  split
  · rename_i failure ended
    rw [ended] at present
    rintro ⟨rfl⟩
    exact present rfl
  · simp
  · simp

theorem isDirectory_of_missing (missing : tree.makeDirectory path = .error .missing) :
    tree.isDirectory path = false := by
  refine Bool.eq_false_iff.mpr fun stands => ?_
  obtain ⟨place, found⟩ := isDirectory_iff.mp stands
  exact makeDirectory_ne_missing_of_find found missing

/-! ## What could not be made -/

theorem isDirectory_of_makeOrFind_error {failure : SystemError}
    (failed : (tree.makeOrFind path).2 = .error failure) :
    (tree.makeOrFind path).1.isDirectory path = false := by
  unfold makeOrFind at failed ⊢
  cases made : tree.makeDirectory path with
  | ok next => rw [made] at failed; cases failed
  | error reason =>
      rw [made] at failed
      dsimp only at failed ⊢
      split_ifs at failed with stands
      exact Bool.eq_false_iff.mpr stands

/-- A directory that could not be made with its parents is not there afterwards. -/
theorem isDirectory_of_makeAll_error (bound : Nat) (written : path.text ≠ "")
    {failure : SystemError}
    (failed : (tree.makeAll (path :: path.parentsUpTo bound)).2 = .error failure) :
    (tree.makeAll (path :: path.parentsUpTo bound)).1.isDirectory path = false := by
  induction bound generalizing path failure with
  | zero =>
      by_cases missing : tree.makeDirectory path = .error .missing
      · rw [makeAll_of_missing written _ missing]
        exact isDirectory_of_missing missing
      · rw [makeAll_of_not_missing written _ missing] at failed ⊢
        exact isDirectory_of_makeOrFind_error failed
  | succ bound ih =>
      by_cases missing : tree.makeDirectory path = .error .missing
      · rw [makeAll_of_missing written _ missing] at failed ⊢
        cases up : path.parent? with
        | none =>
            rw [Path.parentsUpTo, up]
            exact isDirectory_of_missing missing
        | some parent =>
            rw [Path.parentsUpTo, up] at failed ⊢
            dsimp only at failed ⊢
            have above := @ih parent
            cases ended : tree.makeAll (parent :: parent.parentsUpTo bound) with
            | mk left outcome =>
                rw [ended] at failed above
                cases outcome with
                | ok done => exact isDirectory_of_makeOrFind_error failed
                | error deeper =>
                    have named : parent.text ≠ "" := by
                      intro empty
                      simp [makeAll, empty] at ended
                    refine Bool.eq_false_iff.mpr fun stands => ?_
                    obtain ⟨place, found⟩ := isDirectory_iff.mp stands
                    obtain ⟨placeAbove, there⟩ := find_parent found up named
                    have closed := above named rfl
                    rw [isDirectory_iff.mpr ⟨placeAbove, there⟩] at closed
                    cases closed
      · rw [makeAll_of_not_missing written _ missing] at failed ⊢
        exact isDirectory_of_makeOrFind_error failed

end Stagehand.FileTree
