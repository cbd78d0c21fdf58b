import Stagehand.Proofs.FileTree.Alike

/-! # Trees that differ only in what files hold

What the files hold decides nothing about where a path leads.  In two trees that differ in nothing
else every path ends at the same place, and the same directories and files are made through it.
-/

set_option autoImplicit false

namespace Stagehand.FileTree

variable {files : Location → Prop} {before middle after : FileTree} {purpose : Purpose}
  {path : Path} {location : Location}
  {onBefore onAfter : Location → List String → Except SystemError Spot}

/-- A tree after some files, which stay files, got another content. -/
structure Rewrites (files : Location → Prop) (before after : FileTree) : Prop where
  workingDirectory : after.workingDirectory = before.workingDirectory
  place (location : Location) : after.at? location = before.at? location ∨
    files location ∧ ∃ old new,
      before.at? location = some (.file old) ∧ after.at? location = some (.file new)

namespace Rewrites

theorem refl (tree : FileTree) : Rewrites files tree tree :=
  ⟨rfl, fun _ => Or.inl rfl⟩

theorem trans (first : Rewrites files before middle) (second : Rewrites files middle after) :
    Rewrites files before after := by
  refine ⟨second.workingDirectory.trans first.workingDirectory, fun location => ?_⟩
  rcases first.place location with same | ⟨allowed, old, new, stood, stands⟩
  · rcases second.place location with same' | ⟨allowed, old, new, stood, stands⟩
    · exact Or.inl (same'.trans same)
    · exact Or.inr ⟨allowed, old, new, same ▸ stood, stands⟩
  · rcases second.place location with same' | ⟨-, -, newer, -, filled⟩
    · exact Or.inr ⟨allowed, old, new, stood, same'.trans stands⟩
    · exact Or.inr ⟨allowed, old, newer, stood, filled⟩

theorem edits {directories : Location → Prop} (rewrites : Rewrites files before after) :
    Edits directories files before after := by
  refine ⟨rewrites.workingDirectory, fun location => ?_⟩
  rcases rewrites.place location with same | ⟨allowed, old, new, stood, stands⟩
  · rw [same]
    exact .kept _
  · rw [stood, stands]
    exact .replaced allowed old new

theorem put (rewrites : Rewrites files before after) (location : Location) (node : Node) :
    Rewrites files (before.put location node) (after.put location node) := by
  refine ⟨rewrites.workingDirectory, fun place => ?_⟩
  by_cases there : place = location
  · subst there
    left
    by_cases root : place = []
    · rw [root, at?_nil, at?_nil]
    · rw [at?_put_self after node root, at?_put_self before node root]
  · rw [at?_put_of_ne after node there, at?_put_of_ne before node there]
    exact rewrites.place place

/-- One more file gets another content. -/
theorem put_file {old : Bytes} (allowed : files location)
    (stood : before.at? location = some (.file old)) (content : Bytes) :
    Rewrites files before (before.put location (.file content)) := by
  refine ⟨rfl, fun place => ?_⟩
  by_cases there : place = location
  · subst there
    have nonroot : place ≠ [] := by
      rintro rfl
      rw [at?_nil] at stood
      cases stood
    exact Or.inr ⟨allowed, old, content, stood, at?_put_self before _ nonroot⟩
  · exact Or.inl (at?_put_of_ne before _ there)

/-! ## Where paths lead -/

/-- The same end, or a file with another content at the same place. -/
def SameEnd (first second : Except SystemError Spot) : Prop :=
  second = first ∨ ∃ place old new,
    first = .ok (.taken place (.file old)) ∧ second = .ok (.taken place (.file new))

theorem look (rewrites : Rewrites files before after) (here : Location) (name : String) :
    after.look here name = before.look here name ∨ ∃ old new,
      before.look here name = .ok (some (.file old)) ∧
        after.look here name = .ok (some (.file new)) := by
  rcases rewrites.place (here ++ [name]) with same | ⟨-, old, new, stood, stands⟩
  · exact Or.inl (look_congr same)
  · unfold FileTree.look
    split_ifs
    · exact Or.inl rfl
    · exact Or.inr ⟨old, new, by rw [stood], by rw [stands]⟩

section

variable (rewrites : Rewrites files before after)

include rewrites

theorem lastStep (through : ∀ start names, SameEnd (onBefore start names) (onAfter start names))
    (here : Location) (name : String) :
    SameEnd (before.lastStep purpose onBefore here name)
      (after.lastStep purpose onAfter here name) := by
  unfold FileTree.lastStep
  by_cases trivial : name = "" ∨ name = "."
  · rw [if_pos trivial, if_pos trivial]
    exact Or.inl rfl
  by_cases up : name = ".."
  · rw [if_neg trivial, if_neg trivial, if_pos up, if_pos up]
    exact Or.inl rfl
  rw [if_neg trivial, if_neg trivial, if_neg up, if_neg up]
  rcases rewrites.look here name with same | ⟨old, new, saw, sees⟩
  · rw [same]
    rcases before.look here name with failure | (_ | _ | content | target)
    · exact Or.inl rfl
    · exact Or.inl rfl
    · exact Or.inl rfl
    · exact Or.inl rfl
    · dsimp only
      split_ifs
      · exact Or.inl rfl
      · exact through _ _
  · rw [saw, sees]
    exact Or.inr ⟨_, old, new, rfl, rfl⟩

theorem followWith (through : ∀ start names, SameEnd (onBefore start names) (onAfter start names))
    (here : Location) (steps : List String) :
    SameEnd (before.followWith purpose onBefore here steps)
      (after.followWith purpose onAfter here steps) := by
  induction steps generalizing here with
  | nil => exact Or.inl rfl
  | cons name more ih =>
      cases more with
      | nil =>
          rw [followWith_singleton, followWith_singleton]
          exact rewrites.lastStep through here name
      | cons next rest =>
          rw [FileTree.followWith, FileTree.followWith]
          split_ifs
          · exact ih here
          · exact ih here.dropLast
          · exact Or.inl rfl
          · rcases rewrites.look here name with same | ⟨old, new, saw, sees⟩
            · rw [same]
              rcases before.look here name with failure | (_ | _ | content | target)
              · exact Or.inl rfl
              · exact Or.inl rfl
              · exact ih (here ++ [name])
              · exact Or.inl rfl
              · exact through _ _
            · rw [saw, sees]
              exact Or.inl rfl

theorem follow (links : Nat) (here : Location) (steps : List String) :
    SameEnd (before.follow purpose links here steps) (after.follow purpose links here steps) := by
  induction links generalizing here steps with
  | zero => exact rewrites.followWith (fun _ _ => Or.inl rfl) here steps
  | succ links ih => exact rewrites.followWith ih here steps

theorem resolve (purpose : Purpose) (path : Path) :
    SameEnd (before.resolve purpose path) (after.resolve purpose path) := by
  rw [resolve_eq, resolve_eq, rewrites.workingDirectory]
  cases refusal? path with
  | some failure => exact Or.inl rfl
  | none => exact rewrites.follow _ _ _

theorem find (path : Path) :
    after.find path = before.find path ∨ ∃ place old new,
      before.find path = .ok (place, .file old) ∧ after.find path = .ok (place, .file new) := by
  unfold FileTree.find
  rcases rewrites.resolve .look path with same | ⟨place, old, new, led, leads⟩
  · rw [same]
    exact Or.inl rfl
  · rw [led, leads]
    exact Or.inr ⟨place, old, new, rfl, rfl⟩

theorem makesAlike (path : Path) : MakesAlike (Rewrites files) path before after := by
  constructor
  · unfold FileTree.isDirectory
    rcases rewrites.find path with same | ⟨place, old, new, led, leads⟩
    · rw [same]
    · rw [led, leads]
  · unfold FileTree.makeDirectory
    rcases rewrites.resolve .entry path with same | ⟨place, old, new, led, leads⟩
    · rw [same]
      rcases before.resolve .entry path with failure | (_ | free)
      · exact Or.inl ⟨failure, rfl, rfl⟩
      · exact Or.inl ⟨.exists_, rfl, rfl⟩
      · exact Or.inr ⟨_, _, rfl, rfl, rewrites.put free .directory⟩
    · rw [led, leads]
      exact Or.inl ⟨.exists_, rfl, rfl⟩

theorem makeAll (paths : List Path) :
    Rewrites files (before.makeAll paths).1 (after.makeAll paths).1 ∧
      (after.makeAll paths).2 = (before.makeAll paths).2 := by
  induction paths generalizing before after with
  | nil => exact ⟨rewrites, rfl⟩
  | cons path parents ih =>
      by_cases written : path.text = ""
      · rw [FileTree.makeAll, FileTree.makeAll, if_pos (by simp [written]),
          if_pos (by simp [written])]
        exact ⟨rewrites, rfl⟩
      · exact makeAll_alike rewrites written parents (fun _ _ other => other.makesAlike path)
          fun _ => ih rewrites

/-- A file is created at the same place, whatever other files hold. -/
theorem createFile {created : FileTree}
    (creation : before.createFile path = .ok (location, created)) :
    after.createFile path = .ok (location, after.put location (.file [])) := by
  rw [createFile_eq] at creation ⊢
  have same : writePlace (after.resolve .write path) = writePlace (before.resolve .write path) := by
    rcases rewrites.resolve .write path with same | ⟨place, old, new, led, leads⟩
    · rw [same]
    · rw [led, leads]
      rfl
  rw [same]
  cases written : writePlace (before.resolve .write path) with
  | error failure => rw [written] at creation; cases creation
  | ok place =>
      rw [written] at creation
      cases creation
      rfl

end
end Rewrites
end Stagehand.FileTree
