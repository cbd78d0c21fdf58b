import Stagehand.Proofs.FileTree.Change

/-! # Files behind any path

Symbolic links may stand anywhere here.  A path that ends at a file, or at a free place, ends at what
the tree holds there, and as long as directories are only added and files only written it goes on
leading to that place.  So what is written through a path is found through it later on, unless some
other path that leads to the same place is written through.
-/

set_option autoImplicit false

namespace Stagehand

/-- An end of a path where a file can be written: one that is there, or a free place. -/
inductive Spot.Writable (location : Location) : Spot → Prop
  | free : Writable location (.free location)
  | file (content : Bytes) : Writable location (.taken location (.file content))

namespace FileTree

variable {tree before after : FileTree} {purpose : Purpose} {here location : Location}
  {steps : List String} {spot : Spot} {path : Path} {content : Bytes}
  {onLink onBefore onAfter : Location → List String → Except SystemError Spot}

/-- Every place. -/
def anywhere (_ : Location) : Prop := True

/-! ## Ways to a file or a free place -/

/-- A way along some names to an end where a file can be written. -/
inductive Goes (tree : FileTree) (onLink : Location → List String → Except SystemError Spot) :
    Location → List String → Spot → Prop
  | free {here : Location} {name : String} (loud : ¬ (name = "" ∨ name = ".")) (down : name ≠ "..")
      (seen : tree.look here name = .ok none) : Goes tree onLink here [name] (.free (here ++ [name]))
  | file {here : Location} {name : String} {content : Bytes} (loud : ¬ (name = "" ∨ name = "."))
      (down : name ≠ "..") (seen : tree.look here name = .ok (some (.file content))) :
      Goes tree onLink here [name] (.taken (here ++ [name]) (.file content))
  | idle {here : Location} {name : String} {more : List String} {spot : Spot}
      (trivial : name = "" ∨ name = ".") (rest : Goes tree onLink here more spot) :
      Goes tree onLink here (name :: more) spot
  | up {here : Location} {more : List String} {spot : Spot}
      (rest : Goes tree onLink here.dropLast more spot) : Goes tree onLink here (".." :: more) spot
  | down {here : Location} {name : String} {more : List String} {spot : Spot}
      (loud : ¬ (name = "" ∨ name = ".")) (down : name ≠ "..")
      (seen : tree.look here name = .ok (some .directory))
      (rest : Goes tree onLink (here ++ [name]) more spot) : Goes tree onLink here (name :: more) spot
  | link {here : Location} {name target : String} {more : List String} {spot : Spot}
      (loud : ¬ (name = "" ∨ name = ".")) (down : name ≠ "..")
      (seen : tree.look here name = .ok (some (.link target)))
      (rest : onLink (startOf target here) (stepNames target ++ more) = .ok spot) :
      Goes tree onLink here (name :: more) spot

theorem Goes.ne_nil (goes : tree.Goes onLink here steps spot) : steps ≠ [] := by
  cases goes <;> simp

theorem goes_of_lastStep {name : String} (writable : spot.Writable location)
    (stepped : tree.lastStep purpose onLink here name = .ok spot) :
    tree.Goes onLink here [name] spot := by
  unfold lastStep at stepped
  by_cases trivial : name = "" ∨ name = "."
  · rw [if_pos trivial] at stepped
    cases Except.ok.inj stepped
    cases writable
  by_cases up : name = ".."
  · rw [if_neg trivial, if_pos up] at stepped
    cases Except.ok.inj stepped
    cases writable
  rw [if_neg trivial, if_neg up] at stepped
  rcases seen : tree.look here name with failure | (_ | _ | content | target)
  · rw [seen] at stepped; cases stepped
  · rw [seen] at stepped
    cases Except.ok.inj stepped
    exact .free trivial up seen
  · rw [seen] at stepped
    cases Except.ok.inj stepped
    cases writable
  · rw [seen] at stepped
    cases Except.ok.inj stepped
    exact .file trivial up seen
  · rw [seen] at stepped
    dsimp only at stepped
    by_cases entry : purpose = .entry
    · rw [if_pos entry] at stepped
      cases Except.ok.inj stepped
      cases writable
    · rw [if_neg entry] at stepped
      refine .link trivial up seen ?_
      rwa [List.append_nil]

theorem goes_of_followWith (writable : spot.Writable location)
    (followed : tree.followWith purpose onLink here steps = .ok spot) :
    tree.Goes onLink here steps spot := by
  fun_induction tree.followWith purpose onLink here steps with
  | case1 here =>
      cases Except.ok.inj followed
      cases writable
  | case2 here name => exact goes_of_lastStep writable followed
  | case3 here name next rest trivial ih => exact .idle trivial (ih followed)
  | case4 here next rest loud ih => exact .up (ih followed)
  | case5 => cases followed
  | case6 => cases followed
  | case7 => cases followed
  | case8 here name next rest loud down quiet seen ih => exact .down loud down seen (ih followed)
  | case9 => cases followed
  | case10 here name next rest loud down quiet target seen => exact .link loud down seen followed

theorem followWith_of_goes (goes : tree.Goes onLink here steps spot) :
    tree.followWith .look onLink here steps = .ok spot := by
  induction goes with
  | free loud down seen =>
      rw [followWith_singleton, lastStep, if_neg loud, if_neg down, seen]
  | file loud down seen =>
      rw [followWith_singleton, lastStep, if_neg loud, if_neg down, seen]
  | idle trivial rest ih =>
      rw [followWith_cons _ rest.ne_nil (Or.inl (by simp)), if_pos trivial]
      exact ih
  | up rest ih =>
      rw [followWith_cons _ rest.ne_nil (Or.inl (by simp)), if_neg (by simp), if_pos rfl]
      exact ih
  | down loud down seen rest ih =>
      rw [followWith_cons _ rest.ne_nil (Or.inl (by simp)), if_neg loud, if_neg down, seen]
      exact ih
  | @link here name target more spot loud down seen rest =>
      by_cases last : more = []
      · subst last
        rw [List.append_nil] at rest
        rw [followWith_singleton, lastStep, if_neg loud, if_neg down, seen]
        simpa using rest
      · rw [followWith_cons _ last (Or.inl (by simp)), if_neg loud, if_neg down, seen]
        exact rest

/-! ## What stands at the end -/

/-- The tree holds what an end tells of a file or a free place. -/
def Holds (tree : FileTree) : Spot → Prop
  | .free location => tree.at? location = none
  | .taken location node => tree.at? location = some node

theorem Goes.holds (goes : tree.Goes onLink here steps spot)
    (through : ∀ start more, onLink start more = .ok spot → tree.Holds spot) :
    tree.Holds spot := by
  induction goes with
  | free loud down seen => exact look_eq_ok seen
  | file loud down seen => exact look_eq_ok seen
  | idle trivial rest ih => exact ih through
  | up rest ih => exact ih through
  | down loud down seen rest ih => exact ih through
  | link loud down seen rest => exact through _ _ rest

theorem holds_of_follow {links : Nat} (writable : spot.Writable location)
    (followed : tree.follow purpose links here steps = .ok spot) : tree.Holds spot := by
  induction links generalizing here steps with
  | zero =>
      refine (goes_of_followWith writable followed).holds ?_
      intro start more led
      cases led
  | succ links ih =>
      refine (goes_of_followWith writable followed).holds ?_
      intro start more led
      exact ih led

theorem holds_of_resolve (writable : spot.Writable location)
    (resolved : tree.resolve purpose path = .ok spot) : tree.Holds spot := by
  rw [resolve_eq] at resolved
  cases refused : refusal? path with
  | some failure => rw [refused] at resolved; cases resolved
  | none =>
      rw [refused] at resolved
      exact holds_of_follow writable resolved

/-! ## Ways that stay -/

section

variable {directories files : Location → Prop} (edits : Edits directories files before after)
  (writable : spot.Writable location) (written : after.at? location = some (.file content))

include edits writable written

/-- A way to a file or a free place is a way to what was written there. -/
theorem Goes.persists
    (through : ∀ start more, onBefore start more = .ok spot →
      onAfter start more = .ok (.taken location (.file content)))
    (goes : before.Goes onBefore here steps spot) :
    after.Goes onAfter here steps (.taken location (.file content)) := by
  induction goes with
  | free loud down seen =>
      cases writable
      exact .file loud down (look_of_at? seen written)
  | file loud down seen =>
      cases writable
      exact .file loud down (look_of_at? seen written)
  | idle trivial rest ih => exact .idle trivial (ih writable through)
  | up rest ih => exact .up (ih writable through)
  | down loud down seen rest ih =>
      have stays := look_of_at? seen (edits.directory_kept (look_eq_ok seen))
      exact .down loud down stays (ih writable through)
  -- The target of a link is a way of its own, with one link less to follow.
  | link loud down seen rest =>
      have stays := look_of_at? seen (edits.link_kept (look_eq_ok seen))
      exact .link loud down stays (through _ _ rest)

theorem follow_persists {links : Nat}
    (followed : before.follow purpose links here steps = .ok spot) :
    after.follow .look links here steps = .ok (.taken location (.file content)) := by
  induction links generalizing here steps with
  | zero =>
      refine followWith_of_goes (Goes.persists edits writable written ?_
        (goes_of_followWith writable followed))
      intro start more led
      cases led
  | succ links ih =>
      refine followWith_of_goes (Goes.persists edits writable written ?_
        (goes_of_followWith writable followed))
      intro start more led
      exact ih led

/-- A path along which a file could be written leads to the file once it is. -/
theorem find_of_written (inside : purpose ≠ .entry)
    (resolved : before.resolve purpose path = .ok spot) :
    after.find path = .ok (location, .file content) := by
  rw [resolve_eq] at resolved
  rw [find_eq_ok_iff, resolve_eq]
  cases refused : refusal? path with
  | some failure => rw [refused] at resolved; cases resolved
  | none =>
      rw [refused] at resolved
      have same : namesFor purpose path.text = stepNames path.text := by
        simp [namesFor, inside]
      dsimp only at resolved ⊢
      rw [same] at resolved
      rw [namesFor_look, edits.workingDirectory]
      exact follow_persists edits writable written resolved

end

/-- A path that leads to a file goes on leading to it, whatever is written there. -/
theorem Edits.find_file {directories files : Location → Prop}
    (edits : Edits directories files before after)
    (found : before.find path = .ok (location, .file content)) :
    ∃ now, after.find path = .ok (location, .file now) ∧ after.at? location = some (.file now) := by
  have resolved := find_eq_ok_iff.mp found
  have stood : before.at? location = some (.file content) :=
    holds_of_resolve (.file content) resolved
  have edit := edits.place location
  rw [stood] at edit
  obtain ⟨now, written⟩ : ∃ now, after.at? location = some (.file now) := by
    generalize after.at? location = node at edit
    cases edit with
    | kept => exact ⟨content, rfl⟩
    | replaced allowed old now => exact ⟨now, rfl⟩
  exact ⟨now, find_of_written edits (.file content) written (by simp) resolved, written⟩

/-! ## Changes -/

theorem edits_makeDirectory (made : tree.makeDirectory path = .ok after) :
    Edits anywhere nowhere tree after := by
  obtain ⟨place, resolved, rfl⟩ := makeDirectory_eq_ok_iff.mp made
  exact .put_directory True.intro (holds_of_resolve .free resolved)

theorem edits_makeOrFind (tree : FileTree) (path : Path) :
    Edits anywhere nowhere tree (tree.makeOrFind path).1 := by
  unfold makeOrFind
  cases made : tree.makeDirectory path with
  | ok next => exact edits_makeDirectory made
  | error failure => exact .refl tree

theorem edits_makeAll (paths : List Path) (tree : FileTree) :
    Edits anywhere nowhere tree (tree.makeAll paths).1 := by
  induction paths generalizing tree with
  | nil => exact .refl tree
  | cons path parents ih =>
      by_cases empty : path.text = ""
      · rw [makeAll, if_pos (by simp [empty])]
        exact .refl tree
      by_cases missing : tree.makeDirectory path = .error .missing
      · rw [makeAll_of_missing empty _ missing]
        have above := ih tree
        generalize tree.makeAll parents = before at above ⊢
        obtain ⟨before, deeper | done⟩ := before
        · exact above
        · exact above.trans (edits_makeOrFind before path)
      · rw [makeAll_of_not_missing empty _ missing]
        exact edits_makeOrFind tree path

/-- A new file, or one cut to nothing, at the place that the path leads to; whatever is written to it
is found there, also after more was made and written elsewhere. -/
theorem createFile_holds {created : FileTree}
    (creation : tree.createFile path = .ok (location, created)) :
    created = tree.put location (.file []) ∧ location ≠ [] ∧
      (tree.at? location = none ∨ ∃ old, tree.at? location = some (.file old)) ∧
      ∀ {directories files : Location → Prop} {later : FileTree} {now : Bytes},
        Edits directories files tree later → later.at? location = some (.file now) →
          later.find path = .ok (location, .file now) := by
  unfold createFile at creation
  cases resolved : tree.resolve .write path with
  | error failure => rw [resolved] at creation; cases creation
  | ok spot =>
      rw [resolved] at creation
      -- A directory and a link are no ends to write at: the creation has failed there.
      obtain ⟨same, writable⟩ : tree.put location (.file []) = created ∧
          spot.Writable location := by
        cases spot with
        | free place =>
            cases Except.ok.inj creation
            exact ⟨rfl, .free⟩
        | taken place node =>
            cases node with
            | file old =>
                cases Except.ok.inj creation
                exact ⟨rfl, .file old⟩
            | directory => cases creation
            | link target => cases creation
      have holds := holds_of_resolve writable resolved
      have open_ : tree.at? location = none ∨ ∃ old, tree.at? location = some (.file old) := by
        cases writable with
        | free => exact Or.inl holds
        | file old => exact Or.inr ⟨old, holds⟩
      refine ⟨same.symm, ?_, open_, ?_⟩
      · rintro rfl
        rw [at?_nil] at open_
        simp at open_
      · intro directories files later now edits written
        exact find_of_written edits writable written (by simp) resolved

/-- A file created and written: its place is all that is written to. -/
theorem edits_written {created : FileTree} (content : Bytes)
    (creation : tree.createFile path = .ok (location, created)) :
    Edits anywhere (· = location) tree (created.put location (.file content)) ∧
      (created.put location (.file content)).find path = .ok (location, .file content) := by
  obtain ⟨rfl, nonroot, writable, leads⟩ := createFile_holds creation
  have empty := @Edits.put_file anywhere (· = location) tree location rfl [] writable
  have filled := @Edits.put_file anywhere (· = location) _ location rfl content
    (Or.inr ⟨[], at?_put_self tree (.file []) nonroot⟩)
  have edits := empty.trans filled
  exact ⟨edits, leads edits (at?_put_self _ _ nonroot)⟩

end FileTree
end Stagehand
