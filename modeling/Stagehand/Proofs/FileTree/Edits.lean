import Stagehand.FileTree.Change
import Stagehand.Proofs.FileTree.Region

/-! # Trees to which something is added

The work of a job adds directories and writes files.  How a tree may change is said place by place,
with the places where a directory may be added and those where a file may be written.  Such changes
compose, and they leave alone every way to a directory.
-/

set_option autoImplicit false

namespace Stagehand.FileTree

open Stagehand.Path (segments names isStep LeadsDown Below Trims)

/-- What may become of one place: a free one may get a directory or a file, and a file may get
another content. -/
inductive Edit (directory file : Prop) : Option Node → Option Node → Prop
  | kept (node : Option Node) : Edit directory file node node
  | made (allowed : directory) : Edit directory file none (some .directory)
  | created (allowed : file) (content : Bytes) : Edit directory file none (some (.file content))
  | replaced (allowed : file) (old content : Bytes) :
      Edit directory file (some (.file old)) (some (.file content))

/-- A tree after directories were added at some places and files written at others. -/
structure Edits (directories files : Location → Prop) (before after : FileTree) : Prop where
  workingDirectory : after.workingDirectory = before.workingDirectory
  place (location : Location) :
    Edit (directories location) (files location) (before.at? location) (after.at? location)

/-- The places that some names lead through below a location. -/
def Way (location : Location) (names : List String) (place : Location) : Prop :=
  ∃ front, front ≠ [] ∧ front <+: names ∧ place = location ++ front

/-- No place at all. -/
def nowhere (_ : Location) : Prop := False

theorem Edit.trans {directory file : Prop} {first second third : Option Node}
    (before : Edit directory file first second) (after : Edit directory file second third) :
    Edit directory file first third := by
  cases before with
  | kept => exact after
  | made allowed =>
      cases after with
      | kept => exact .made allowed
  | created allowed content =>
      cases after with
      | kept => exact .created allowed content
      | replaced _ _ later => exact .created allowed later
  | replaced allowed old content =>
      cases after with
      | kept => exact .replaced allowed old content
      | replaced _ _ later => exact .replaced allowed old later

theorem Edit.mono {directory file directory' file' : Prop} {first second : Option Node}
    (edit : Edit directory file first second) (directories : directory → directory')
    (files : file → file') : Edit directory' file' first second := by
  cases edit with
  | kept => exact .kept _
  | made allowed => exact .made (directories allowed)
  | created allowed content => exact .created (files allowed) content
  | replaced allowed old content => exact .replaced (files allowed) old content

section

variable {directory file : Prop} {node : Option Node}

theorem Edit.eq_of_not {first second : Option Node} (edit : Edit directory file first second)
    (unmade : ¬ directory) (unwritten : ¬ file) : second = first := by
  cases edit with
  | kept => rfl
  | made allowed => exact absurd allowed unmade
  | created allowed => exact absurd allowed unwritten
  | replaced allowed => exact absurd allowed unwritten

theorem Edit.eq_directory (edit : Edit directory file (some .directory) node) :
    node = some .directory := by
  cases edit
  rfl

theorem Edit.eq_link {target : String} (edit : Edit directory file (some (.link target)) node) :
    node = some (.link target) := by
  cases edit
  rfl

theorem Edit.link_eq {target : String} (edit : Edit directory file node (some (.link target))) :
    node = some (.link target) := by
  cases edit
  rfl

end

namespace Edits

variable {directories files : Location → Prop} {before middle after tree : FileTree}
  {location : Location}

theorem refl (tree : FileTree) : Edits directories files tree tree :=
  ⟨rfl, fun _ => .kept _⟩

theorem trans (first : Edits directories files before middle)
    (second : Edits directories files middle after) : Edits directories files before after :=
  ⟨second.workingDirectory.trans first.workingDirectory,
    fun place => (first.place place).trans (second.place place)⟩

theorem mono {directories' files' : Location → Prop} (edits : Edits directories files before after)
    (made : ∀ place, directories place → directories' place)
    (written : ∀ place, files place → files' place) : Edits directories' files' before after :=
  ⟨edits.workingDirectory, fun place => (edits.place place).mono (made place) (written place)⟩

theorem put_directory (allowed : directories location) (free : tree.at? location = none) :
    Edits directories files tree (tree.put location .directory) := by
  refine ⟨rfl, fun place => ?_⟩
  by_cases same : place = location
  · have nonroot : location ≠ [] := by
      rintro rfl
      rw [at?_nil] at free
      cases free
    rw [same, free, at?_put_self tree .directory nonroot]
    exact .made allowed
  · rw [at?_put_of_ne tree .directory same]
    exact .kept _

theorem put_file (allowed : files location) (content : Bytes)
    (writable : tree.at? location = none ∨ ∃ old, tree.at? location = some (.file old)) :
    Edits directories files tree (tree.put location (.file content)) := by
  refine ⟨rfl, fun place => ?_⟩
  by_cases same : place = location
  · have nonroot : location ≠ [] := by
      rintro rfl
      rw [at?_nil] at writable
      rcases writable with free | ⟨old, taken⟩
      · cases free
      · cases taken
    rw [same, at?_put_self tree _ nonroot]
    rcases writable with free | ⟨old, taken⟩
    · rw [free]
      exact .created allowed content
    · rw [taken]
      exact .replaced allowed old content
  · rw [at?_put_of_ne tree _ same]
    exact .kept _

/-! ## What stays -/

theorem at?_eq (edits : Edits directories files before after) (unmade : ¬ directories location)
    (unwritten : ¬ files location) : after.at? location = before.at? location :=
  (edits.place location).eq_of_not unmade unwritten

theorem directory_kept (edits : Edits directories files before after)
    (stood : before.at? location = some .directory) : after.at? location = some .directory := by
  have edit := edits.place location
  rw [stood] at edit
  exact edit.eq_directory

theorem link_kept {target : String} (edits : Edits directories files before after)
    (stood : before.at? location = some (.link target)) :
    after.at? location = some (.link target) := by
  have edit := edits.place location
  rw [stood] at edit
  exact edit.eq_link

theorem file_unwritten {old : Bytes} (edits : Edits directories files before after)
    (stood : before.at? location = some (.file old)) (unwritten : ¬ files location) :
    after.at? location = some (.file old) := by
  have edit := edits.place location
  rw [stood] at edit
  generalize after.at? location = node at edit ⊢
  cases edit with
  | kept => rfl
  | replaced allowed => exact absurd allowed unwritten

theorem link_stood {target : String} (edits : Edits directories files before after)
    (stands : after.at? location = some (.link target)) :
    before.at? location = some (.link target) := by
  have edit := edits.place location
  rw [stands] at edit
  exact edit.link_eq

theorem linkFreeBelow (edits : Edits directories files before after)
    (linkFree : before.LinkFreeBelow location) : after.LinkFreeBelow location :=
  fun rest target nonempty stands => linkFree rest target nonempty (edits.link_stood stands)

theorem leads {onBefore onAfter : Location → List String → Except SystemError Spot}
    {here : Location} {steps : List String} (edits : Edits directories files before after)
    (through : ∀ start names, onBefore start names = .ok (.taken location .directory) →
      onAfter start names = .ok (.taken location .directory))
    (leads : before.Leads onBefore here steps location) :
    after.Leads onAfter here steps location := by
  induction steps generalizing here with
  | nil => exact leads_nil.mpr (leads_nil.mp leads)
  | cons name more ih =>
      rw [leads_cons] at leads ⊢
      split_ifs at leads ⊢
      · exact ih leads
      · exact ih leads
      · rcases leads with ⟨seen, leads⟩ | ⟨target, seen, leads⟩
        · exact Or.inl ⟨look_of_at? seen (edits.directory_kept (look_eq_ok seen)), ih leads⟩
        · exact Or.inr ⟨target, look_of_at? seen (edits.link_kept (look_eq_ok seen)),
            through _ _ leads⟩

theorem follow {links : Nat} {here : Location} {steps : List String}
    (edits : Edits directories files before after)
    (followed : before.follow .look links here steps = .ok (.taken location .directory)) :
    after.follow .look links here steps = .ok (.taken location .directory) := by
  induction links generalizing here steps with
  | zero =>
      refine edits.leads ?_ followed
      intro start names led
      cases led
  | succ links ih => exact edits.leads (fun start names led => ih led) followed

/-- A path that leads to a directory still does. -/
theorem find {path : Path} (edits : Edits directories files before after)
    (found : before.find path = .ok (location, .directory)) :
    after.find path = .ok (location, .directory) := by
  rw [find_eq_ok_iff, resolve_eq] at found ⊢
  cases refused : refusal? path with
  | some failure => rw [refused] at found; cases found
  | none =>
      rw [refused] at found
      rw [edits.workingDirectory]
      exact edits.follow found

end Edits

end Stagehand.FileTree
