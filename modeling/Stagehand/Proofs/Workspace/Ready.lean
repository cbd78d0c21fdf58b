import Stagehand.Proofs.FileTree.Clear
import Stagehand.Proofs.Workspace.Ensure

/-! # When a workspace is made ready

In a working directory with nothing in the job's place, the directories of the job are all made as
long as no name among them is longer than the file system takes.  The first output directory whose
name is too long ends the work, although a workflow of that name counts as one that can have an
output directory.
-/

set_option autoImplicit false

namespace Stagehand

open FileTree Stagehand.Path

variable {tree : FileTree} {base path : Path} {location : Location} {added : List String}

/-! ## One directory -/

/-- What is missing is made, and the way it is made is what comes of it. -/
theorem ensureDirectory_of_missing (purpose : String) (missing : tree.find path = .error .missing) :
    (ensureDirectory tree purpose path).tree = (tree.makeDirectories path).1 ∧
      (ensureDirectory tree purpose path).outcome =
        ((tree.makeDirectories path).2.map fun _ => true).mapError (WorkspaceError.mk path) := by
  unfold ensureDirectory
  rw [missing]
  dsimp only
  rw [if_neg (not_not.mpr rfl)]
  generalize tree.makeDirectories path = changed
  obtain ⟨after, failure | done⟩ := changed <;> exact ⟨rfl, rfl⟩

theorem ensureDirectory_clear (purpose : String)
    (found : tree.find base = .ok (location, .directory)) (adds : Adds base added path)
    (accepted : refusal? path = none) (clear : tree.ClearAlong location added)
    (short : Short added) :
    (∃ made, (ensureDirectory tree purpose path).outcome = .ok made) ∧
      Edits (Way location added) nowhere tree (ensureDirectory tree purpose path).tree := by
  obtain ⟨pieces, last, below, last_, step, rfl⟩ := adds
  have ends : EndsInStep pieces := ⟨last, last_, step⟩
  rcases find_clear found below ends accepted clear with ⟨there, -⟩ | missing | ⟨-, long⟩
  · unfold ensureDirectory
    rw [there]
    exact ⟨⟨_, rfl⟩, .refl tree⟩
  · obtain ⟨done, edits⟩ := makeDirectories_clear found below ends accepted clear short
    obtain ⟨after, outcome⟩ := ensureDirectory_of_missing purpose missing
    rw [after, outcome, done]
    exact ⟨⟨_, rfl⟩, edits⟩
  · exact absurd short long

theorem ensureDirectory_tooLong (purpose : String)
    (found : tree.find base = .ok (location, .directory)) (adds : Adds base added path)
    (accepted : refusal? path = none ∨ refusal? path = some .nameTooLong)
    (clear : tree.ClearAlong location added) (short : Short added.dropLast) (long : ¬ Short added) :
    (ensureDirectory tree purpose path).outcome = .error ⟨path, .nameTooLong⟩ := by
  obtain ⟨pieces, last, below, last_, step, rfl⟩ := adds
  have ends : EndsInStep pieces := ⟨last, last_, step⟩
  have refused (found : tree.find path = .error .nameTooLong) :
      (ensureDirectory tree purpose path).outcome = .error ⟨path, .nameTooLong⟩ := by
    unfold ensureDirectory
    rw [found]
    rfl
  rcases accepted with accepted | beyond
  · rcases find_clear found below ends accepted clear with
      ⟨-, short⟩ | missing | ⟨tooLong, -⟩
    · exact absurd short long
    · -- A look stops at the first name that is not there, so only making meets the long one.
      have failed := makeDirectories_tooLong found below ends accepted clear short long
      rw [(ensureDirectory_of_missing purpose missing).2, failed]
      rfl
    · exact refused tooLong
  · refine refused ?_
    unfold find
    rw [resolve_eq, beyond]

/-! ## Several directories -/

/-- Nothing but directories stands at the name in a directory, and below it. -/
def ClearBelow (tree : FileTree) (location : Location) (name : String) : Prop :=
  ∀ rest node, tree.at? (location ++ name :: rest) = some node → node = .directory

theorem ClearBelow.along {name : String} (clear : ClearBelow tree location name)
    (more : List String) : tree.ClearAlong location (name :: more) := by
  rintro place node ⟨front, nonempty, starts, rfl⟩ stands
  obtain ⟨first, rest, rfl⟩ := List.exists_cons_of_ne_nil nonempty
  obtain ⟨rfl, -⟩ := List.cons_prefix_cons.mp starts
  exact clear rest node stands

theorem ClearBelow.after {name : String} {after : FileTree} {added : Location → Prop}
    (clear : ClearBelow tree location name) (edits : Edits added nowhere tree after) :
    ClearBelow after location name := by
  intro rest node stands
  have way : Way location (name :: rest) (location ++ name :: rest) :=
    ⟨_, List.cons_ne_nil _ _, List.prefix_rfl, rfl⟩
  exact edits.clearAlong (clear.along rest) _ node way stands

/-- The path of a directory of the job that the name stands for, fit to be made. -/
def Fits (base : Path) (name : String) (path : Path) : Prop :=
  ∃ more, Adds base (name :: more) path ∧ refusal? path = none ∧ Short (name :: more)

section

variable {name : String} (purpose : String)
  (found : tree.find base = .ok (location, .directory)) (clear : ClearBelow tree location name)

include found clear

/-- A directory that fits is there in the end, and the next one finds nothing in its way. -/
theorem ensureDirectory_fits (fits : Fits base name path) :
    (∃ made, (ensureDirectory tree purpose path).outcome = .ok made) ∧
      (ensureDirectory tree purpose path).tree.find base = .ok (location, .directory) ∧
      ClearBelow (ensureDirectory tree purpose path).tree location name := by
  obtain ⟨more, adds, accepted, short⟩ := fits
  obtain ⟨done, edits⟩ :=
    ensureDirectory_clear purpose found adds accepted (clear.along more) short
  exact ⟨done, edits.find found, clear.after edits⟩

theorem ensureDirectories_clear {paths : List Path} (fit : ∀ path ∈ paths, Fits base name path) :
    (ensureDirectories tree purpose paths).outcome = .ok () := by
  induction paths generalizing tree with
  | nil => rfl
  | cons path others ih =>
      obtain ⟨first, later⟩ := List.forall_mem_cons.mp fit
      obtain ⟨⟨made, done⟩, base, free⟩ := ensureDirectory_fits purpose found clear first
      rw [ensureDirectories, Activity.andThen_of_ok _ done]
      exact ih base free later

theorem ensureDirectories_tooLong {front : List Path} (later : List Path)
    (fit : ∀ path ∈ front, Fits base name path) {more : List String}
    (adds : Adds base (name :: more) path)
    (accepted : refusal? path = none ∨ refusal? path = some .nameTooLong)
    (short : Short (name :: more).dropLast) (long : ¬ Short (name :: more)) :
    (ensureDirectories tree purpose (front ++ path :: later)).outcome =
      .error ⟨path, .nameTooLong⟩ := by
  induction front generalizing tree with
  | nil =>
      have failed := ensureDirectory_tooLong purpose found adds accepted (clear.along more) short long
      rw [List.nil_append, ensureDirectories, Activity.andThen_of_error _ failed]
  | cons first others ih =>
      obtain ⟨fits, rest⟩ := List.forall_mem_cons.mp fit
      obtain ⟨⟨made, done⟩, base, free⟩ := ensureDirectory_fits purpose found clear fits
      rw [List.cons_append, ensureDirectories, Activity.andThen_of_ok _ done]
      exact ih base free rest

end

/-! ## Paths that are not refused -/

theorem text_ne_empty_of_accepted (accepted : refusal? base = none) : base.text ≠ "" := by
  intro empty
  simp [refusal?, empty] at accepted

theorem join_of_isDirectoryName {name : String} (written : base.text ≠ "")
    (named : isDirectoryName name = true) :
    (base.join name).text = base.text ++ name ∨ (base.join name).text = base.text ++ "/" ++ name := by
  unfold Path.join
  rw [isAbsolute_of_isDirectoryName named, if_neg (by simpa using written)]
  split_ifs
  · exact Or.inl rfl
  · exact Or.inr rfl

theorem size_join_le {name : String} (written : base.text ≠ "")
    (named : isDirectoryName name = true) :
    (base.join name).text.utf8ByteSize ≤ base.text.utf8ByteSize + 1 + name.utf8ByteSize := by
  rcases join_of_isDirectoryName written named with text | text
  · rw [text, String.utf8ByteSize_append]
    omega
  · have slash : "/".utf8ByteSize = 1 := rfl
    rw [text, String.utf8ByteSize_append, String.utf8ByteSize_append]
    omega

/-- A directory name below a path can only make it too long. -/
theorem refusal?_join {name : String} (accepted : refusal? base = none)
    (named : isDirectoryName name = true) :
    refusal? (base.join name) =
      if pathLimit ≤ (base.join name).text.utf8ByteSize then some .nameTooLong else none := by
  have written := text_ne_empty_of_accepted accepted
  have clean : ¬ base.text.toList.contains '\x00' = true := fun nul => by
    rw [refusal?, if_pos nul] at accepted
    cases accepted
  have cleanName : ¬ name.toList.contains '\x00' = true := by
    simp only [isDirectoryName, Bool.and_eq_true, Bool.not_eq_true', List.any_eq_false] at named
    intro nul
    have marked := named.2 '\x00' (by simpa using nul)
    simp at marked
  have text := join_of_isDirectoryName written named
  unfold refusal?
  rw [if_neg, if_neg]
  · rcases text with text | text <;> simp [text, written]
  · rcases text with text | text <;> rw [text] <;> simp_all

theorem refusal?_join_of_room {name : String} {room : Nat} (accepted : refusal? base = none)
    (named : isDirectoryName name = true) (short : name.utf8ByteSize ≤ nameLimit)
    (size : base.text.utf8ByteSize + room < pathLimit) (enough : nameLimit + 1 ≤ room) :
    refusal? (base.join name) = none ∧
      (base.join name).text.utf8ByteSize + (room - (nameLimit + 1)) < pathLimit := by
  have written := text_ne_empty_of_accepted accepted
  have joined := size_join_le written named
  rw [refusal?_join accepted named, if_neg (by omega)]
  exact ⟨rfl, by omega⟩

/-! ## The directories of a job -/

namespace Workspace

/-- Names that are not too long leave the paths of a job below this directory short enough. -/
def Roomy (workingDirectory : Path) : Prop :=
  workingDirectory.text.utf8ByteSize + 3 * (nameLimit + 1) < pathLimit

variable {workingDirectory : Path} {correlationId : String}
  (accepted : refusal? workingDirectory = none) (roomy : Roomy workingDirectory)
  (named : isDirectoryName correlationId = true) (short : correlationId.utf8ByteSize ≤ nameLimit)

include accepted roomy named short

theorem fits_inputDirectory :
    Fits workingDirectory correlationId
      (layout workingDirectory correlationId).inputDirectory := by
  have written := text_ne_empty_of_accepted accepted
  have input : isDirectoryName inputName = true := by decide
  have inputShort : inputName.utf8ByteSize ≤ nameLimit := by decide
  obtain ⟨root, left⟩ := refusal?_join_of_room accepted named short roomy (by decide)
  obtain ⟨whole, -⟩ := refusal?_join_of_room root input inputShort left (by decide)
  refine ⟨_, adds_inputDirectory written named, whole, ?_⟩
  exact List.forall_mem_cons.mpr ⟨short, by simpa using inputShort⟩

theorem refusal?_outputs :
    let outputs := (layout workingDirectory correlationId).root.join outputName
    refusal? outputs = none ∧ outputs.text.utf8ByteSize + (nameLimit + 1) < pathLimit := by
  have output : isDirectoryName outputName = true := by decide
  obtain ⟨root, left⟩ := refusal?_join_of_room accepted named short roomy (by decide)
  obtain ⟨whole, rest⟩ := refusal?_join_of_room root output (by decide) left (by decide)
  exact ⟨whole, rest⟩

theorem refusal?_outputDirectory {workflow : String} (usable : hasOutputDirectory workflow = true) :
    refusal? ((layout workingDirectory correlationId).outputDirectory workflow) = none ∨
      refusal? ((layout workingDirectory correlationId).outputDirectory workflow) =
        some .nameTooLong := by
  obtain ⟨outputs, -⟩ := refusal?_outputs accepted roomy named short
  rw [outputDirectory, refusal?_join outputs usable]
  split_ifs
  · exact Or.inr rfl
  · exact Or.inl rfl

theorem fits_outputDirectory {workflow : String} (usable : hasOutputDirectory workflow = true)
    (fine : (directoryToken workflow).utf8ByteSize ≤ nameLimit) :
    Fits workingDirectory correlationId
      ((layout workingDirectory correlationId).outputDirectory workflow) := by
  obtain ⟨outputs, left⟩ := refusal?_outputs accepted roomy named short
  obtain ⟨whole, -⟩ := refusal?_join_of_room outputs usable fine left (Nat.le_refl _)
  have written := text_ne_empty_of_accepted accepted
  have outputShort : outputName.utf8ByteSize ≤ nameLimit := by decide
  refine ⟨_, adds_outputDirectory written named usable, whole, ?_⟩
  exact List.forall_mem_cons.mpr ⟨short, by simpa using ⟨outputShort, fine⟩⟩

theorem fits_outputDirectories {workflows : List String}
    (fine : ∀ workflow ∈ workflows, hasOutputDirectory workflow = true →
      (directoryToken workflow).utf8ByteSize ≤ nameLimit) :
    ∀ path ∈ (layout workingDirectory correlationId).outputDirectories workflows,
      Fits workingDirectory correlationId path := by
  intro path member
  obtain ⟨workflow, kept, rfl⟩ := List.mem_map.mp member
  obtain ⟨listed, usable⟩ := List.mem_filter.mp kept
  exact fits_outputDirectory accepted roomy named short usable (fine workflow listed usable)

omit accepted

variable {tree : FileTree} {location : Location}
  (found : tree.find workingDirectory = .ok (location, .directory))
  (clear : ClearBelow tree location correlationId)

include found clear

/-- With the input directory in place, the output directories decide. -/
theorem exists_ensure_eq (workflows : List String) :
    ∃ withInput, withInput.find workingDirectory = .ok (location, .directory) ∧
      ClearBelow withInput location correlationId ∧
      (ensure tree workingDirectory correlationId workflows).outcome =
        (ensureDirectories withInput "output"
          ((layout workingDirectory correlationId).outputDirectories workflows)).outcome.map
            fun _ => layout workingDirectory correlationId := by
  obtain ⟨⟨made, done⟩, base, free⟩ := ensureDirectory_fits "input" found clear
    (fits_inputDirectory (refusal?_of_find found) roomy named short)
  refine ⟨_, base, free, ?_⟩
  unfold ensure
  rw [Activity.andThen_of_ok _ done, Activity.outcome_after, Activity.andThen]
  generalize ensureDirectories _ "output" _ = outputs
  obtain ⟨after, journal, failure | ready⟩ := outputs <;> rfl

/-- A workspace is made ready if no name of an output directory is too long. -/
theorem ensure_clear {workflows : List String}
    (fine : ∀ workflow ∈ workflows, hasOutputDirectory workflow = true →
      (directoryToken workflow).utf8ByteSize ≤ nameLimit) :
    (ensure tree workingDirectory correlationId workflows).outcome =
      .ok (layout workingDirectory correlationId) := by
  obtain ⟨withInput, base, free, outcome⟩ :=
    exists_ensure_eq roomy named short found clear workflows
  have fit := fits_outputDirectories (refusal?_of_find found) roomy named short fine
  rw [outcome, ensureDirectories_clear "output" base free fit]
  rfl

/-- The first output directory whose name is too long ends the work. -/
theorem ensure_tooLong {front later : List String} {workflow : String}
    (fine : ∀ other ∈ front, hasOutputDirectory other = true →
      (directoryToken other).utf8ByteSize ≤ nameLimit)
    (usable : hasOutputDirectory workflow = true)
    (long : nameLimit < (directoryToken workflow).utf8ByteSize) :
    (ensure tree workingDirectory correlationId (front ++ workflow :: later)).outcome =
      .error ⟨(layout workingDirectory correlationId).outputDirectory workflow, .nameTooLong⟩ := by
  obtain ⟨withInput, base, free, outcome⟩ :=
    exists_ensure_eq roomy named short found clear (front ++ workflow :: later)
  have fit := fits_outputDirectories (refusal?_of_find found) roomy named short fine
  have adds := adds_outputDirectory (text_ne_empty_of_find found) named usable
  have outputShort : outputName.utf8ByteSize ≤ nameLimit := by decide
  have inFront : Short [correlationId, outputName] :=
    List.forall_mem_cons.mpr ⟨short, by simpa using outputShort⟩
  have tooLong : ¬ Short [correlationId, outputName, directoryToken workflow] := fun fine =>
    Nat.not_lt.mpr (fine _ (by simp)) long
  have split : (layout workingDirectory correlationId).outputDirectories
      (front ++ workflow :: later) =
        (layout workingDirectory correlationId).outputDirectories front ++
          (layout workingDirectory correlationId).outputDirectory workflow ::
            (layout workingDirectory correlationId).outputDirectories later := by
    simp [outputDirectories, usable]
  rw [outcome, split, ensureDirectories_tooLong "output" base free _ fit adds
    (refusal?_outputDirectory (refusal?_of_find found) roomy named short usable) inFront tooLong]
  rfl

end Workspace

end Stagehand
