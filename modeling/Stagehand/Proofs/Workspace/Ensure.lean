import Stagehand.Proofs.FileTree.Change
import Stagehand.Proofs.FileTree.Place
import Stagehand.Workspace.Ensure

/-! # The directories of a job

A directory name is a single piece that leads down, so the directories of a job lie below the working
directory.  Making them ready adds directories on the way to them and nothing else; when it succeeds
each of their paths leads to its own place.
-/

set_option autoImplicit false

namespace Stagehand

open FileTree Stagehand.Path

/-! ## Directory names -/

theorem segments_of_isDirectoryName {name : String} (named : isDirectoryName name = true) :
    segments name.toList = [name.toList] := by
  apply segments_of_not_mem
  intro slash
  simp only [isDirectoryName, Bool.and_eq_true, Bool.not_eq_true', List.any_eq_false] at named
  have clean := named.2 '/' slash
  simp at clean

theorem leadsDown_of_isDirectoryName {name : String} (named : isDirectoryName name = true) :
    isStep name.toList = true ∧ LeadsDown (segments name.toList) := by
  have single := segments_of_isDirectoryName named
  simp only [isDirectoryName, Bool.and_eq_true, Bool.not_eq_true', decide_eq_true_eq] at named
  obtain ⟨⟨⟨written, undotted⟩, straight⟩, -⟩ := named
  rw [single]
  have step : isStep name.toList = true := by
    refine isStep_iff.mpr ⟨?_, ?_⟩
    · simpa using written
    · rwa [ne_eq, ← String.toList_inj] at undotted
  refine ⟨step, .singleton step ?_⟩
  rwa [ne_eq, ← String.toList_inj] at straight

theorem names_of_isDirectoryName {name : String} (named : isDirectoryName name = true) :
    names (segments name.toList) = [name] := by
  rw [segments_of_isDirectoryName named]
  simp [names, (leadsDown_of_isDirectoryName named).1]

theorem isAbsolute_of_isDirectoryName {name : String} (named : isDirectoryName name = true) :
    (Path.mk name).isAbsolute = false :=
  isAbsolute_eq_false_of_head (segments_of_isDirectoryName named)
    (isStep_iff.mp (leadsDown_of_isDirectoryName named).1).1

/-- A directory name is one component, and a name. -/
theorem components_of_isDirectoryName {name : String} (named : isDirectoryName name = true) :
    (Path.mk name).components = [.name name] := by
  obtain ⟨step, down⟩ := leadsDown_of_isDirectoryName named
  have single := segments_of_isDirectoryName named
  have straight : name.toList ≠ ['.', '.'] := down.plain _ (by simp [single])
  obtain ⟨written, undotted⟩ := isStep_iff.mp step
  unfold components
  rw [single, isAbsolute_of_isDirectoryName named]
  simp [component?, written, undotted, straight]

/-- A base followed by a directory name. -/
theorem below_name {base : Path} {name : String} (written : base.text ≠ "")
    (named : isDirectoryName name = true) : Below base [name.toList] (base.join name) := by
  have below := below_join written (isAbsolute_of_isDirectoryName named)
    (leadsDown_of_isDirectoryName named).2
  rwa [segments_of_isDirectoryName named] at below

theorem Path.Below.join_name {base path : Path} {pieces : List (List Char)} {name : String}
    (below : Below base pieces path) (named : isDirectoryName name = true) :
    Below base (pieces ++ [name.toList]) (path.join name) := by
  have joined := below.join (isAbsolute_of_isDirectoryName named)
    (leadsDown_of_isDirectoryName named).2
  rwa [segments_of_isDirectoryName named] at joined

theorem names_singleton {name : String} (named : isDirectoryName name = true) :
    names [name.toList] = [name] := by
  have whole := names_of_isDirectoryName named
  rwa [segments_of_isDirectoryName named] at whole

/-! ## One directory -/

/-- A path that continues a base with some names and ends in the last of them. -/
def Path.Adds (base : Path) (added : List String) (path : Path) : Prop :=
  ∃ pieces last, Below base pieces path ∧ pieces.getLast? = some last ∧ isStep last = true ∧
    names pieces = added

theorem place_of_adds {tree : FileTree} {base path : Path} {added : List String}
    (written : base.text ≠ "") (adds : Adds base added path) :
    tree.place path = tree.place base ++ added := by
  obtain ⟨pieces, last, below, -, -, rfl⟩ := adds
  exact place_below written below

theorem ensureDirectory_below {tree : FileTree} {base path : Path} {location : Location}
    {added : List String} (purpose : String)
    (found : tree.find base = .ok (location, .directory)) (adds : Adds base added path)
    (linkFree : tree.LinkFreeBelow location) :
    Edits (Way location added) nowhere tree (ensureDirectory tree purpose path).tree ∧
      ∀ made, (ensureDirectory tree purpose path).outcome = .ok made →
        (ensureDirectory tree purpose path).tree.find path =
          .ok (location ++ added, .directory) := by
  obtain ⟨pieces, last, below, ends, step, rfl⟩ := adds
  unfold ensureDirectory
  split
  · rename_i place there
    obtain ⟨-, rfl, -⟩ := (find_below_iff found below linkFree).mp there
    exact ⟨.refl tree, fun _ _ => there⟩
  · exact ⟨.refl tree, fun _ fine => by cases fine⟩
  · rename_i failure _
    by_cases missing : failure = .missing
    · rw [if_neg (by simp [missing])]
      obtain ⟨edits, there⟩ := makeAll_below path.text.length found below linkFree ends step
      unfold makeDirectories ancestors
      generalize tree.makeAll (path :: path.parentsUpTo path.text.length) = changed
        at edits there ⊢
      obtain ⟨left, reason | done⟩ := changed
      · exact ⟨edits, fun _ fine => by cases fine⟩
      · exact ⟨edits, fun _ _ => there rfl⟩
    · rw [if_pos missing]
      exact ⟨.refl tree, fun _ fine => by cases fine⟩

/-- The directory that a base leads to is never made again. -/
theorem ensureDirectory_trims {tree : FileTree} {base path : Path} {location : Location}
    (purpose : String) (found : tree.find base = .ok (location, .directory))
    (trims : Trims base path) : (ensureDirectory tree purpose path).tree = tree := by
  unfold ensureDirectory
  rcases find_trims found trims with there | ⟨failure, unreadable, other⟩
  · rw [there]
    rfl
  · rw [unreadable]
    dsimp only
    rw [if_pos other]
    rfl

/-! ## Several directories -/

theorem ensureDirectories_below {base : Path} {location : Location}
    {directories : Location → Prop} (purpose : String) (paths : List Path) {tree : FileTree}
    (found : tree.find base = .ok (location, .directory))
    (linkFree : tree.LinkFreeBelow location)
    (adds : ∀ path ∈ paths, ∃ added, Adds base added path ∧
      ∀ place, Way location added place → directories place) :
    Edits directories nowhere tree (ensureDirectories tree purpose paths).tree ∧
      ∀ fine, (ensureDirectories tree purpose paths).outcome = .ok fine →
        ∀ path ∈ paths, ∀ added, Adds base added path →
          (ensureDirectories tree purpose paths).tree.find path =
            .ok (location ++ added, .directory) := by
  induction paths generalizing tree with
  | nil => exact ⟨.refl tree, fun _ _ path member => by cases member⟩
  | cons path others ih =>
      obtain ⟨added, addsFirst, allowed⟩ := adds path List.mem_cons_self
      have first := ensureDirectory_below purpose found addsFirst linkFree
      have widened := first.1.mono allowed fun _ => id
      rw [ensureDirectories]
      cases ended : (ensureDirectory tree purpose path).outcome with
      | error failure =>
          rw [Activity.andThen_of_error _ ended]
          exact ⟨widened, fun _ fine => by cases fine⟩
      | ok made =>
          rw [Activity.andThen_of_ok _ ended]
          obtain ⟨edits, there⟩ := ih (widened.find found) (widened.linkFreeBelow linkFree)
            fun other member => adds other (List.mem_cons_of_mem _ member)
          refine ⟨widened.trans edits, fun fine success other member names_ addsOther => ?_⟩
          rw [Activity.tree_after]
          rcases List.mem_cons.mp member with rfl | member
          · have here := ensureDirectory_below purpose found addsOther linkFree
            exact edits.find (here.2 made ended)
          · exact there fine success other member names_ addsOther

namespace Workspace

variable {workingDirectory : Path} {correlationId : String} {location : Location}

theorem adds_inputDirectory (written : workingDirectory.text ≠ "")
    (named : isDirectoryName correlationId = true) :
    Adds workingDirectory [correlationId, inputName]
      (layout workingDirectory correlationId).inputDirectory := by
  have input : isDirectoryName inputName = true := by decide
  refine ⟨_, _, (below_name written named).join_name input, List.getLast?_concat,
    (leadsDown_of_isDirectoryName input).1, ?_⟩
  rw [names_append, names_singleton named, names_singleton input]
  rfl

theorem adds_outputDirectory (written : workingDirectory.text ≠ "")
    (named : isDirectoryName correlationId = true) {workflow : String}
    (usable : hasOutputDirectory workflow = true) :
    Adds workingDirectory [correlationId, outputName, directoryToken workflow]
      ((layout workingDirectory correlationId).outputDirectory workflow) := by
  have output : isDirectoryName outputName = true := by decide
  refine ⟨_, _, ((below_name written named).join_name output).join_name usable,
    List.getLast?_concat, (leadsDown_of_isDirectoryName usable).1, ?_⟩
  rw [names_append, names_append, names_singleton named, names_singleton output,
    names_singleton usable]
  rfl

/-- The places of the directories that a job may need. -/
def Places (location : Location) (correlationId : String) (place : Location) : Prop :=
  Way location [correlationId, inputName] place ∨
    ∃ workflow, Way location [correlationId, outputName, directoryToken workflow] place

/-- Making a workspace ready adds directories of the job; if there is no failure, the paths of its
directories lead to their places. -/
theorem ensure_below {tree : FileTree} (workflows : List String)
    (found : tree.find workingDirectory = .ok (location, .directory))
    (linkFree : tree.LinkFreeBelow location) (named : isDirectoryName correlationId = true) :
    let work := ensure tree workingDirectory correlationId workflows
    Edits (Places location correlationId) nowhere tree work.tree ∧
      ∀ workspace, work.outcome = .ok workspace →
        work.tree.find workspace.inputDirectory =
            .ok (location ++ [correlationId, inputName], .directory) ∧
          ∀ workflow ∈ workflows, hasOutputDirectory workflow = true →
            work.tree.find (workspace.outputDirectory workflow) =
              .ok (location ++ [correlationId, outputName, directoryToken workflow],
                .directory) := by
  have written := text_ne_empty_of_find found
  have first := ensureDirectory_below "input" found (adds_inputDirectory written named) linkFree
  have inside : Edits (Places location correlationId) nowhere tree _ :=
    first.1.mono (fun _ => Or.inl) fun _ => id
  simp only [ensure]
  cases ended : (ensureDirectory tree "input"
      (layout workingDirectory correlationId).inputDirectory).outcome with
  | error failure =>
      rw [Activity.andThen_of_error _ ended]
      exact ⟨inside, fun _ fine => by cases fine⟩
  | ok made =>
      rw [Activity.andThen_of_ok _ ended]
      have input := first.2 made ended
      generalize (ensureDirectory tree "input" _).tree = withInput at inside input ⊢
      have others := @ensureDirectories_below workingDirectory location
        (Places location correlationId) "output"
        ((layout workingDirectory correlationId).outputDirectories workflows) withInput
        (inside.find found) (inside.linkFreeBelow linkFree) (by
          intro path member
          obtain ⟨workflow, kept, rfl⟩ := List.mem_map.mp member
          exact ⟨_, adds_outputDirectory written named (List.mem_filter.mp kept).2,
            fun place way => Or.inr ⟨workflow, way⟩⟩)
      cases second : (ensureDirectories withInput "output"
          ((layout workingDirectory correlationId).outputDirectories workflows)).outcome with
      | error failure =>
          rw [Activity.andThen_of_error _ second]
          exact ⟨inside.trans others.1, fun _ fine => by cases fine⟩
      | ok ready =>
          rw [Activity.andThen_of_ok _ second]
          refine ⟨inside.trans others.1, fun workspace fine => ?_⟩
          cases Except.ok.inj fine
          refine ⟨others.1.find input, fun workflow member usable => ?_⟩
          exact others.2 ready second _
            (List.mem_map_of_mem (List.mem_filter.mpr ⟨member, usable⟩)) _
            (adds_outputDirectory written named usable)

theorem Places.below {place : Location} (belongs : Places location correlationId place) :
    ∃ rest, place = location ++ correlationId :: rest := by
  have head {more : List String} (way : Way location (correlationId :: more) place) :
      ∃ rest, place = location ++ correlationId :: rest := by
    obtain ⟨front, nonempty, starts, rfl⟩ := way
    rcases List.prefix_cons_iff.mp starts with rfl | ⟨rest, rfl, -⟩
    · exact absurd rfl nonempty
    · exact ⟨rest, rfl⟩
  rcases belongs with way | ⟨workflow, way⟩
  · exact head way
  · exact head way

/-- Nothing is added below the input directory. -/
theorem not_places {rest : List String} (nonempty : rest ≠ []) :
    ¬ Places location correlationId (location ++ [correlationId, inputName] ++ rest) := by
  rintro (⟨front, -, starts, same⟩ | ⟨workflow, front, -, starts, same⟩)
  · rw [List.append_assoc, List.append_cancel_left_eq] at same
    subst same
    simp [nonempty] at starts
  · rw [List.append_assoc, List.append_cancel_left_eq] at same
    subst same
    have apart : inputName ≠ outputName := by decide
    simp [apart] at starts

end Workspace
end Stagehand
