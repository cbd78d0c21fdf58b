import Stagehand.Proofs.Path.Components
import Stagehand.Proofs.Workspace.Ensure
import Stagehand.Proofs.Workspace.Name

/-! # Where the directories of a workspace lie

The input directory lies in the root of the workspace, and the output directories lie side by side in
one directory next to it.  Each is named by the token of its workflow, so two names lead to one output
directory exactly if they have the same token.
-/

set_option autoImplicit false

namespace Stagehand

open Stagehand.Path Workspace

/-! ## A path with a name behind it -/

theorem components_join_name {base : Path} {name : String} (named : isDirectoryName name = true) :
    (base.join name).components = base.components ++ [.name name] := by
  have single : (segments name.toList).head? ≠ some ['.'] := by
    rw [segments_of_isDirectoryName named]
    simpa using (isStep_iff.mp (leadsDown_of_isDirectoryName named).1).2
  rw [components_join (isAbsolute_of_isDirectoryName named) single,
    components_of_isDirectoryName named]

theorem getLast?_segments_join_name {base : Path} {name : String}
    (named : isDirectoryName name = true) :
    (segments (base.join name).text.toList).getLast? = some name.toList := by
  by_cases written : base.text = ""
  · have start : base.join name = ⟨name⟩ := by simp [join, written]
    rw [start, segments_of_isDirectoryName named]
    rfl
  · rw [(below_name written named).split, List.getLast?_concat]

/-- The parent of a name in a directory is the directory, exactly as it is written. -/
theorem parent?_join_join {base : Path} {holder name : String}
    (holds : isDirectoryName holder = true) (named : isDirectoryName name = true) :
    ((base.join holder).join name).parent? = some (base.join holder) := by
  have step := (leadsDown_of_isDirectoryName holds).1
  have ends : (segments (base.join holder).text.toList).getLast? = some holder.toList :=
    getLast?_segments_join_name holds
  have written : (base.join holder).text ≠ "" := by
    intro blank
    rw [blank] at ends
    exact (isStep_iff.mp step).1 (Option.some.inj ends).symm
  exact (below_name written named).parent?_of_step ends step

namespace Workspace

theorem components_inputDirectory (workspace : Workspace) :
    workspace.inputDirectory.components = workspace.root.components ++ [.name inputName] :=
  components_join_name (by decide)

theorem components_outputDirectory (workspace : Workspace) {workflow : String}
    (usable : hasOutputDirectory workflow = true) :
    (workspace.outputDirectory workflow).components =
      workspace.root.components ++ [.name outputName, .name (directoryToken workflow)] := by
  have holder : (workspace.root.join outputName).components =
      workspace.root.components ++ [.name outputName] := components_join_name (by decide)
  rw [outputDirectory, components_join_name usable, holder, List.append_assoc]
  rfl

variable {workspace : Workspace} {first second : String}
  (usableFirst : hasOutputDirectory first = true)

include usableFirst

theorem outputDirectory_apart_inputDirectory :
    (workspace.outputDirectory first).Apart workspace.inputDirectory := by
  unfold Apart LiesIn
  rw [components_outputDirectory workspace usableFirst, components_inputDirectory,
    List.prefix_append_right_inj, List.prefix_append_right_inj]
  simp [inputName, outputName]

variable (usableSecond : hasOutputDirectory second = true)

include usableSecond

theorem outputDirectory_liesIn_iff :
    (workspace.outputDirectory first).LiesIn (workspace.outputDirectory second) ↔
      Confusable first second := by
  unfold LiesIn
  rw [components_outputDirectory workspace usableFirst,
    components_outputDirectory workspace usableSecond, List.prefix_append_right_inj,
    ← directoryToken_eq_directoryToken_iff]
  simp [eq_comm]

theorem outputDirectory_eq_iff :
    workspace.outputDirectory first = workspace.outputDirectory second ↔
      Confusable first second := by
  constructor
  · intro same
    have inside : (workspace.outputDirectory first).LiesIn (workspace.outputDirectory second) := by
      rw [same]
      exact List.prefix_rfl
    exact (outputDirectory_liesIn_iff usableFirst usableSecond).mp inside
  · intro confusable
    rw [outputDirectory, outputDirectory,
      (directoryToken_eq_directoryToken_iff first second).mpr confusable]

theorem outputDirectory_apart_iff :
    (workspace.outputDirectory first).Apart (workspace.outputDirectory second) ↔
      ¬ Confusable first second := by
  unfold Apart
  rw [outputDirectory_liesIn_iff usableFirst usableSecond,
    outputDirectory_liesIn_iff usableSecond usableFirst, confusable_comm, and_self]

end Workspace

/-- The token of a name has one character for each of the name's, alphanumeric or one of four others,
and it forgets only which characters are shown as a hyphen.  Every name but the empty one and the two
dotted ones gives a directory right in the one that holds the outputs of the job. -/
theorem outputDirectory_of_token :
    (∀ name, hasOutputDirectory name = true ↔ name ∉ ["", ".", ".."]) ∧
    (∀ c, isTokenChar c = true ↔ Text.isAlphanumeric c = true ∨ c ∈ ['_', '-', '.', ' ']) ∧
    (∀ name, (directoryToken name).length = name.length ∧
      (∀ c ∈ (directoryToken name).toList, isTokenChar c = true) ∧
      (directoryToken name = name ↔ ∀ c ∈ name.toList, isTokenChar c = true) ∧
      directoryToken (directoryToken name) = directoryToken name) ∧
    (∀ first second, directoryToken first = directoryToken second ↔
      first.length = second.length ∧
        ∀ (position : Nat) (c d : Char), first.toList[position]? = some c →
          second.toList[position]? = some d →
          c = d ∨ (c = '-' ∨ isTokenChar c = false) ∧ (d = '-' ∨ isTokenChar d = false)) ∧
    ∀ workingDirectory correlationId name, hasOutputDirectory name = true →
      let workspace := layout workingDirectory correlationId
      let outputs := workspace.root.join outputName
      let output := workspace.outputDirectory name
      output.components = outputs.components ++ [.name (directoryToken name)] ∧
        output.parent? = some outputs := by
  have usable_iff (name : String) : hasOutputDirectory name = true ↔ name ∉ ["", ".", ".."] := by
    rw [hasOutputDirectory_iff, NamesNothing]
    simp only [List.mem_cons, List.not_mem_nil, or_false]
  have shared_iff (first second : String) :=
    (directoryToken_eq_directoryToken_iff first second).trans (confusable_iff first second)
  refine ⟨usable_iff, isTokenChar_iff, fun name => ?_, shared_iff, ?_⟩
  · exact ⟨length_directoryToken name, fun _ => isTokenChar_of_mem_directoryToken,
      directoryToken_eq_self_iff name, directoryToken_directoryToken name⟩
  · intro workingDirectory correlationId name usable
    exact ⟨components_join_name usable, parent?_join_join (by decide) usable⟩

/-- A name in two scripts, below a working directory that is written with a dot in front and a slash
behind. -/
theorem outputDirectory_of_mixed_scripts :
    let name := "ünïcode/名前"
    let output := (layout ⟨"./w/"⟩ "a").outputDirectory name
    hasOutputDirectory name = true ∧ output = ⟨"./w/a/output/ünïcode-名前"⟩ ∧
      output.components =
        [.here, .name "w", .name "a", .name "output", .name "ünïcode-名前"] ∧
      output.parent? = some ⟨"./w/a/output"⟩ ∧
      directoryToken name ≠ directoryToken "ünïcode_名前" := by
  intro name output
  obtain ⟨named, -, -, same, below⟩ := outputDirectory_of_token
  have usable : hasOutputDirectory name = true := (named name).mpr (by decide)
  obtain ⟨components, parent⟩ := below ⟨"./w/"⟩ "a" name usable
  have written : output = ⟨"./w/a/output/ünïcode-名前"⟩ := by decide +kernel
  refine ⟨usable, written, ?_, parent, fun shared => ?_⟩
  · rw [components]
    decide +kernel
  · have eighth := ((same _ _).mp shared).2 7 '/' '_' (by decide) (by decide)
    exact absurd eighth (by decide +kernel)

end Stagehand
