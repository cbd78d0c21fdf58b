import Stagehand.Proofs.FileTree.Alike
import Stagehand.Proofs.Job.Confinement

/-! # Engines that go by what they are given

An engine is local if a call of it knows nothing but the name of the workflow and what is at and below
the two directories that it is given, and does nothing elsewhere.  Called for a job in two trees that
are the same below the name of that job, it ends the same and leaves them alike, and so do all the
workflows of the job together.
-/

set_option autoImplicit false

namespace Stagehand

open FileTree Stagehand.Path Workspace

variable {state : Type}

/-- Two trees in which a call of an engine is given the same: they start from the same directory, and
hold the same at and below the places that the two paths spell. -/
structure GivesSame (first second : FileTree) (input output : Path) : Prop where
  left : first.LinkFree
  right : second.LinkFree
  workingDirectory : second.workingDirectory = first.workingDirectory
  same : ∀ place, first.place input <+: place ∨ first.place output <+: place →
    second.at? place = first.at? place

/-- An engine that keeps to the directories that it is given, makes no links, and goes by the name of
the workflow, the two paths, and what is there, whatever it did before. -/
structure Engine.Local (engine : Engine state) : Prop where
  confined : engine.StaysInside FileTree.LinkFree
  ending : ∀ start start' first second name input output, GivesSame first second input output →
    (engine.execute start' second name input output).ending =
      (engine.execute start first name input output).ending
  leaves : ∀ start start' first second name input output, GivesSame first second input output →
    ∀ place, first.place input <+: place ∨ first.place output <+: place →
      (engine.execute start' second name input output).tree.at? place =
        (engine.execute start first name input output).tree.at? place

/-- The engine whose calls remove one entry of their output directory. -/
def sweepingEngine : Engine Unit where
  execute _ tree _ _ output :=
    { next := (), tree := tree.cut (tree.place output ++ ["scrap"]), ending := .success }

theorem reportingEngine_local : reportingEngine.Local where
  confined :=
    { starts := fun _ => id
      stays := by
        intro _ tree _ _ output linkFree place target
        simp only [reportingEngine]
        by_cases here : place = tree.place output ++ ["report"]
        · rw [here, at?_put_self tree _ (by simp)]
          simp
        · rw [at?_put_of_ne tree _ here]
          exact linkFree place target
      workingDirectory := fun _ _ _ _ _ _ => rfl
      untouched := fun start tree name input output place _ =>
        reportingEngine_staysInside.untouched start tree name input output place trivial }
  ending _ _ _ _ _ _ _ _ := rfl
  leaves := by
    intro _ _ first second _ _ output gives place given
    have written := place_congr gives.workingDirectory output
    simp only [reportingEngine, written]
    exact at?_put_congr _ (gives.same place given)

theorem sweepingEngine_local : sweepingEngine.Local where
  confined :=
    { starts := fun _ => id
      stays := by
        intro _ tree _ _ output linkFree place target
        simp only [sweepingEngine, at?_cut]
        split_ifs
        · simp
        · exact linkFree place target
      workingDirectory := fun _ _ _ _ _ _ => rfl
      untouched := by
        intro _ tree _ _ output place _ _ outside
        simp only [sweepingEngine, at?_cut]
        refine if_neg ?_
        rintro ⟨-, starts⟩
        exact outside ((List.prefix_append _ _).trans starts) }
  ending _ _ _ _ _ _ _ _ := rfl
  leaves := by
    intro _ _ first second _ _ output gives place given
    have written := place_congr gives.workingDirectory output
    simp only [sweepingEngine, written, at?_cut, gives.same place given]

/-- At or below a directory that a workflow of a request is given. -/
def Given (location : Location) (request : Request) (place : Location) : Prop :=
  ∃ workflow ∈ request.workflows, hasOutputDirectory workflow = true ∧
    (location ++ [request.correlationId, inputName] <+: place ∨
      location ++ [request.correlationId, outputName, directoryToken workflow] <+: place)

variable {engine : Engine state} {base : Path} {location : Location} {request : Request}
  {first second tree : FileTree}

theorem place_inputDirectory (based : Based base location tree)
    (named : isDirectoryName request.correlationId = true) :
    tree.place (layout base request.correlationId).inputDirectory =
      location ++ [request.correlationId, inputName] := by
  have written := text_ne_empty_of_find based.found
  rw [place_of_adds written (adds_inputDirectory written named),
    place_of_find based.linkFree based.found]

theorem place_outputDirectory (based : Based base location tree)
    (named : isDirectoryName request.correlationId = true) {workflow : String}
    (usable : hasOutputDirectory workflow = true) :
    tree.place ((layout base request.correlationId).outputDirectory workflow) =
      location ++ [request.correlationId, outputName, directoryToken workflow] := by
  have written := text_ne_empty_of_find based.found
  rw [place_of_adds written (adds_outputDirectory written named usable),
    place_of_find based.linkFree based.found]

/-- Engine calls on the directories of a job leave alone what no workflow of it is given, and the way
to the working directory with it. -/
theorem EngineRun.based {start last : state} {final : FileTree} {calls : List Call}
    (run : EngineRun engine start tree calls last final)
    (confined : engine.StaysInside FileTree.LinkFree) (based : Based base location tree)
    (named : isDirectoryName request.correlationId = true)
    (apart : ∀ place ∈ tree.through base, ¬ Given location request place)
    (own : ∀ name input output seen, .execute name input output seen ∈ calls →
      name ∈ request.workflows ∧ hasOutputDirectory name = true ∧
        input = (layout base request.correlationId).inputDirectory ∧
        output = (layout base request.correlationId).outputDirectory name) :
    Based base location final ∧ final.workingDirectory = tree.workingDirectory ∧
      ∀ place, ¬ Given location request place → final.at? place = tree.at? place := by
  obtain ⟨linkFree, stood, untouched⟩ := run.stays confined based.linkFree
  have outside (place : Location) (other : ¬ Given location request place) :
      final.at? place = tree.at? place := by
    refine untouched place ?_
    intro name input output seen member
    obtain ⟨listed, usable, rfl, rfl⟩ := own name input output seen member
    rw [place_inputDirectory based named, place_outputDirectory based named usable]
    exact ⟨fun below => other ⟨name, listed, usable, Or.inl below⟩,
      fun below => other ⟨name, listed, usable, Or.inr below⟩⟩
  refine ⟨⟨?_, linkFree⟩, stood, outside⟩
  exact find_of_through based.linkFree based.found stood fun place member =>
    outside place (apart place member)

theorem Given.below {place : Location} (given : Given location request place) :
    location ++ [request.correlationId] <+: place := by
  obtain ⟨workflow, -, -, below | below⟩ := given
  · exact List.IsPrefix.trans ⟨[inputName], by simp⟩ below
  · exact List.IsPrefix.trans ⟨[outputName, directoryToken workflow], by simp⟩ below

/-! ## The workflows of a job -/

/-- Trees that are alike below the name of a job give its workflows the same directories. -/
theorem givesSame_of_alike {workflow : String}
    (alike : Alike base location request.correlationId first second)
    (named : isDirectoryName request.correlationId = true)
    (usable : hasOutputDirectory workflow = true) :
    GivesSame first second (layout base request.correlationId).inputDirectory
      ((layout base request.correlationId).outputDirectory workflow) := by
  refine ⟨alike.left.linkFree, alike.right.linkFree, alike.workingDirectory, ?_⟩
  rintro place (⟨rest, rfl⟩ | ⟨rest, rfl⟩)
  · rw [place_inputDirectory alike.left named, List.append_assoc]
    exact alike.same _
  · rw [place_outputDirectory alike.left named usable, List.append_assoc]
    exact alike.same _

/-- One call for a workflow of a job leaves the way to the working directory alone. -/
theorem execute_based {workflow : String} (confined : engine.StaysInside FileTree.LinkFree)
    (start : state) (based : Based base location tree)
    (named : isDirectoryName request.correlationId = true)
    (apart : ∀ place ∈ tree.through base, ¬ Given location request place)
    (listed : workflow ∈ request.workflows) (usable : hasOutputDirectory workflow = true) :
    let input := (layout base request.correlationId).inputDirectory
    let output := (layout base request.correlationId).outputDirectory workflow
    Based base location (engine.execute start tree workflow input output).tree ∧
      (engine.execute start tree workflow input output).tree.workingDirectory =
        tree.workingDirectory := by
  intro input output
  have run : EngineRun engine start tree [.execute workflow input output tree] _ _ :=
    .call (.done _ _)
  obtain ⟨kept, stood, -⟩ := run.based confined based named apart (by
    intro name input' output' seen member
    cases List.mem_singleton.mp member
    exact ⟨listed, usable, rfl, rfl⟩)
  exact ⟨kept, stood⟩

section

variable (own : engine.Local) (named : isDirectoryName request.correlationId = true)

include own named

theorem execute_alike {workflow : String} (start start' : state)
    (alike : Alike base location request.correlationId first second)
    (apart : ∀ place ∈ first.through base, ¬ Given location request place)
    (listed : workflow ∈ request.workflows) (usable : hasOutputDirectory workflow = true) :
    let input := (layout base request.correlationId).inputDirectory
    let output := (layout base request.correlationId).outputDirectory workflow
    (engine.execute start' second workflow input output).ending =
        (engine.execute start first workflow input output).ending ∧
      Alike base location request.correlationId
        (engine.execute start first workflow input output).tree
        (engine.execute start' second workflow input output).tree := by
  intro input output
  have inputPlace := place_inputDirectory alike.left named
  have outputPlace := place_outputDirectory alike.left named usable
  have inputPlace' := place_inputDirectory alike.right named
  have outputPlace' := place_outputDirectory alike.right named usable
  have gives : GivesSame first second input output := givesSame_of_alike alike named usable
  obtain ⟨left, stood⟩ := execute_based own.confined start alike.left named apart listed usable
  obtain ⟨right, stood'⟩ := execute_based own.confined start' alike.right named
    (by rwa [through_congr alike.workingDirectory]) listed usable
  refine ⟨own.ending _ _ _ _ _ _ _ gives, left, right, ?_, ?_⟩
  · rw [stood, stood', alike.workingDirectory]
  · intro rest
    -- Below a directory that the call is given the engine decides, elsewhere nothing happens.
    by_cases given : first.place input <+: location ++ request.correlationId :: rest ∨
        first.place output <+: location ++ request.correlationId :: rest
    · exact own.leaves _ _ _ _ _ _ _ gives _ given
    · rw [not_or] at given
      rw [own.confined.untouched _ _ _ _ _ _ alike.left.linkFree given.1 given.2,
        own.confined.untouched _ _ _ _ _ _ alike.right.linkFree, alike.same]
      · rw [inputPlace', ← inputPlace]
        exact given.1
      · rw [outputPlace', ← outputPlace]
        exact given.2

theorem runAll_alike (times : WorkflowTimes) {names : List String} {bench bench' : Bench state}
    (alike : Alike base location request.correlationId bench.tree bench'.tree)
    (apart : ∀ place ∈ bench.tree.through base, ¬ Given location request place)
    (listed : ∀ name ∈ names, name ∈ request.workflows) :
    let workspace := layout base request.correlationId
    (Invocation.runAll engine times workspace bench' names).result =
        (Invocation.runAll engine times workspace bench names).result ∧
      Alike base location request.correlationId
        (Invocation.runAll engine times workspace bench names).bench.tree
        (Invocation.runAll engine times workspace bench' names).bench.tree := by
  intro workspace
  induction names generalizing bench bench' with
  | nil => exact ⟨rfl, alike⟩
  | cons workflow others ih =>
      have step : (Invocation.run engine times workspace bench' workflow).result =
            (Invocation.run engine times workspace bench workflow).result ∧
          Alike base location request.correlationId
            (Invocation.run engine times workspace bench workflow).bench.tree
            (Invocation.run engine times workspace bench' workflow).bench.tree ∧
          (Invocation.run engine times workspace bench workflow).bench.tree.workingDirectory =
            bench.tree.workingDirectory := by
        unfold Invocation.run
        by_cases usable : hasOutputDirectory workflow = true
        · obtain ⟨ended, left⟩ := execute_alike own named bench.engine bench'.engine alike apart
            (listed workflow List.mem_cons_self) usable
          simp only [if_pos usable, Invocation.launch]
          refine ⟨?_, left, own.confined.workingDirectory _ _ _ _ _ alike.left.linkFree⟩
          rw [ended]
        · rw [if_neg usable, if_neg usable]
          exact ⟨rfl, alike, rfl⟩
      obtain ⟨result, left, stood⟩ := step
      obtain ⟨results, final⟩ := ih left (by rwa [through_congr stood])
        fun name member => listed name (List.mem_cons_of_mem _ member)
      simp only [Invocation.runAll]
      exact ⟨by rw [result, results], final⟩

end

end Stagehand
