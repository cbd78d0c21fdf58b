import Stagehand.Proofs.Job.Execution
import Stagehand.Proofs.Job.Preparation
import Stagehand.Proofs.Staging.Openings
import Stagehand.Proofs.Workspace.Attempt
import Stagehand.Rehearsal.Dispatcher

/-! # Staging into a workspace that was used before

Nothing is removed after a job, so a delivery may find its directories as earlier workflows left them.
An object goes where the names of its key lead from the input directory, and a symbolic link on that
way would take it elsewhere.  As long as the engine puts links only into its output directories, off
the way to the working directory, no job meets one, and each stages into its own input directory.
-/

set_option autoImplicit false

namespace Stagehand

open FileTree Stagehand.Path Workspace

variable {state : Type}

/-! ## Where links stand -/

/-- Links stand only inside output directories, and none where the working directory's path leads. -/
def LinksInOutputs (base : Path) (tree : FileTree) : Prop :=
  ∀ place target, tree.at? place = some (.link target) →
    place ∉ tree.through base ∧ ∃ id token deeper, deeper ≠ [] ∧
      place = tree.place base ++ [id, outputName, token] ++ deeper

/-- An engine that adds links only inside the output directory of a call, and none where the working
directory's path leads.  What else it does to the tree is its own affair. -/
structure Engine.LinksInOutput (engine : Engine state) (base : Path) : Prop where
  workingDirectory : ∀ start tree name input output,
    (engine.execute start tree name input output).tree.workingDirectory = tree.workingDirectory
  links : ∀ start tree name input output place target, tree.Plain output →
    (engine.execute start tree name input output).tree.at? place = some (.link target) →
      (∃ old, tree.at? place = some (.link old)) ∨
        Staging.Inside (tree.place output) place ∧ place ∉ tree.through base

namespace LinksInOutputs

variable {base : Path} {tree after : FileTree} {correlationId : String}

theorem of_linkFree (linkFree : tree.LinkFree) : LinksInOutputs base tree :=
  fun place target stands => absurd stands (linkFree place target)

theorem edited {directories files : Location → Prop} (links : LinksInOutputs base tree)
    (edits : Edits directories files tree after) : LinksInOutputs base after := by
  intro place target stands
  rw [through_congr edits.workingDirectory, place_congr edits.workingDirectory]
  exact links place target (edits.link_stood stands)

section

variable (links : LinksInOutputs base tree) (written : base.text ≠ "")

include links

theorem linkFreeBelow_input (correlationId : String) :
    tree.LinkFreeBelow (tree.place base ++ [correlationId, inputName]) := by
  intro rest target _ stands
  obtain ⟨-, id, token, deeper, -, same⟩ := links _ target stands
  rw [List.append_assoc, List.append_assoc, List.append_cancel_left_eq] at same
  have apart : inputName ≠ outputName := by decide
  exact apart (List.cons.inj (List.cons.inj same).2).1

/-- No link stands three names below the working directory or less. -/
theorem ne_of_short {front : List String} (short : front.length ≤ 3) (target : String) :
    tree.at? (tree.place base ++ front) ≠ some (.link target) := by
  intro stands
  obtain ⟨-, id, token, deeper, nonempty, same⟩ := links _ target stands
  rw [List.append_assoc, List.append_cancel_left_eq] at same
  have deep : 0 < deeper.length := List.length_pos_iff.mpr nonempty
  rw [same, List.length_append] at short
  simp only [List.length_cons, List.length_nil] at short
  omega

include written

theorem plain_of_adds {added : List String} {path : Path} (adds : Adds base added path)
    (short : added.length ≤ 3) : tree.Plain path := by
  obtain ⟨pieces, last, below, -, -, rfl⟩ := adds
  intro place member target
  rcases through_below written below member with onWay | ⟨front, -, starts, rfl⟩
  · exact fun stands => (links place target stands).1 onWay
  · exact links.ne_of_short (Nat.le_trans starts.length_le short) target

variable (named : isDirectoryName correlationId = true)

include named

/-- A call of the engine for a workflow of a job. -/
theorem executed {engine : Engine state} (keeps : engine.LinksInOutput base)
    {workflow : String} (usable : hasOutputDirectory workflow = true) (start : state)
    (input : Path) :
    LinksInOutputs base (engine.execute start tree workflow input
      ((layout base correlationId).outputDirectory workflow)).tree := by
  have adds := adds_outputDirectory written named usable
  intro place target stands
  rw [through_congr (keeps.workingDirectory ..), place_congr (keeps.workingDirectory ..)]
  rcases keeps.links _ _ _ _ _ _ _ (links.plain_of_adds written adds (by simp)) stands with
    ⟨old, stood⟩ | ⟨⟨deeper, nonempty, inside⟩, off⟩
  · exact links place old stood
  · rw [place_of_adds written adds] at inside
    exact ⟨off, _, _, deeper, nonempty, inside⟩

theorem run {engine : Engine state} (keeps : engine.LinksInOutput base)
    {start last : state} {final : FileTree} {calls : List Call}
    (run : EngineRun engine start tree calls last final)
    (given : ∀ name input output seen, .execute name input output seen ∈ calls →
      hasOutputDirectory name = true ∧
        output = (layout base correlationId).outputDirectory name) :
    LinksInOutputs base final ∧ final.workingDirectory = tree.workingDirectory := by
  induction run with
  | done => exact ⟨links, rfl⟩
  | @call start last tree final name input output later rest ih =>
      obtain ⟨usable, rfl⟩ := given name input output tree List.mem_cons_self
      obtain ⟨left, stood⟩ := ih (links.executed written named keeps usable start input)
        fun other otherInput otherOutput seen member =>
          given other otherInput otherOutput seen (List.mem_cons_of_mem _ member)
      exact ⟨left, stood.trans (keeps.workingDirectory ..)⟩

end
end LinksInOutputs

/-! ## Jobs -/

namespace Dispatcher

variable {dispatcher : Dispatcher state} {conditions : Conditions}
  {bench : Bench state} {delivery : Delivery} {request : Request} {tree : FileTree}
  {place : Location}

/-- In the course of a job its staging creates a file at a place, or cuts the one that is there. -/
def Opens (dispatcher : Dispatcher state) (conditions : Conditions) (request : Request)
    (tree : FileTree) (place : Location) : Prop :=
  let ready := dispatcher.readyWorkspace request tree
  ∃ workspace objects, ready.outcome = .ok workspace ∧
    dispatcher.store.list dispatcher.settings.bucket request.payloadId = .ok objects ∧
    Staging.Opens dispatcher.store conditions.stopwatch.downloads dispatcher.settings.bucket
      workspace.inputDirectory dispatcher.settings.ignoreManifests conditions.medium ready.tree
      objects place

/-- The first object of a listing has its file where its path leads once it is staged. -/
theorem opens_of_first {object : ObjectRef} {others : List ObjectRef} {content : Bytes}
    (listed : dispatcher.store.list dispatcher.settings.bucket request.payloadId =
      .ok (object :: others))
    (kind : Staging.treatment dispatcher.settings.ignoreManifests object.key = .stage)
    (staged :
      let ready := dispatcher.readyWorkspace request tree
      let input := (layout dispatcher.settings.workingDirectory request.correlationId).inputDirectory
      let work := Staging.stageObject dispatcher.store conditions.stopwatch.downloads
        dispatcher.settings.bucket input ready.tree object conditions.medium
      ready.outcome.isOk = true ∧ work.outcome.isOk = true ∧
        work.tree.find (input.join object.key) = .ok (place, .file content)) :
    dispatcher.Opens conditions request tree place := by
  obtain ⟨readied, landed, leads⟩ := staged
  cases success : (dispatcher.readyWorkspace request tree).outcome with
  | error failure => rw [success] at readied; cases readied
  | ok workspace =>
      rw [← ensure_of_ok success] at landed leads
      refine ⟨workspace, _, success, listed, .here kind ?_⟩
      cases ended : (Staging.stageObject dispatcher.store conditions.stopwatch.downloads
          dispatcher.settings.bucket workspace.inputDirectory
          (dispatcher.readyWorkspace request tree).tree object conditions.medium).outcome with
      | error reason => rw [ended] at landed; cases landed
      | ok written => exact Staging.creates_of_staged ended leads

/-- The bench after some deliveries, handled one after the other and each under its own conditions. -/
def benchAfterAll (dispatcher : Dispatcher state) (bench : Bench state)
    (deliveries : List (Conditions × Delivery)) : Bench state :=
  deliveries.foldl (fun left turn => (dispatcher.handle turn.1 left turn.2).bench) bench

theorem readyWorkspace_finds :
    let ready := dispatcher.readyWorkspace request tree
    Edits anywhere nowhere tree ready.tree ∧
      ∀ workspace, ready.outcome = .ok workspace →
        ∃ place, ready.tree.find workspace.inputDirectory = .ok (place, .directory) :=
  ⟨edits_ensure tree _ _ _, fun _ success =>
    isDirectory_iff.mp (allDirectories_of_ensure success _ List.mem_cons_self)⟩

/-- Before the engine starts, nothing but directories is added and nothing is written but the files
that the staging creates. -/
theorem edits_prepare_opens :
    Edits anywhere (dispatcher.Opens conditions request tree) tree
      (dispatcher.prepare conditions request tree).tree := by
  have readied : Edits anywhere (dispatcher.Opens conditions request tree) tree
      (dispatcher.readyWorkspace request tree).tree :=
    (@readyWorkspace_finds state dispatcher request tree).1.mono (fun _ => id) fun _ => False.elim
  cases ended : (dispatcher.readyWorkspace request tree).outcome with
  | error failure =>
      rw [prepare_of_unready ended]
      exact readied
  | ok workspace =>
      have opens : ∀ place objects, dispatcher.store.list dispatcher.settings.bucket
            request.payloadId = .ok objects →
          Staging.Opens dispatcher.store conditions.stopwatch.downloads dispatcher.settings.bucket
            workspace.inputDirectory dispatcher.settings.ignoreManifests conditions.medium
            (dispatcher.readyWorkspace request tree).tree objects place →
          dispatcher.Opens conditions request tree place :=
        fun place objects listed opens => ⟨workspace, objects, ended, listed, opens⟩
      have staged := (Staging.edits_stagePayload_opens dispatcher.store
        conditions.stopwatch.downloads dispatcher.settings.bucket request.payloadId
        workspace.inputDirectory dispatcher.settings.ignoreManifests
        (dispatcher.readyWorkspace request tree).tree conditions.medium).mono (fun _ => id)
          fun place ⟨objects, listed, opened⟩ => opens place objects listed opened
      rw [prepare_of_ready ended, Activity.tree_after]
      cases finished : (dispatcher.stagedPayload conditions request workspace
          (dispatcher.readyWorkspace request tree).tree).outcome with
      | error reason =>
          rw [Activity.andThen_of_error _ finished]
          exact readied.trans staged
      | ok summary =>
          rw [Activity.andThen_of_ok _ finished]
          exact readied.trans staged

section

variable (written : dispatcher.settings.workingDirectory.text ≠ "")
  (keeps : dispatcher.engine.LinksInOutput dispatcher.settings.workingDirectory)

include written keeps

/-- A job leaves links only where they may stand. -/
theorem handle_keeps_links
    (links : LinksInOutputs dispatcher.settings.workingDirectory bench.tree) :
    let left := (dispatcher.handle conditions bench delivery).bench.tree
    LinksInOutputs dispatcher.settings.workingDirectory left ∧
      left.workingDirectory = bench.tree.workingDirectory := by
  dsimp only
  cases validation : Request.ofDelivery dispatcher.wording delivery with
  | error reason =>
      rw [bench_handle, process_of_rejected bench validation]
      exact ⟨links, rfl⟩
  | ok request =>
      have named := Request.isDirectoryName_of_valid validation
      have edits := @edits_prepare_opens state dispatcher conditions request bench.tree
      have run := @engineRun_handle state dispatcher conditions bench delivery request validation
      obtain ⟨left, stood⟩ := (links.edited edits).run written named keeps run (by
        intro name input output seen member
        obtain ⟨workspace, prepared, -, usable, -, rfl⟩ := mem_executions_handle validation member
        obtain ⟨-, ready, -⟩ := prepare_of_ok prepared
        exact ⟨usable, by rw [ensure_of_ok ready]⟩)
      exact ⟨left, stood.trans edits.workingDirectory⟩

theorem benchAfterAll_keeps_links (deliveries : List (Conditions × Delivery))
    (links : LinksInOutputs dispatcher.settings.workingDirectory bench.tree) :
    let left := (dispatcher.benchAfterAll bench deliveries).tree
    LinksInOutputs dispatcher.settings.workingDirectory left ∧
      left.workingDirectory = bench.tree.workingDirectory := by
  induction deliveries generalizing bench with
  | nil => exact ⟨links, rfl⟩
  | cons turn later ih =>
      obtain ⟨kept, stood⟩ := @handle_keeps_links state dispatcher turn.1 bench turn.2 written keeps
        links
      obtain ⟨left, still⟩ := ih kept
      exact ⟨left, still.trans stood⟩

end

section

variable (written : dispatcher.settings.workingDirectory.text ≠ "")
  (named : isDirectoryName request.correlationId = true)
  (links : LinksInOutputs dispatcher.settings.workingDirectory tree)

include written named links

/-- The input directory of a job is where its path says, and there is no link in it. -/
theorem readyWorkspace_input {workspace : Workspace}
    (success : (dispatcher.readyWorkspace request tree).outcome = .ok workspace) :
    let ready := (dispatcher.readyWorkspace request tree).tree
    let input :=
      tree.place dispatcher.settings.workingDirectory ++ [request.correlationId, inputName]
    ready.find workspace.inputDirectory = .ok (input, .directory) ∧ ready.LinkFreeBelow input := by
  obtain ⟨edits, finds⟩ := @readyWorkspace_finds state dispatcher request tree
  obtain ⟨place, there⟩ := finds workspace success
  have kept := links.edited edits
  have adds := adds_inputDirectory written named
  have plain := kept.plain_of_adds written adds (by simp)
  rw [ensure_of_ok success] at there ⊢
  have spelled := (place_of_adds written adds).symm.trans (place_of_plain plain there)
  have free := kept.linkFreeBelow_input request.correlationId
  rw [place_congr edits.workingDirectory] at spelled free
  rw [spelled]
  exact ⟨there, spelled ▸ free⟩

theorem Opens.inside (opens : dispatcher.Opens conditions request tree place) :
    Staging.Inside
      (tree.place dispatcher.settings.workingDirectory ++ [request.correlationId, inputName])
      place := by
  obtain ⟨workspace, objects, ready, -, opens⟩ := opens
  obtain ⟨there, free⟩ := readyWorkspace_input written named links ready
  exact opens.inside there free

/-- If a payload is staged, the path of each of its objects spells a place in the input directory. -/
theorem inside_of_prepared {workspace : Workspace} {objects : List ObjectRef} {object : ObjectRef}
    (prepared : (dispatcher.prepare conditions request tree).outcome = .ok workspace)
    (listed : dispatcher.store.list dispatcher.settings.bucket request.payloadId = .ok objects)
    (member : object ∈ objects)
    (kind : Staging.treatment dispatcher.settings.ignoreManifests object.key = .stage) :
    Staging.Inside
      (tree.place dispatcher.settings.workingDirectory ++ [request.correlationId, inputName])
      (tree.place ((layout dispatcher.settings.workingDirectory
        request.correlationId).inputDirectory.join object.key)) := by
  obtain ⟨summary, ready, staged, -⟩ := prepare_of_ok prepared
  obtain ⟨there, free⟩ := readyWorkspace_input written named links ready
  obtain ⟨others, same, ended, -⟩ := Staging.stagePayload_of_ok staged
  cases listed.symm.trans same
  have run := @Staging.stages_stageObjects dispatcher.store conditions.stopwatch.downloads
    dispatcher.settings.bucket workspace.inputDirectory dispatcher.settings.ignoreManifests
    conditions.medium objects (dispatcher.readyWorkspace request tree).tree
  have among : object.key ∈ Staging.stagedKeys dispatcher.settings.ignoreManifests objects :=
    List.mem_filter.mpr ⟨List.mem_map_of_mem member, by simpa using kind⟩
  obtain ⟨-, below⟩ := (run.holds_of_ok there free ended).2 object.key among
  have filled := text_ne_empty_of_find there
  rw [ensure_of_ok ready] at below filled
  refine ⟨_, below.down.names_ne_nil, ?_⟩
  rw [place_below filled below, place_of_adds written (adds_inputDirectory written named)]

end

/-! ## An engine that puts links -/

/-- The tree with a symbolic link in place of what stands at a place. -/
def putLink (tree : FileTree) (place : Location) (target : String) : FileTree :=
  (tree.cut place).put place (.link target)

theorem at?_putLink {tree : FileTree} {place other : Location} (target : String)
    (outside : ¬ place <+: other) : (putLink tree place target).at? other = tree.at? other := by
  have apart : other ≠ place := by
    rintro rfl
    exact outside List.prefix_rfl
  rw [putLink, at?_put_of_ne _ _ apart, at?_cut, if_neg fun below => outside below.2]

/-- The engine whose calls put some symbolic links into one of their two directories. -/
def linkingEngine (chosen : Path → Path → Path) (links : List (Location × String)) :
    Engine Unit where
  execute _ tree _ input output :=
    { next := ()
      tree := links.foldl
        (fun left link => putLink left (tree.place (chosen input output) ++ link.1) link.2) tree
      ending := .success }

/-- Such an engine changes nothing outside that directory. -/
theorem linkingEngine_confined {chosen : Path → Path → Path} {links : List (Location × String)}
    (below : ∀ link ∈ links, link.1 ≠ []) (tree : FileTree) (name : String) (input output : Path) :
    let left := ((linkingEngine chosen links).execute () tree name input output).tree
    left.workingDirectory = tree.workingDirectory ∧
      ∀ place, ¬ Staging.Inside (tree.place (chosen input output)) place →
        left.at? place = tree.at? place := by
  unfold linkingEngine
  dsimp only
  generalize tree.place (chosen input output) = directory
  induction links generalizing tree with
  | nil => exact ⟨rfl, fun _ _ => rfl⟩
  | cons link others ih =>
      obtain ⟨stood, same⟩ := ih (fun other member => below other (List.mem_cons_of_mem _ member))
        (putLink tree (directory ++ link.1) link.2)
      refine ⟨stood, fun place outside => (same place outside).trans (at?_putLink link.2 ?_)⟩
      rintro ⟨rest, rfl⟩
      exact outside ⟨link.1 ++ rest, by simp [below link List.mem_cons_self], by simp⟩

theorem linkingEngine_linksInOutput :
    (linkingEngine (fun _ output => output) [(["p"], "/out")]).LinksInOutput ⟨"/w"⟩ where
  workingDirectory _ _ _ _ _ := rfl
  links start tree name input output place target _ stands := by
    by_cases there : place = tree.place output ++ ["p"]
    · refine Or.inr ⟨⟨["p"], by simp, there⟩, ?_⟩
      have through : tree.through ⟨"/w"⟩ = [["w"]] := by rfl
      rw [through, there]
      intro member
      have last := congrArg List.getLast? (List.mem_singleton.mp member)
      rw [List.getLast?_concat] at last
      exact absurd last (by decide)
    · unfold linkingEngine putLink at stands
      simp only [List.foldl_cons, List.foldl_nil] at stands
      rw [at?_put_of_ne _ _ there, at?_cut] at stands
      split_ifs at stands
      exact Or.inl ⟨target, stands⟩

/-- However often its workspace was used before, a job stages into its own input directory: this is
where the path of the directory leads, every file that the staging creates or cuts is inside it, and
nothing else is written before the engine starts.  A listed object whose path spells another place
makes the staging fail. -/
theorem staging_stays_in_input (dispatcher : Dispatcher state) (conditions : Conditions)
    (bench : Bench state) {location : Location}
    (linkFree : bench.tree.LinkFree)
    (found : bench.tree.find dispatcher.settings.workingDirectory = .ok (location, .directory))
    (keeps : dispatcher.engine.LinksInOutput dispatcher.settings.workingDirectory)
    (earlier : List (Conditions × Delivery)) {delivery : Delivery} {request : Request}
    (valid : Request.ofDelivery dispatcher.wording delivery = .ok request) :
    let before := dispatcher.benchAfterAll bench earlier
    let work := dispatcher.handle conditions before delivery
    let ready := dispatcher.readyWorkspace request before.tree
    let input := location ++ [request.correlationId, inputName]
    (∀ workspace, ready.outcome = .ok workspace →
      ready.tree.find workspace.inputDirectory = .ok (input, .directory)) ∧
    (∀ place, dispatcher.Opens conditions request before.tree place → Staging.Inside input place) ∧
    Edits anywhere (dispatcher.Opens conditions request before.tree) before.tree
      (dispatcher.prepare conditions request before.tree).tree ∧
    ∀ objects, dispatcher.store.list dispatcher.settings.bucket request.payloadId = .ok objects →
      ∀ object ∈ objects,
        Staging.treatment dispatcher.settings.ignoreManifests object.key = .stage →
        ¬ Staging.Inside input (before.tree.place ((layout dispatcher.settings.workingDirectory
          request.correlationId).inputDirectory.join object.key)) →
        (∃ reason, work.result.outcome = .stagingFailed reason) ∧ executions work.journal = [] := by
  have written := text_ne_empty_of_find found
  have named := Request.isDirectoryName_of_valid valid
  intro before work ready input
  obtain ⟨links, stood⟩ := @benchAfterAll_keeps_links state dispatcher bench written keeps earlier
    (.of_linkFree linkFree)
  have spelled : before.tree.place dispatcher.settings.workingDirectory = location :=
    (place_congr stood _).trans (place_of_find linkFree found)
  unfold input
  rw [← spelled]
  refine ⟨fun workspace success => (readyWorkspace_input written named links success).1,
    fun place opens => opens.inside written named links, edits_prepare_opens, ?_⟩
  intro objects listed object member kind outside
  cases preparation : (dispatcher.prepare conditions request before.tree).outcome with
  | error reason =>
      refine ⟨⟨reason, ?_⟩, executions_handle_of_unprepared valid preparation⟩
      unfold work
      rw [handle, process_of_request before valid, carryOut_of_unprepared preparation]
  | ok workspace =>
      exact absurd (inside_of_prepared written named links preparation listed member kind) outside

/-- The engine links inside its output directory, and the job that comes again stages where it did. -/
theorem staging_stays_beside_link :
    let dispatcher := Rehearsal.dispatcher ⟨"data", [{ key := "p/f", content := [1] }], none⟩
      (linkingEngine (fun _ output => output) [(["p"], "/out")])
    let bench : Bench Unit := ⟨Rehearsal.stage, (), {}⟩
    let delivery := Rehearsal.delivery 7 "a" "p" "x"
    let before := dispatcher.benchAfterAll bench [({}, delivery)]
    before.tree.at? ["w", "a", "output", "x", "p"] = some (.link "/out") ∧
      dispatcher.Opens {} ⟨"a", "p", ["x"], none⟩ before.tree ["w", "a", "input", "p", "f"] ∧
      ∀ place, dispatcher.Opens {} ⟨"a", "p", ["x"], none⟩ before.tree place →
        Staging.Inside ["w", "a", "input"] place := by
  intro dispatcher bench delivery before
  have valid : Request.ofDelivery dispatcher.wording delivery = .ok ⟨"a", "p", ["x"], none⟩ := by
    decide +kernel
  have found : bench.tree.find dispatcher.settings.workingDirectory = .ok (["w"], .directory) := by
    decide +kernel
  have linkFree : bench.tree.LinkFree := linkFree_of_nodes (by simp [bench, Rehearsal.stage])
  obtain ⟨-, inside, -⟩ := staging_stays_in_input dispatcher {} bench linkFree found
    linkingEngine_linksInOutput [({}, delivery)] valid
  have listed : dispatcher.store.list "data" "p" = .ok [⟨"p/f", 1⟩] := by decide +kernel
  have left : before = ⟨{ nodes := [(["w", "a", "output", "x", "p"], .link "/out"),
      (["w", "a", "input", "p", "f"], .file [1]), (["w", "a", "input", "p"], .directory),
      (["w", "a", "output", "x"], .directory), (["w", "a", "output"], .directory),
      (["w", "a", "input"], .directory), (["w", "a"], .directory),
      (["w"], .directory)] }, (), {}⟩ := by decide +kernel
  refine ⟨by rw [left]; rfl, ?_, inside⟩
  rw [left]
  exact @opens_of_first Unit dispatcher {} ⟨"a", "p", ["x"], none⟩ _ _ ⟨"p/f", 1⟩ [] [1] listed
    (by decide) (by decide +kernel)

/-- The engine changes its input directory only, where it puts a link, and the job that comes again
writes where the link leads. -/
theorem staging_follows_link_out :
    let dispatcher := Rehearsal.dispatcher ⟨"data", [{ key := "p/f", content := [1] }], none⟩
      (linkingEngine (fun input _ => input) [(["p"], "/out")])
    let bench : Bench Unit := ⟨{ nodes := [(["w"], .directory), (["out"], .directory)] }, (), {}⟩
    let delivery := Rehearsal.delivery 7 "a" "p" "x"
    let before := dispatcher.benchAfterAll bench [({}, delivery)]
    bench.tree.LinkFree ∧
      bench.tree.find dispatcher.settings.workingDirectory = .ok (["w"], .directory) ∧
      Request.ofDelivery dispatcher.wording delivery = .ok ⟨"a", "p", ["x"], none⟩ ∧
      (∀ tree name input output,
        let left := (dispatcher.engine.execute () tree name input output).tree
        left.workingDirectory = tree.workingDirectory ∧
          ∀ place, ¬ Staging.Inside (tree.place input) place → left.at? place = tree.at? place) ∧
      before.tree.find ⟨"/w/a/input"⟩ = .ok (["w", "a", "input"], .directory) ∧
      dispatcher.Opens {} ⟨"a", "p", ["x"], none⟩ before.tree ["out", "f"] ∧
      ¬ Staging.Inside ["w", "a", "input"] ["out", "f"] ∧
      (dispatcher.handle {} before delivery).result.outcome.label = "executed" := by
  intro dispatcher bench delivery before
  have listed : dispatcher.store.list "data" "p" = .ok [⟨"p/f", 1⟩] := by decide +kernel
  have left : before = ⟨{ nodes := [(["w", "a", "input", "p"], .link "/out"),
      (["w", "a", "output", "x"], .directory), (["w", "a", "output"], .directory),
      (["w", "a", "input"], .directory), (["w", "a"], .directory), (["w"], .directory),
      (["out"], .directory)] }, (), {}⟩ := by decide +kernel
  refine ⟨linkFree_of_nodes (by simp [bench]), by decide +kernel, by decide +kernel,
    linkingEngine_confined (by simp), by rw [left]; decide +kernel, ?_, ?_, by decide +kernel⟩
  · rw [left]
    exact @opens_of_first Unit dispatcher {} ⟨"a", "p", ["x"], none⟩ _ _ ⟨"p/f", 1⟩ [] [1] listed
      (by decide) (by decide +kernel)
  · rintro ⟨rest, -, same⟩
    exact absurd (List.cons.inj same).1 (by decide)

/-- The path of the working directory leads through the output directory that the first job is given.
The engine changes nothing else, and takes the second job to a directory of its own making, with a link
in it. -/
theorem staging_follows_diverted_way :
    let dispatcher : Dispatcher Unit :=
      { Rehearsal.dispatcher ⟨"data", [{ key := "p/f", content := [1] }], none⟩
          (linkingEngine (fun _ output => output)
            [(["s"], "t/b/input/1/2"), (["t", "b", "input", "p"], "/out")]) with
        settings := ⟨⟨"/w/a/output/x/s/../../../.."⟩, "data", false⟩ }
    let bench : Bench Unit := ⟨{ nodes := [(["w"], .directory), (["w", "a"], .directory),
      (["w", "a", "output"], .directory), (["w", "a", "output", "x"], .directory),
      (["w", "a", "output", "x", "s"], .directory), (["w", "a", "output", "x", "t"], .directory),
      (["w", "a", "output", "x", "t", "b"], .directory),
      (["w", "a", "output", "x", "t", "b", "input"], .directory),
      (["w", "a", "output", "x", "t", "b", "input", "1"], .directory),
      (["w", "a", "output", "x", "t", "b", "input", "1", "2"], .directory),
      (["out"], .directory)] }, (), {}⟩
    let delivery := Rehearsal.delivery 8 "b" "p" "y"
    let before := dispatcher.benchAfterAll bench [({}, Rehearsal.delivery 7 "a" "p" "x")]
    let input := ["w", "a", "output", "x", "t", "b", "input"]
    bench.tree.LinkFree ∧
      bench.tree.find dispatcher.settings.workingDirectory = .ok (["w"], .directory) ∧
      Request.ofDelivery dispatcher.wording delivery = .ok ⟨"b", "p", ["y"], none⟩ ∧
      (∀ tree name input output,
        let left := (dispatcher.engine.execute () tree name input output).tree
        left.workingDirectory = tree.workingDirectory ∧
          ∀ place, ¬ Staging.Inside (tree.place output) place → left.at? place = tree.at? place) ∧
      before.tree.find (layout dispatcher.settings.workingDirectory "b").inputDirectory =
        .ok (input, .directory) ∧
      dispatcher.Opens {} ⟨"b", "p", ["y"], none⟩ before.tree ["out", "f"] ∧
      ¬ Staging.Inside input ["out", "f"] := by
  intro dispatcher bench delivery before input
  have listed : dispatcher.store.list "data" "p" = .ok [⟨"p/f", 1⟩] := by decide +kernel
  have left : before = ⟨{ nodes := [(["w", "a", "output", "x", "t", "b", "input", "p"], .link "/out"),
      (["w", "a", "output", "x", "s"], .link "t/b/input/1/2"),
      (["w", "a", "input", "p", "f"], .file [1]), (["w", "a", "input", "p"], .directory),
      (["w", "a", "input"], .directory), (["w"], .directory), (["w", "a"], .directory),
      (["w", "a", "output"], .directory), (["w", "a", "output", "x"], .directory),
      (["w", "a", "output", "x", "t"], .directory),
      (["w", "a", "output", "x", "t", "b"], .directory),
      (["w", "a", "output", "x", "t", "b", "input"], .directory),
      (["w", "a", "output", "x", "t", "b", "input", "1"], .directory),
      (["w", "a", "output", "x", "t", "b", "input", "1", "2"], .directory),
      (["out"], .directory)] }, (), {}⟩ := by decide +kernel
  refine ⟨linkFree_of_nodes (by simp [bench]), by decide +kernel, by decide +kernel,
    linkingEngine_confined (by simp), by rw [left]; decide +kernel, ?_, ?_⟩
  · rw [left]
    exact @opens_of_first Unit dispatcher {} ⟨"b", "p", ["y"], none⟩ _ _ ⟨"p/f", 1⟩ [] [1] listed
      (by decide) (by decide +kernel)
  · rintro ⟨rest, -, same⟩
    exact absurd (List.cons.inj same).1 (by decide)

end Dispatcher
end Stagehand
