import Stagehand.Proofs.Job.AlikeTrees
import Stagehand.Proofs.Job.Clock
import Stagehand.Proofs.Job.Locality
import Stagehand.Proofs.Job.Stopping

/-! # Jobs that know nothing of each other

A run carries nothing from one job to the next but the tree and the engine, and jobs with different ids
work in different directories.  If the engine goes by what it is given, a job whose id no other
delivery of the run has comes to the report, and leaves the directory, that it would come to and leave
alone; only the time it takes may be another.  All of this needs a working directory that is there for
every job, which is why its path must not lead through what an engine may remove.
-/

set_option autoImplicit false

namespace Stagehand

open FileTree Stagehand.Path Workspace

variable {state : Type} {location : Location} {request : Request}

namespace Dispatcher

/-! ## One job -/

section

variable {dispatcher : Dispatcher state} {conditions : Conditions} {bench bench' : Bench state}
  {delivery : Delivery}

/-- A job comes to the same report wherever its own directory is the same, and leaves that directory
the same. -/
theorem handle_alike (own : dispatcher.engine.Local)
    (valid : Request.ofDelivery dispatcher.wording delivery = .ok request)
    (alike : Alike dispatcher.settings.workingDirectory location request.correlationId bench.tree
      bench'.tree)
    (apart : ∀ place ∈ bench.tree.through dispatcher.settings.workingDirectory,
      ¬ Given location request place) :
    (dispatcher.handle conditions bench' delivery).result =
        (dispatcher.handle conditions bench delivery).result ∧
      Alike dispatcher.settings.workingDirectory location request.correlationId
        (dispatcher.handle conditions bench delivery).bench.tree
        (dispatcher.handle conditions bench' delivery).bench.tree := by
  have named := Request.isDirectoryName_of_valid valid
  obtain ⟨staged, same⟩ := prepare_matches named alike
  have added := @edits_prepare state dispatcher conditions request bench.tree location
    alike.left.found (alike.left.linkFree.below location) named
  have processed : (dispatcher.process conditions bench' delivery).result =
        (dispatcher.process conditions bench delivery).result ∧
      Alike dispatcher.settings.workingDirectory location request.correlationId
        (dispatcher.process conditions bench delivery).bench.tree
        (dispatcher.process conditions bench' delivery).bench.tree := by
    rw [process_of_request bench valid, process_of_request bench' valid]
    cases prepared : (dispatcher.prepare conditions request bench.tree).outcome with
    | error reason =>
        rw [prepared] at same
        rw [carryOut_of_unprepared prepared, carryOut_of_unprepared same]
        exact ⟨rfl, staged⟩
    | ok workspace =>
        rw [prepared] at same
        rw [carryOut_of_prepared prepared, carryOut_of_prepared same]
        obtain ⟨rfl, -⟩ := prepare_holds alike.left.found (alike.left.linkFree.below location)
          named prepared
        obtain ⟨results, left⟩ := @runAll_alike state dispatcher.engine
          dispatcher.settings.workingDirectory location request own named
          conditions.stopwatch.workflows request.workflows
          { bench with tree := (dispatcher.prepare conditions request bench.tree).tree }
          { bench' with tree := (dispatcher.prepare conditions request bench'.tree).tree } staged
          (by rwa [through_congr added.workingDirectory]) (fun _ => id)
        dsimp only
        exact ⟨by rw [results], left⟩
  obtain ⟨result, left⟩ := processed
  refine ⟨?_, left⟩
  simp only [handle, result]

/-- A job keeps the way to the working directory, and leaves alone what is neither at nor below its own
directory in it. -/
theorem handle_based (conditions : Conditions)
    (confined : dispatcher.engine.StaysInside FileTree.LinkFree)
    (based : Based dispatcher.settings.workingDirectory location bench.tree)
    (apart : ∀ request, Request.ofDelivery dispatcher.wording delivery = .ok request →
      ∀ place ∈ bench.tree.through dispatcher.settings.workingDirectory,
        ¬ Given location request place) :
    let left := (dispatcher.handle conditions bench delivery).bench.tree
    Based dispatcher.settings.workingDirectory location left ∧
      left.workingDirectory = bench.tree.workingDirectory ∧
      ∀ place, (∀ request, Request.ofDelivery dispatcher.wording delivery = .ok request →
          ¬ location ++ [request.correlationId] <+: place) →
        left.at? place = bench.tree.at? place := by
  dsimp only
  cases validation : Request.ofDelivery dispatcher.wording delivery with
  | error reason =>
      rw [bench_handle, process_of_rejected bench validation]
      exact ⟨based, rfl, fun _ _ => rfl⟩
  | ok request =>
      have away := apart request validation
      have named := Request.isDirectoryName_of_valid validation
      have added := @edits_prepare state dispatcher conditions request bench.tree location
        based.found (based.linkFree.below location) named
      have run := @engineRun_handle state dispatcher conditions bench delivery request validation
      obtain ⟨left, stood, outside⟩ := run.based confined (based.edited added) named
        (by rwa [through_congr added.workingDirectory]) (by
          intro workflow input output seen member
          obtain ⟨workspace, prepared, listed, usable, rfl, rfl⟩ :=
            mem_executions_handle validation member
          obtain ⟨rfl, -⟩ := prepare_holds based.found (based.linkFree.below location) named prepared
          exact ⟨listed, usable, rfl, rfl⟩)
      refine ⟨left, stood.trans added.workingDirectory, ?_⟩
      intro place elsewhere
      have beyond := elsewhere request rfl
      rw [outside place fun given => beyond given.below]
      refine added.at?_eq beyond ?_
      rintro ⟨deeper, -, rfl⟩
      exact beyond ⟨inputName :: deeper, by simp⟩

theorem Succession.split {before after : Bench state} {front back : List (Job state)}
    {job : Job state}
    (succession : Succession dispatcher before (front ++ job :: back) after) :
    Succession dispatcher before front job.start ∧
      Succession dispatcher (dispatcher.workOf job).bench back after := by
  induction front generalizing before with
  | nil =>
      obtain ⟨tree, engine, rest⟩ := succession
      exact ⟨⟨tree, engine⟩, rest⟩
  | cons first front ih =>
      obtain ⟨tree, engine, rest⟩ := succession
      obtain ⟨earlier, later⟩ := ih rest
      exact ⟨⟨tree, engine, earlier⟩, later⟩

/-- Jobs with other ids leave alone what stands at and below a name in the working directory. -/
theorem Succession.others_alike (name : String) {before after : Bench state}
    {jobs : List (Job state)} (confined : dispatcher.engine.StaysInside FileTree.LinkFree)
    (based : Based dispatcher.settings.workingDirectory location before.tree)
    (succession : Succession dispatcher before jobs after)
    (apart : ∀ job ∈ jobs, ∀ request,
      Request.ofDelivery dispatcher.wording job.delivery = .ok request →
      request.correlationId ≠ name ∧
        ∀ place ∈ before.tree.through dispatcher.settings.workingDirectory,
          ¬ Given location request place) :
    Alike dispatcher.settings.workingDirectory location name before.tree after.tree := by
  induction jobs generalizing before with
  | nil =>
      rw [succession.1]
      exact based.alike name
  | cons job others ih =>
      obtain ⟨started, -, rest⟩ := succession
      rw [← started] at based apart ⊢
      have own := apart job List.mem_cons_self
      obtain ⟨left, stood, same⟩ := handle_based job.conditions confined based
        fun request valid => (own request valid).2
      have first : Alike dispatcher.settings.workingDirectory location name job.start.tree
          (dispatcher.workOf job).bench.tree := by
        refine ⟨based, left, stood, ?_⟩
        intro deeper
        refine same _ ?_
        intro request valid starts
        rw [List.prefix_append_right_inj] at starts
        exact (own request valid).1 (by simpa using starts)
      refine first.trans (ih first.right rest ?_)
      intro other member request valid
      rw [through_congr first.workingDirectory]
      exact apart other (List.mem_cons_of_mem _ member) request valid

end

/-! ## A run -/

/-- The deliveries of the first turns, up to one that hands over none. -/
def handedOver : List Turn → List Delivery
  | [] => []
  | turn :: turns =>
      match turn.arrival with
      | .delivery delivery => delivery :: handedOver turns
      | _ => []

theorem handedOver_session (deliveries : List Delivery) :
    handedOver (Rehearsal.session deliveries).turns = deliveries := by
  induction deliveries with
  | nil => rfl
  | cons delivery others ih => exact congrArg (delivery :: ·) ih

theorem Serves.all_of_silent {dispatcher : Dispatcher state} {bench after : Bench state}
    {turns : List Turn} {jobs : List (Job state)} {last : Option Wait}
    (served : Serves dispatcher bench turns jobs last after)
    (unasked : bench.signal.requested = false)
    (silent : stopCalls (jobs.flatMap dispatcher.jobEntries ++ lastEntries last) = []) :
    jobs.map Job.delivery = handedOver turns := by
  induction served with
  | stopped asked =>
      rw [unasked] at asked
      cases asked
  | exhausted => rfl
  | @ended bench turn turns wait calm waited none =>
      have quiet : stopCalls (waitEntries wait) = [] := by
        rw [List.flatMap_nil, List.nil_append, lastEntries, stopCalls_append] at silent
        exact (List.append_eq_nil_iff.mp silent).1
      have heard := hears_wait bench.signal turn.arrival turn.steps
      rw [← waited] at heard
      have still : wait.signal.requested = false := by
        refine Bool.eq_false_iff.mpr fun asked => ?_
        rcases heard.requested.mp asked with before | stops
        · rw [calm] at before
          cases before
        · exact stops quiet
      rw [waited] at still none
      rw [Wait.arrival_of_unasked still] at none
      unfold handedOver
      cases arrival : turn.arrival with
      | delivery delivery => exact absurd (congrArg some arrival) (none delivery)
      | subscriptionEnd | failure | never => rfl
  | @taken bench after turn turns job jobs last calm waited handed met begun rest ih =>
      rw [List.flatMap_cons, List.append_assoc, stopCalls_append, List.append_eq_nil_iff] at silent
      have later : (dispatcher.benchAfter job).signal.requested = false := by
        refine Bool.eq_false_iff.mpr fun asked => ?_
        exact (requested_benchAfter calm waited begun).mp asked silent.1
      have arrived : turn.arrival = .delivery job.delivery := by
        rw [waited] at handed
        exact (Wait.arrival_of_follow _ handed).symm
      simp only [List.map_cons, handedOver, arrived, ih later silent.2]

/-- The jobs of a run end as they would alone: one whose id no other delivery has comes to the report
that it comes to on the bench before the run, whatever time either takes, and the directory of its id
is left as it is then. -/
def EndAsAlone (dispatcher : Dispatcher state) (location : Location) (bench : Bench state)
    (jobs : List (Job state)) (final : FileTree) : Prop :=
  ∀ front job back request, jobs = front ++ job :: back →
    Request.ofDelivery dispatcher.wording job.delivery = .ok request →
    (∀ other ∈ front ++ back, ∀ another,
      Request.ofDelivery dispatcher.wording other.delivery = .ok another →
        another.correlationId ≠ request.correlationId) →
    ∀ stopwatch : Stopwatch,
      let alone :=
        dispatcher.handle { job.conditions with stopwatch := stopwatch } bench job.delivery
      (dispatcher.workOf job).result.untimed = alone.result.untimed ∧
        ∀ rest, final.at? (location ++ request.correlationId :: rest) =
          alone.bench.tree.at? (location ++ request.correlationId :: rest)

/-- A run in which no stop is asked for handles every delivery that it is handed as if it were alone,
the time it takes apart, whatever the others contain and however they end, if the engine is local and
the path of the working directory does not lead through a directory that a workflow of the run is
given. -/
theorem run_isolates_jobs (dispatcher : Dispatcher state) (session : BrokerSession)
    (bench : Bench state) {location : Location} (linkFree : bench.tree.LinkFree)
    (found : bench.tree.find dispatcher.settings.workingDirectory = .ok (location, .directory))
    (own : dispatcher.engine.Local)
    (apart : ∀ delivery ∈ handedOver session.turns, ∀ request,
      Request.ofDelivery dispatcher.wording delivery = .ok request →
        ∀ place ∈ bench.tree.through dispatcher.settings.workingDirectory,
          ¬ Given location request place)
    (unasked : bench.signal.requested = false)
    (silent : stopCalls (dispatcher.run session bench).journal = []) :
    let work := dispatcher.run session bench
    ∃ jobs last, Serves dispatcher bench session.turns jobs last work.bench ∧
      jobs.map Job.delivery = handedOver session.turns ∧
      EndAsAlone dispatcher location bench jobs work.bench.tree := by
  obtain ⟨jobs, last, closing, served, -, made, -⟩ := run_serves dispatcher session bench
  have quiet : stopCalls (jobs.flatMap dispatcher.jobEntries ++ lastEntries last) = [] := by
    unfold stopCalls at silent ⊢
    rw [made, List.filter_append] at silent
    exact (List.append_eq_nil_iff.mp silent).1
  have every := served.all_of_silent unasked quiet
  refine ⟨jobs, last, served, every, ?_⟩
  have listed (job : Job state) (member : job ∈ jobs) :
      job.delivery ∈ handedOver session.turns := by
    rw [← every]
    exact List.mem_map_of_mem member
  have based : Based dispatcher.settings.workingDirectory location bench.tree := ⟨found, linkFree⟩
  intro front job back request split valid different stopwatch
  -- The others leave the job's directory alone, before it and after it, and it goes by nothing else.
  have succession := served.succession
  rw [split] at succession listed
  obtain ⟨earlier, later⟩ := succession.split
  have before := earlier.others_alike request.correlationId own.confined based (by
    intro other member another validOther
    have among := List.mem_append_left (job :: back) member
    exact ⟨different other (List.mem_append_left _ member) another validOther,
      apart _ (listed other among) another validOther⟩)
  have away := apart _ (listed job (by simp))
  obtain ⟨report, here⟩ := @handle_alike state location request dispatcher job.conditions bench
    job.start job.delivery own valid before (away request valid)
  have still := through_congr before.workingDirectory dispatcher.settings.workingDirectory
  obtain ⟨-, stood, -⟩ := handle_based job.conditions own.confined before.right (by rwa [still])
  have after := later.others_alike request.correlationId own.confined here.right (by
    intro other member another validOther
    rw [through_congr stood, still]
    have among : other ∈ front ++ job :: back := by simp [member]
    exact ⟨different other (List.mem_append_right _ member) another validOther,
      apart _ (listed other among) another validOther⟩)
  have retimed := dispatcher.untimed_handle job.conditions stopwatch bench job.delivery
  simp only [BenchWork.untimed, BenchWork.mk.injEq] at retimed
  obtain ⟨left, -, same⟩ := retimed
  refine ⟨(congrArg JobReport.untimed report).trans same.symm, fun rest => ?_⟩
  rw [left]
  exact (after.same rest).trans (here.same rest)

theorem run_isolates_two_jobs :
    let store : Rehearsal.ScriptedStore := ⟨"data", [{ key := "p/a", content := [1] }], none⟩
    let dispatcher := Rehearsal.dispatcher store reportingEngine
    let session := Rehearsal.session
      [Rehearsal.delivery 7 "first" "p" "x", Rehearsal.delivery 8 "second" "p" "x"]
    let bench : Bench Unit := ⟨Rehearsal.stage, (), {}⟩
    let work := dispatcher.run session bench
    ∃ jobs last, Serves dispatcher bench session.turns jobs last work.bench ∧
      jobs.map Job.delivery = handedOver session.turns ∧
      EndAsAlone dispatcher ["w"] bench jobs work.bench.tree := by
  intro store dispatcher session bench
  have found : bench.tree.find dispatcher.settings.workingDirectory = .ok (["w"], .directory) := by
    decide +kernel
  have linkFree : bench.tree.LinkFree := linkFree_of_nodes (by simp [bench, Rehearsal.stage])
  have way : bench.tree.through dispatcher.settings.workingDirectory = [["w"]] := by
    decide +kernel
  have own : dispatcher.engine.Local := reportingEngine_local
  have counted : (stopCalls (dispatcher.run session bench).journal).length = 0 := by
    decide +kernel
  have apart : ∀ delivery ∈ handedOver session.turns, ∀ request,
      Request.ofDelivery dispatcher.wording delivery = .ok request →
        ∀ place ∈ bench.tree.through dispatcher.settings.workingDirectory,
          ¬ Given ["w"] request place := by
    intro delivery _ request _ place member given
    rw [way, List.mem_singleton] at member
    have longer := given.below.length_le
    simp [member] at longer
  exact run_isolates_jobs dispatcher session bench linkFree found own apart rfl
    (List.eq_nil_of_length_eq_zero counted)

/-- A dispatcher whose working directory is named by a path through an output directory of a job. -/
def windingDispatcher : Dispatcher Unit :=
  { Rehearsal.dispatcher ⟨"data", [], none⟩ sweepingEngine with
    settings := ⟨⟨"a/output/x/scrap/../../../.."⟩, "data", false⟩ }

/-- A bench on which that path leads somewhere. -/
def windingBench : Bench Unit where
  tree :=
    { nodes := [(["w"], .directory), (["w", "a"], .directory), (["w", "a", "output"], .directory),
        (["w", "a", "output", "x"], .directory), (["w", "a", "output", "x", "scrap"], .directory)]
      workingDirectory := ["w"] }
  engine := ()
  signal := {}

def windingSession : BrokerSession :=
  Rehearsal.session [Rehearsal.delivery 7 "a" "p" "x", Rehearsal.delivery 8 "b" "p" "y"]

/-- The engine sweeps the way to the working directory out of the first job's output.  Making the second
job's workspace ready puts it back, and with it an entry in the first job's directory that is not there
if the first job is handled alone. -/
theorem run_restores_swept_way :
    let work := windingDispatcher.run windingSession windingBench
    windingBench.tree.LinkFree ∧
      windingBench.tree.find windingDispatcher.settings.workingDirectory = .ok (["w"], .directory) ∧
      windingDispatcher.engine.Local ∧ windingBench.signal.requested = false ∧
      stopCalls work.journal = [] ∧
      ¬ ∃ jobs last, Serves windingDispatcher windingBench windingSession.turns jobs last
          work.bench ∧
        jobs.map Job.delivery = handedOver windingSession.turns ∧
        EndAsAlone windingDispatcher ["w"] windingBench jobs work.bench.tree := by
  have linkFree : windingBench.tree.LinkFree := linkFree_of_nodes (by simp [windingBench])
  have found : windingBench.tree.find windingDispatcher.settings.workingDirectory =
      .ok (["w"], .directory) := by decide +kernel
  have own : windingDispatcher.engine.Local := sweepingEngine_local
  -- Both are facts about one evaluation of the run.
  have ran : (stopCalls (windingDispatcher.run windingSession windingBench).journal).length = 0 ∧
      (windingDispatcher.run windingSession windingBench).bench.tree.at?
        ["w", "a", "output", "x", "scrap"] = some .directory := by decide +kernel
  have alone : (windingDispatcher.handle (Rehearsal.refusing 7) windingBench
      (Rehearsal.delivery 7 "a" "p" "x")).bench.tree.at? ["w", "a", "output", "x", "scrap"] =
        none := by decide +kernel
  have valid : Request.ofDelivery windingDispatcher.wording (Rehearsal.delivery 7 "a" "p" "x") =
      .ok ⟨"a", "p", ["x"], none⟩ := by decide +kernel
  have validOther :
      Request.ofDelivery windingDispatcher.wording (Rehearsal.delivery 8 "b" "p" "y") =
        .ok ⟨"b", "p", ["y"], none⟩ := by decide +kernel
  refine ⟨linkFree, found, own, rfl, List.eq_nil_of_length_eq_zero ran.1, ?_⟩
  rintro ⟨jobs, last, served, every, alike⟩
  rw [windingSession, handedOver_session] at every
  obtain ⟨job, others, rfl, first, rest⟩ := List.map_eq_cons_iff.mp every
  obtain ⟨other, nothing, rfl, second, none⟩ := List.map_eq_cons_iff.mp rest
  obtain rfl := List.map_eq_nil_iff.mp none
  have met : Rehearsal.refusing 7 = job.conditions := (List.cons.inj served.conditions_met).1
  obtain ⟨-, same⟩ := alike [] job [other] _ rfl (first ▸ valid) (by
    intro another member request made
    rw [List.mem_singleton.mp member, second, validOther] at made
    cases made
    decide) .still
  have entry := same ["output", "x", "scrap"]
  rw [first, ← met] at entry
  cases (ran.2.symm.trans entry).trans alone

end Dispatcher
end Stagehand
