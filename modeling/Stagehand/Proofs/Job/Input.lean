import Stagehand.Proofs.Job.Execution
import Stagehand.Proofs.Job.Preparation
import Stagehand.Rehearsal.Dispatcher
import Stagehand.Rehearsal.Engine

/-! # What the first engine call of a job finds

When the engine is called at all, the whole payload is staged.  A job that comes for the first time
gives it an input directory that holds the payload, file for file and byte for byte, and nothing
else.
-/

set_option autoImplicit false

namespace Stagehand.Dispatcher

open FileTree Stagehand.Path Workspace

variable {state : Type}

theorem seen_eq_of_engineRun {engine : Engine state} {start last : state} {tree final seen : FileTree}
    {name : String} {input output : Path} {later : List Call}
    (run : EngineRun engine start tree (.execute name input output seen :: later) last final) :
    seen = tree := by
  cases run
  rfl

/-- The first engine call of a job with nothing yet at or below its directory finds below its input
directory the objects of the payload, each with the content that the store handed out for the last
key that spells its place, the directories above them, and nothing else; later calls find what the
engine made of it. -/
theorem first_execution_finds_payload (dispatcher : Dispatcher state) (conditions : Conditions)
    (bench : Bench state) {delivery : Delivery}
    {request : Request} {location : Location}
    (valid : Request.ofDelivery dispatcher.wording delivery = .ok request)
    (linkFree : bench.tree.LinkFree)
    (found : bench.tree.find dispatcher.settings.workingDirectory = .ok (location, .directory))
    (absent : ∀ rest, bench.tree.at? (location ++ request.correlationId :: rest) = none)
    {name : String} {input output : Path} {seen : FileTree} {later : List Call}
    (launched : executions (dispatcher.handle conditions bench delivery).journal =
      .execute name input output seen :: later) :
    let work := dispatcher.handle conditions bench delivery
    let inputPlace := location ++ [request.correlationId, inputName]
    input = (dispatcher.settings.workingDirectory.join request.correlationId).join inputName ∧
      seen.find input = .ok (inputPlace, .directory) ∧
      (∃ outputPlace, seen.find output = .ok (outputPlace, .directory)) ∧
      (∃ objects,
        dispatcher.store.list dispatcher.settings.bucket request.payloadId = .ok objects ∧
        let keys := Staging.stagedKeys dispatcher.settings.ignoreManifests objects
        (∀ key ∈ keys, dispatcher.store.HandsOut dispatcher.settings.bucket key ∧
          Staging.placeOf key ≠ [] ∧
          seen.place (input.join key) = inputPlace ++ Staging.placeOf key) ∧
        ∀ place, place ≠ [] → seen.at? (inputPlace ++ place) =
          Staging.stagedNode? dispatcher.store dispatcher.settings.bucket keys place) ∧
      EngineRun dispatcher.engine bench.engine seen (.execute name input output seen :: later)
        work.bench.engine work.bench.tree := by
  have named := Request.isDirectoryName_of_valid valid
  have run := @engineRun_handle state dispatcher conditions bench delivery request valid
  have edits := @edits_prepare state dispatcher conditions request bench.tree location
    found (linkFree.below location) named
  dsimp only at run ⊢
  have member : .execute name input output seen ∈
      executions (dispatcher.handle conditions bench delivery).journal := by
    rw [launched]
    exact List.mem_cons_self
  obtain ⟨workspace, prepared, listedName, usable, rfl, rfl⟩ := mem_executions_handle valid member
  obtain ⟨rfl, inputFound, outputs, objects, listed, staged, content⟩ :=
    prepare_holds found (linkFree.below location) named prepared
  rw [launched] at run
  obtain rfl := seen_eq_of_engineRun run
  refine ⟨rfl, inputFound, ⟨_, outputs name listedName usable⟩, ⟨objects, listed, ?_, ?_⟩, run⟩
  · intro key member
    obtain ⟨handed, below⟩ := staged key member
    refine ⟨handed, below.down.names_ne_nil, ?_⟩
    rw [place_below (text_ne_empty_of_find inputFound) below,
      place_of_find (edits.linkFree linkFree) inputFound]
    rfl
  · intro place nonempty
    have nothing : bench.tree.at? (location ++ [request.correlationId, inputName] ++ place) =
        none := by
      rw [List.append_assoc]
      exact absent _
    rw [content place nonempty, nothing, Option.or_none]

/-- Two keys that spell one place: the engine finds the content of the second. -/
theorem first_execution_finds_last_alias :
    let store : Rehearsal.ScriptedStore :=
      ⟨"data", [{ key := "p/a", content := [1] }, { key := "p//a", content := [2] }], none⟩
    let dispatcher := Rehearsal.dispatcher store (Rehearsal.EngineScript.engine [])
    let conditions := Rehearsal.refusing 7
    let bench : Bench (List String) := ⟨Rehearsal.stage, [], {}⟩
    let work := dispatcher.handle conditions bench (Rehearsal.delivery 7 "job" "p" "x")
    ∃ seen later,
      executions work.journal = .execute "x" ⟨"/w/job/input"⟩ ⟨"/w/job/output/x"⟩ seen :: later ∧
        seen.at? ["w", "job", "input", "p", "a"] = some (.file [2]) := by
  intro store dispatcher conditions bench work
  have made : (executions work.journal).map Call.launched? =
      [some ("x", ⟨"/w/job/input"⟩, ⟨"/w/job/output/x"⟩)] := by decide +kernel
  obtain ⟨seen, later, launched⟩ := exists_execution made
  have valid : Request.ofDelivery dispatcher.wording (Rehearsal.delivery 7 "job" "p" "x") =
      .ok ⟨"job", "p", ["x"], none⟩ := by decide +kernel
  have found : bench.tree.find dispatcher.settings.workingDirectory = .ok (["w"], .directory) := by
    decide +kernel
  have absent (rest : List String) : bench.tree.at? (["w"] ++ "job" :: rest) = none := by
    simp [bench, at?, Rehearsal.stage]
  have linkFree : bench.tree.LinkFree := linkFree_of_nodes (by simp [bench, Rehearsal.stage])
  obtain ⟨-, -, -, ⟨objects, listed, -, content⟩, -⟩ :=
    first_execution_finds_payload dispatcher conditions bench valid linkFree found absent launched
  have listing : dispatcher.store.list dispatcher.settings.bucket "p" =
      .ok [⟨"p/a", 1⟩, ⟨"p//a", 1⟩] := by decide +kernel
  rw [listing] at listed
  obtain rfl := Except.ok.inj listed
  refine ⟨seen, later, launched, ?_⟩
  have node : Staging.stagedNode? dispatcher.store dispatcher.settings.bucket
      (Staging.stagedKeys dispatcher.settings.ignoreManifests [⟨"p/a", 1⟩, ⟨"p//a", 1⟩])
      ["p", "a"] = some (.file [2]) := by decide +kernel
  exact (content ["p", "a"] (by simp)).trans node

end Stagehand.Dispatcher
