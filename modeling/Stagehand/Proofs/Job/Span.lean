import Stagehand.Proofs.Job.Execution
import Stagehand.Proofs.Job.Log
import Stagehand.Proofs.Job.Preparation
import Stagehand.Proofs.Request.Decision
import Stagehand.Rehearsal.Dispatcher
import Stagehand.Rehearsal.Engine

/-! # Whose job an event belongs to

Everything that is told of a job after its arrival is told inside one span.  That span is opened before
the body is read, so the id it carries is the metadata's; the report, the last message and the
directories go by the id of the request, which is the body's where the metadata has none.
-/

set_option autoImplicit false

namespace Stagehand

/-- The text that a span carries in a field. -/
def Span.textOf? (span : Span) (field : String) : Option String :=
  match span.fields.lookup field with
  | some (.text value) => some value
  | _ => none

namespace Dispatcher

variable {state : Type} {dispatcher : Dispatcher state} {conditions : Conditions}
  {bench : Bench state} {delivery : Delivery} {request : Request}

/-- The span that a job is carried out in. -/
def jobSpan (delivery : Delivery) : Span :=
  (arrival delivery).span "handle"

theorem jobSpan_correlationId (delivery : Delivery) :
    (jobSpan delivery).textOf? "correlation_id" = some (delivery.correlationId.getD "<none>") := rfl

/-- Whatever names a job names it by this id: its report, its last message, the directory it works in,
and the input that its workflows are given. -/
structure GoesBy (dispatcher : Dispatcher state) (tree : FileTree) (request : Request)
    (work : BenchWork state JobReport) (id : String) : Prop where
  report : work.result.correlationId = some id
  finish : ∀ message, message ∈ messages work.journal ∧ message.kind = .finish ↔
    message = .jobFinished id work.result.tag work.result.outcome.label work.result.succeeded
      work.result.failed work.result.acknowledged work.result.elapsed
  root : ∀ workspace, (dispatcher.readyWorkspace request tree).outcome = .ok workspace →
    workspace.root = dispatcher.settings.workingDirectory.join id
  inputs : ∀ name input output seen,
    .execute name input output seen ∈ executions work.journal →
      input = (dispatcher.settings.workingDirectory.join id).join "input"

/-! ## The id of a request -/

/-- The id of a request is the metadata's unless that one is missing or empty. -/
theorem correlationId_of_valid
    (valid : Request.ofDelivery dispatcher.wording delivery = .ok request) :
    request.correlationId ≠ "" ∧
      (delivery.correlationId.getD "" ≠ "" →
        request.correlationId = delivery.correlationId.getD "") := by
  unfold Request.ofDelivery at valid
  cases read : Body.parse? delivery.body with
  | none =>
      rw [read] at valid
      cases valid
  | some body =>
      rw [read] at valid
      dsimp only at valid
      rw [Request.ofBody_eq] at valid
      split_ifs at valid with _ _ missing
      cases Except.ok.inj valid
      exact ⟨missing, fun told => if_neg told⟩

/-- The span carries the id of the request if the metadata has one.  Otherwise it carries a stand-in,
which can only be the id of the request by chance. -/
theorem jobSpan_correlationId_iff
    (valid : Request.ofDelivery dispatcher.wording delivery = .ok request) :
    (jobSpan delivery).textOf? "correlation_id" = some request.correlationId ↔
      delivery.correlationId.getD "" ≠ "" ∨
        delivery.correlationId = none ∧ request.correlationId = "<none>" := by
  obtain ⟨named, taken⟩ := correlationId_of_valid valid
  rw [jobSpan_correlationId, Option.some.injEq]
  cases given : delivery.correlationId with
  | none => simp [eq_comm]
  | some id =>
      rw [given] at taken
      constructor
      · rintro rfl
        exact Or.inl named
      · rintro (told | ⟨missing, -⟩)
        · exact (taken told).symm
        · cases missing

/-! ## The course of the job -/

theorem finish_iff (dispatcher : Dispatcher state) (conditions : Conditions) (bench : Bench state)
    (delivery : Delivery) (message : Message) :
    message ∈ messages (dispatcher.handle conditions bench delivery).journal ∧
        message.kind = .finish ↔
      message = closing (dispatcher.handle conditions bench delivery).result := by
  obtain ⟨answer, told, whole⟩ := messages_handle dispatcher conditions bench delivery
  rw [whole]
  constructor
  · rintro ⟨member, kind⟩
    simp only [List.mem_cons, List.mem_append, List.not_mem_nil, or_false] at member
    rcases member with rfl | member | rfl | rfl
    · cases kind
    · have suits := (jobLog_process dispatcher conditions bench delivery).suits member
      rw [Suits, kind] at suits
      exact suits.elim
    · rw [kind_of_answers told] at kind
      cases kind
    · rfl
  · rintro rfl
    exact ⟨by simp, rfl⟩

theorem goesBy_of_valid
    (valid : Request.ofDelivery dispatcher.wording delivery = .ok request) :
    dispatcher.GoesBy bench.tree request (dispatcher.handle conditions bench delivery)
      request.correlationId := by
  have known : (dispatcher.handle conditions bench delivery).result.correlationId =
      some request.correlationId := by
    simp only [handle, process_of_request bench valid]
  refine ⟨known, fun message => ?_, ?_, fun name input output seen member => ?_⟩
  · rw [finish_iff, closing, known]
    rfl
  · rintro workspace ready
    rw [Workspace.ensure_of_ok ready]
    rfl
  · obtain ⟨workspace, prepared, -, -, rfl, -⟩ := mem_executions_handle valid member
    obtain ⟨summary, ready, -⟩ := prepare_of_ok prepared
    rw [Workspace.ensure_of_ok ready]
    rfl

/-- A job goes by the id of its request throughout, and everything told of it after its arrival is told
inside one span.  That span carries the metadata's id, so it carries the id of the job exactly if the
metadata has an id that is not empty, or has none and the body's happens to be the stand-in. -/
theorem handle_inside_span (dispatcher : Dispatcher state) (conditions : Conditions)
    (bench : Bench state) {delivery : Delivery} {request : Request}
    (valid : Request.ofDelivery dispatcher.wording delivery = .ok request) :
    let work := dispatcher.handle conditions bench delivery
    (∃ later, work.journal = .log (arrival delivery) :: .opened (jobSpan delivery) :: later ∧
      ∀ message inside, .event message inside ∈ later →
        ∃ deeper, inside = (jobSpan delivery).name :: deeper) ∧
    dispatcher.GoesBy bench.tree request work request.correlationId ∧
    (jobSpan delivery).textOf? "correlation_id" = some (delivery.correlationId.getD "<none>") ∧
    ((jobSpan delivery).textOf? "correlation_id" = some request.correlationId ↔
      delivery.correlationId.getD "" ≠ "" ∨
        delivery.correlationId = none ∧ request.correlationId = "<none>") := by
  refine ⟨⟨_, rfl, fun message inside member => ?_⟩, goesBy_of_valid valid,
    jobSpan_correlationId delivery, jobSpan_correlationId_iff valid⟩
  exact inside_of_mem_inSpan (List.mem_cons_of_mem _ member)

/-- With ids in both places the metadata's counts, and the span carries it. -/
theorem handle_inside_span_of_metadata :
    let delivery := Rehearsal.deliveryOf
      "\x7b\"payload_id\":\"p\",\"workflows\":[\"x\"],\"correlation_id\":\"b\"\x7d"
    let dispatcher := Rehearsal.dispatcher ⟨"data", [], none⟩ (Rehearsal.EngineScript.engine [])
    let bench : Bench (List String) := ⟨Rehearsal.stage, [], {}⟩
    let work := dispatcher.handle {} bench delivery
    Request.ofDelivery dispatcher.wording delivery = .ok ⟨"a", "p", ["x"], none⟩ ∧
      (jobSpan delivery).textOf? "correlation_id" = some "a" ∧
      work.result.correlationId = some "a" := by
  intro delivery dispatcher bench work
  have valid : Request.ofDelivery dispatcher.wording delivery = .ok ⟨"a", "p", ["x"], none⟩ := by
    decide +kernel
  obtain ⟨-, goesBy, -, carried⟩ := handle_inside_span dispatcher {} bench valid
  exact ⟨valid, carried.mpr (Or.inl (by decide)), goesBy.report⟩

/-- Without an id in the metadata the span carries none, whatever the id of the job is; an empty one is
carried as it is. -/
theorem handle_span_without_metadata :
    let delivery : Delivery :=
      { Rehearsal.deliveryOf
          "\x7b\"payload_id\":\"p\",\"workflows\":[\"x\"],\"correlation_id\":\"b\"\x7d" with
        correlationId := none }
    let blank : Delivery := { delivery with correlationId := some "" }
    let dispatcher := Rehearsal.dispatcher ⟨"data", [], none⟩ (Rehearsal.EngineScript.engine [])
    let bench : Bench (List String) := ⟨Rehearsal.stage, [], {}⟩
    let work := dispatcher.handle {} bench delivery
    Request.ofDelivery dispatcher.wording delivery = .ok ⟨"b", "p", ["x"], none⟩ ∧
      Request.ofDelivery dispatcher.wording blank = .ok ⟨"b", "p", ["x"], none⟩ ∧
      work.result.correlationId = some "b" ∧
      (jobSpan delivery).textOf? "correlation_id" = some "<none>" ∧
      (jobSpan blank).textOf? "correlation_id" = some "" := by
  decide +kernel

end Dispatcher
end Stagehand
