import Stagehand.Proofs.Job.Calls
import Stagehand.Proofs.Request.Decision
import Stagehand.Rehearsal.Dispatcher
import Stagehand.Rehearsal.Engine

/-! # Deliveries that are refused

A delivery without a request in it costs one acknowledgment and nothing else.  Whether a body is an
object is decided by what can be read from it, and a list of four values can be read as well: a list
whose values are of the types of the members is taken for the members.
-/

set_option autoImplicit false

namespace Stagehand

open Json Body

/-! ## Bodies that are no object -/

namespace Request

theorem parse?_of_list {content : Bytes} {items : List Value} {body : Body}
    (text : (Value.array items).IsText content) :
    Body.parse? content = some body ↔ Listed items body := by
  have spelled := Value.wellSpelled_items (Written.spelled text)
  rw [Body.parse?, Value.parse?_eq_some_iff.mpr text, Option.bind_some]
  exact ⟨listed_of_ofValue? spelled, ofValue?_of_listed spelled⟩

/-- Only an object and a list can be read as a body. -/
theorem parse?_eq_none {content : Bytes}
    (noObject : ∀ members, ¬ (Value.object members).IsText content)
    (noList : ∀ items body, (Value.array items).IsText content → ¬ Listed items body) :
    Body.parse? content = none := by
  cases parsed : Value.parse? content with
  | none => rw [Body.parse?, parsed, Option.bind_none]
  | some value =>
      have text := Value.parse?_eq_some_iff.mp parsed
      cases value with
      | object members => exact absurd text (noObject members)
      | array items =>
          rw [Option.eq_none_iff_forall_ne_some]
          exact fun body read => noList items body text ((parse?_of_list text).mp read)
      | _ =>
          rw [Body.parse?, parsed, Option.bind_some]
          rfl

end Request

namespace Dispatcher

variable {state : Type}

/-! ## What a refusal costs -/

/-- A refused delivery leaves everything as it was, and is acknowledged. -/
theorem handle_of_rejected (dispatcher : Dispatcher state) (conditions : Conditions)
    (bench : Bench state) {delivery : Delivery} {reason : Rejection}
    (invalid : Request.ofDelivery dispatcher.wording delivery = .error reason) :
    let work := dispatcher.handle conditions bench delivery
    work.result.outcome = .rejected reason ∧ work.bench = bench ∧
      calls work.journal = [.acknowledge delivery.tag] := by
  have asked : calls (acknowledgeOnce conditions.acknowledgment delivery.tag).2 =
      [.acknowledge delivery.tag] := by
    unfold acknowledgeOnce
    split <;> rfl
  simp only [handle, process_of_rejected bench invalid]
  refine ⟨trivial, trivial, ?_⟩
  simp [asked]

/-- A delivery without an object in its body is refused and costs its acknowledgment only, unless the
body is a list of four values of the types of the members.  Such a list is taken for the members. -/
theorem handle_without_object (dispatcher : Dispatcher state) (conditions : Conditions)
    (bench : Bench state) {delivery : Delivery}
    (noObject : ∀ members, ¬ (Value.object members).IsText delivery.body) :
    (∀ items body, (Value.array items).IsText delivery.body → Listed items body →
      Request.ofDelivery dispatcher.wording delivery = Request.ofBody delivery.correlationId body) ∧
    ((∀ items body, (Value.array items).IsText delivery.body → ¬ Listed items body) →
      let reason := Rejection.malformedBody (dispatcher.wording delivery.body)
      let work := dispatcher.handle conditions bench delivery
      Request.ofDelivery dispatcher.wording delivery = .error reason ∧
        work.result.outcome = .rejected reason ∧ work.bench = bench ∧
        calls work.journal = [.acknowledge delivery.tag]) := by
  constructor
  · intro items body text listed
    rw [Request.ofDelivery, (Request.parse?_of_list text).mpr listed]
  · intro noList
    have invalid : Request.ofDelivery dispatcher.wording delivery =
        .error (.malformedBody (dispatcher.wording delivery.body)) := by
      rw [Request.ofDelivery, Request.parse?_eq_none noObject noList]
    exact ⟨invalid, handle_of_rejected dispatcher conditions bench invalid⟩

theorem handle_short_list :
    let words (column : Nat) :=
      s!"invalid length 3, expected struct EventBody with 4 elements at line 1 column {column}"
    let delivery := Rehearsal.deliveryOf "[\"p\",[\"w\"],null]"
    let dispatcher : Dispatcher (List String) :=
      { Rehearsal.dispatcher ⟨"data", [], none⟩ (Rehearsal.EngineScript.engine []) with
        wording := fun body => words body.length }
    let bench : Bench (List String) := ⟨Rehearsal.stage, [], {}⟩
    let work := dispatcher.handle {} bench delivery
    (∀ members, ¬ (Value.object members).IsText delivery.body) ∧
      work.result.outcome = .rejected (.malformedBody (words 16)) ∧
      work.bench = bench ∧ calls work.journal = [.acknowledge 1] := by
  intro words delivery dispatcher bench work
  have text : (Value.array [.text [0x70], .array [.text [0x77]], .null]).IsText delivery.body :=
    written_of_tokens? (by decide +kernel)
  have noObject (members : List (Bytes × Value)) :
      ¬ (Value.object members).IsText delivery.body := fun object => by
    cases text.unique object
  have noList (items : List Value) (body : Body) (other : (Value.array items).IsText delivery.body) :
      ¬ Listed items body := by
    cases text.unique other
    rintro (_ | ⟨-, _ | ⟨-, _ | ⟨-, _ | ⟨-, -⟩⟩⟩⟩)
  have refused := handle_without_object dispatcher {} bench noObject
  obtain ⟨-, outcome, left, made⟩ := refused.2 noList
  have place : delivery.body.length = 16 := by decide +kernel
  exact ⟨noObject, outcome.trans (by rw [← place]), left, made⟩

/-- A list of four values is no object, and is accepted. -/
theorem ofDelivery_list_of_four :
    let delivery := Rehearsal.deliveryOf "[\"p\",[\"w\"],null,null]"
    let dispatcher := Rehearsal.dispatcher ⟨"data", [], none⟩ (Rehearsal.EngineScript.engine [])
    (∀ members, ¬ (Value.object members).IsText delivery.body) ∧
      Request.ofDelivery dispatcher.wording delivery = .ok ⟨"a", "p", ["w"], none⟩ := by
  intro delivery dispatcher
  have text : (Value.array [.text [0x70], .array [.text [0x77]], .null, .null]).IsText
      delivery.body := written_of_tokens? (by decide +kernel)
  refine ⟨fun members object => ?_, by decide +kernel⟩
  cases text.unique object

end Dispatcher
end Stagehand
