import Stagehand.Proofs.Request.Body
import Stagehand.Proofs.Workspace.Name
import Stagehand.Request.Basic

/-! # What a delivery comes to

A delivery whose body is an object is decided by the four members and the id beside it, whatever
other members the object has and however it is written.
-/

set_option autoImplicit false

namespace Stagehand.Request

open Json Body

/-- The id beside the body counts unless it is empty. -/
def chosenId (metadataId bodyId : Option String) : String :=
  if metadataId.getD "" = "" then bodyId.getD "" else metadataId.getD ""

theorem nonempty?_eq (text : Option String) :
    nonempty? text = if text.getD "" = "" then none else some (text.getD "") := by
  cases text with
  | none => rfl
  | some text => simp [nonempty?, String.isEmpty_iff]

theorem jobId?_eq (metadataId bodyId : Option String) :
    jobId? metadataId bodyId =
      if chosenId metadataId bodyId = "" then none else some (chosenId metadataId bodyId) := by
  unfold jobId? chosenId
  rw [nonempty?_eq, nonempty?_eq]
  by_cases silent : metadataId.getD "" = ""
  · simp [silent]
  · simp [silent]

/-- The first thing that is wrong decides: the workflows before the payload, the payload before the
id, and a missing id before one that cannot name a directory. -/
theorem ofBody_eq (metadataId : Option String) (body : Body) :
    ofBody metadataId body =
      if body.workflows.getD [] = [] then .error .missingWorkflows
      else if (body.payloadId.getD "").toList.all Text.isBlankChar then .error .missingPayloadId
      else if chosenId metadataId body.correlationId = "" then .error .missingCorrelationId
      else if LeadsElsewhere (chosenId metadataId body.correlationId) then
        .error (.invalidCorrelationId (chosenId metadataId body.correlationId))
      else .ok
        { correlationId := chosenId metadataId body.correlationId
          payloadId := body.payloadId.getD ""
          workflows := body.workflows.getD []
          fileCount := body.fileCount } := by
  obtain ⟨payloadId, workflows, bodyId, fileCount⟩ := body
  rcases workflows with _ | _ | ⟨first, others⟩
  · simp [ofBody]
  · simp [ofBody]
  · cases payloadId with
    | none => simp [ofBody]
    | some payloadId =>
        simp only [ofBody, Option.getD_some, reduceCtorEq, if_false, Text.isBlank, jobId?_eq]
        by_cases blank : payloadId.toList.all Text.isBlankChar = true
        · rw [if_pos blank, if_pos blank]
        · rw [if_neg blank, if_neg blank]
          by_cases missing : chosenId metadataId bodyId = ""
          · rw [if_pos missing, if_pos missing]
          · rw [if_neg missing, if_neg missing]
            dsimp only
            by_cases leads : LeadsElsewhere (chosenId metadataId bodyId)
            · rw [if_pos leads, if_neg]
              simp [isDirectoryName_iff, leads]
            · rw [if_neg leads, if_pos]
              simp [isDirectoryName_iff, missing, leads]

/-- An object that carries each member at most once is read as the body it carries. -/
theorem parse?_of_object {content : Bytes} {members : List (Bytes × Value)}
    {named : List (String × Value)} {body : Body} (text : (Value.object members).IsText content)
    (names : Named members named)
    (carried : ∀ member, Carried member {} body (valuesOf member named)) :
    Body.parse? content = some body := by
  rw [Body.parse?, Value.parse?_eq_some_iff.mpr text, Option.bind_some, ofValue?]
  exact addMembers?_of_carried names (Value.wellSpelled_members (Written.spelled text))
    (List.forall_mem_nil _) carried

/-- A delivery with an object in its body is decided by the four members and the id beside the body.
Each member stands at most once, and is null or of its type; what else the object holds, in which
order and in which spelling, makes no difference. -/
theorem ofDelivery_of_object (wording : Bytes → String) {delivery : Delivery}
    {members : List (Bytes × Value)} {named : List (String × Value)} {body : Body}
    (text : (Value.object members).IsText delivery.body) (names : Named members named)
    (carried : ∀ member, Carried member {} body (valuesOf member named)) :
    ofDelivery wording delivery =
      if body.workflows.getD [] = [] then .error .missingWorkflows
      else if (body.payloadId.getD "").toList.all Text.isBlankChar then .error .missingPayloadId
      else if chosenId delivery.correlationId body.correlationId = "" then
        .error .missingCorrelationId
      else if LeadsElsewhere (chosenId delivery.correlationId body.correlationId) then
        .error (.invalidCorrelationId (chosenId delivery.correlationId body.correlationId))
      else .ok
        { correlationId := chosenId delivery.correlationId body.correlationId
          payloadId := body.payloadId.getD ""
          workflows := body.workflows.getD []
          fileCount := body.fileCount } := by
  rw [ofDelivery, parse?_of_object text names carried]
  exact ofBody_eq delivery.correlationId body

/-- A delivery with its members out of order, some of them in escapes, and with one that does not
count. -/
def mixedDelivery : Delivery where
  tag := 1
  correlationId := none
  appId := none
  routingKey := "jobs"
  body := Text.encode (" \x7b\"x\": [null],\"correlation_id\":\"\\u0061\" ,\"payload_id\":\"p\"," ++
    "\"workflow\\u0073\":[\"w\"],\"file_count\":18446744073709551615\x7d")

theorem ofDelivery_mixed :
    let wording : Bytes → String := fun _ => ""
    ofDelivery wording mixedDelivery = .ok ⟨"a", "p", ["w"], some 18446744073709551615⟩ := by
  intro wording
  let members : List (Bytes × Value) :=
    [(Text.encode "x", .array [.null]),
      (Text.encode "correlation_id", .text (Text.encode "\\u0061")),
      (Text.encode "payload_id", .text (Text.encode "p")),
      (Text.encode "workflow\\u0073", .array [.text (Text.encode "w")]),
      (Text.encode "file_count", .number (decimals 18446744073709551615))]
  have text : (Value.object members).IsText mixedDelivery.body :=
    written_of_tokens? (by decide +kernel)
  have spelled := Value.wellSpelled_members (Written.spelled text)
  have key {member : Bytes × Value} {key : String} (among : member ∈ members)
      (read : textOf? member.1 = some key) : Spells member.1 key.toList :=
    (textOf?_eq_some_iff (spelled member among).1).mp read
  let named : List (String × Value) :=
    (["x", "correlation_id", "payload_id", "workflows", "file_count"]).zip (members.map Prod.snd)
  have names : Named members named :=
    .cons ⟨key (by simp [members]) (by decide +kernel), rfl⟩ <|
    .cons ⟨key (by simp [members]) (by decide +kernel), rfl⟩ <|
    .cons ⟨key (by simp [members]) (by decide +kernel), rfl⟩ <|
    .cons ⟨key (by simp [members]) (by decide +kernel), rfl⟩ <|
    .cons ⟨key (by simp [members]) (by decide +kernel), rfl⟩ .nil
  let body : Body := ⟨some "p", some ["w"], some "a", some 18446744073709551615⟩
  have carried : ∀ member, Carried member {} body (valuesOf member named) := by
    intro member
    cases member with
    | payloadId =>
        have value := (spelled _ (.tail _ (.tail _ (.head _)))).2
        exact .once ((optionalText?_eq_some_iff value).mp (by decide +kernel))
    | workflows =>
        have value := (spelled _ (.tail _ (.tail _ (.tail _ (.head _))))).2
        exact .once ((optionalTexts?_eq_some_iff value).mp (by decide +kernel))
    | correlationId =>
        have value := (spelled _ (.tail _ (.head _))).2
        exact .once ((optionalText?_eq_some_iff value).mp (by decide +kernel))
    | fileCount => exact .once (.some rfl)
  rw [ofDelivery_of_object wording text names carried]
  decide +kernel

end Stagehand.Request
