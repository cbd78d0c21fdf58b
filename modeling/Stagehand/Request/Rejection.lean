/-! # Why a request is rejected

A rejected request is never tried again: it is logged, acknowledged and forgotten.
-/

set_option autoImplicit false

namespace Stagehand

/-- What is wrong with a request. -/
inductive Rejection where
  | malformedBody (detail : String)
  | missingPayloadId
  | missingWorkflows
  | missingCorrelationId
  | invalidCorrelationId (correlationId : String)
deriving DecidableEq, Inhabited, Repr

/-- The reason in words. -/
def Rejection.message : Rejection → String
  | .malformedBody detail => s!"Message body is not a valid JSON object: {detail}"
  | .missingPayloadId => "Message body has no 'payload_id'"
  | .missingWorkflows => "No applications defined in the message body"
  | .missingCorrelationId => "Message has no correlation id"
  | .invalidCorrelationId correlationId =>
      s!"Correlation id '{correlationId}' is not a valid workspace directory name"

end Stagehand
