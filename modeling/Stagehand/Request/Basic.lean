import Stagehand.Request.Body
import Stagehand.Request.Rejection
import Stagehand.Text.Blank
import Stagehand.Workspace.Name

/-! # Requests

A delivery becomes a request when its body says what to run on which payload and when an id for the
job is known.  The metadata's id counts before the body's, and an empty one counts for nothing.  The
id names a directory, so it has to be a directory name; workflow names are taken as they come.
-/

set_option autoImplicit false

namespace Stagehand

/-- A message as the broker hands it out, with the metadata that its publisher set. -/
structure Delivery where
  tag : UInt64
  correlationId : Option String
  appId : Option String
  routingKey : String
  body : Bytes
deriving DecidableEq, Inhabited, Repr

/-- A piece of work that can be done. -/
structure Request where
  correlationId : String
  payloadId : String
  workflows : List String
  fileCount : Option UInt64
deriving DecidableEq, Inhabited, Repr

namespace Request

def nonempty? : Option String → Option String
  | none => none
  | some text => if text.isEmpty then none else some text

/-- The id of the job: the metadata's if it has one, otherwise the body's. -/
def jobId? (metadataId bodyId : Option String) : Option String :=
  match nonempty? metadataId with
  | some id => some id
  | none => nonempty? bodyId

/-- The request that a body makes under the metadata's id. -/
def ofBody (metadataId : Option String) (body : Body) : Except Rejection Request :=
  match body.workflows with
  | none | some [] => .error .missingWorkflows
  | some (first :: others) =>
      match body.payloadId with
      | none => .error .missingPayloadId
      | some payloadId =>
          if Text.isBlank payloadId then .error .missingPayloadId
          else
            match jobId? metadataId body.correlationId with
            | none => .error .missingCorrelationId
            | some id =>
                if isDirectoryName id then
                  .ok ⟨id, payloadId, first :: others, body.fileCount⟩
                else .error (.invalidCorrelationId id)

/-- The request that a delivery makes.  A body that cannot be read is rejected in the words of the
parser, which may name the place where it went wrong. -/
def ofDelivery (wording : Bytes → String) (delivery : Delivery) : Except Rejection Request :=
  match Body.parse? delivery.body with
  | none => .error (.malformedBody (wording delivery.body))
  | some body => ofBody delivery.correlationId body

end Request
end Stagehand
