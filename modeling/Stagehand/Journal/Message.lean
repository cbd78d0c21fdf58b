import Stagehand.Duration
import Stagehand.Path

/-! # What is logged

Every line of the log is one of these messages.  A message knows its level, its wording, the fields
that carry the same data for machines, and the span that stands for the work it announces.
-/

set_option autoImplicit false

namespace Stagehand

/-- How much a message matters. -/
inductive Level where
  | debug
  | info
  | warn
  | error
deriving DecidableEq, Inhabited, Repr

inductive FieldValue where
  | text (value : String)
  | number (value : Nat)
  | flag (value : Bool)
deriving DecidableEq, Inhabited, Repr

/-- A piece of work that later messages can be inside of. -/
structure Span where
  name : String
  level : Level
  fields : List (String × FieldValue)
deriving DecidableEq, Inhabited, Repr

/-- The messages of the dispatcher. -/
inductive Message where
  | deliveryReceived (tag : UInt64) (correlationId appId : Option String) (routingKey : String)
  | deliveryRejected (tag : UInt64) (reason : String)
  | jobFinished (correlationId : String) (tag : UInt64) (outcome : String)
      (succeeded failed : Nat) (acknowledged : Bool) (elapsed : Duration)
  | waitingForDeliveries
  | directoryCreated (purpose : String) (path : Path)
  | workspaceReady (correlationId : String) (root : Path) (workflowCount : Nat)
  | objectSkipped (key : String)
  | markerSkipped (key : String)
  | downloadStarted (key : String) (size : Nat)
  | downloadFinished (key : String) (bytesWritten : Nat) (elapsed : Duration)
  | payloadStaged (payloadId : String) (downloaded skipped bytesWritten : Nat)
  | payloadFailed (correlationId payloadId reason : String)
  | fileCountMismatch (payloadId : String) (announced listed : Nat)
  | workflowLaunched (workflow : String) (input output : Path)
  | workflowCompleted (workflow : String) (output : Path) (elapsed : Duration)
  | workflowFailed (workflow reason : String)
  | consumerStarted (exchange topic queue : String)
  | acknowledgmentSent (tag : UInt64)
  | acknowledgmentFailed (tag : UInt64) (reason : String)
  | stopRequested
  | subscriptionEnded
  | closeFailed (reason : String)
deriving DecidableEq, Inhabited, Repr

namespace Message

/-- What stands for a piece of metadata that the publisher did not set. -/
def absent : String := "<none>"

/-- The level of a message and of its span. -/
def level : Message → Level
  | .workspaceReady .. => .debug
  | .markerSkipped .. => .debug
  | .downloadFinished .. => .debug
  | .fileCountMismatch .. => .warn
  | .stopRequested => .warn
  | .subscriptionEnded => .warn
  | .closeFailed .. => .warn
  | .deliveryRejected .. => .error
  | .payloadFailed .. => .error
  | .workflowFailed .. => .error
  | .acknowledgmentFailed .. => .error
  | _ => .info

def text : Message → String
  | .deliveryReceived tag correlationId appId routingKey =>
      s!"Message received from application={appId.getD absent}. " ++
      s!"Correlation ID={correlationId.getD absent}. Delivery tag={tag}. Topic={routingKey}"
  | .deliveryRejected tag reason => s!"Rejecting delivery {tag}: {reason}, skipping"
  | .jobFinished correlationId _ outcome succeeded failed acknowledged elapsed =>
      s!"Job '{correlationId}' finished as {outcome}: {succeeded} workflow(s) succeeded, " ++
      s!"{failed} failed, acknowledged={acknowledged}, duration={elapsed.text}"
  | .waitingForDeliveries => "Waiting for events..."
  | .directoryCreated purpose path => s!"Creating {purpose} directory {path.text}"
  | .workspaceReady correlationId root workflowCount =>
      s!"Workspace for job '{correlationId}' ready at {root.text} with {workflowCount} " ++
      (if workflowCount = 1 then "output directory" else "output directories")
  | .objectSkipped key => s!"Skipping JSON file {key}..."
  | .markerSkipped _ => "Skipping directory marker"
  | .downloadStarted key size => s!"Downloading file {key} ({size} bytes)..."
  | .downloadFinished key bytesWritten elapsed =>
      s!"Downloaded {key}: {bytesWritten} bytes in {elapsed.text}"
  | .payloadStaged payloadId downloaded skipped bytesWritten =>
      s!"Finished download payload {payloadId}: {downloaded} file(s), {skipped} skipped, " ++
      s!"{bytesWritten} bytes"
  | .payloadFailed correlationId payloadId reason =>
      s!"Failed to download payload {payloadId} for request. " ++
      s!"Correlation ID={correlationId}: {reason}"
  | .fileCountMismatch payloadId announced listed =>
      s!"Payload {payloadId} announced {announced} file(s) but {listed} object(s) were listed"
  | .workflowLaunched workflow input output =>
      s!"Launching application {workflow}: input={input.text}, output={output.text}"
  | .workflowCompleted workflow output elapsed =>
      s!"Application {workflow} completed successfully in {elapsed.text}: output={output.text}"
  | .workflowFailed workflow reason => s!"{workflow} failed with {reason}"
  | .consumerStarted exchange topic queue =>
      s!"Consuming queue '{queue}' bound to exchange '{exchange}' with topic '{topic}'"
  | .acknowledgmentSent tag => s!"Acknowledgement sent for delivery {tag}"
  | .acknowledgmentFailed tag reason => s!"Acknowledgement for delivery {tag} failed: {reason}"
  | .stopRequested => "Interrupt received, stopping after the current job"
  | .subscriptionEnded => "Broker subscription ended, no more deliveries"
  | .closeFailed reason => s!"Failed to close broker session cleanly: {reason}"

def fields : Message → List (String × FieldValue)
  | .deliveryReceived tag correlationId appId routingKey =>
      [("delivery_tag", .number tag.toNat), ("correlation_id", .text (correlationId.getD absent)),
       ("app_id", .text (appId.getD absent)), ("routing_key", .text routingKey)]
  | .deliveryRejected tag reason =>
      [("delivery_tag", .number tag.toNat), ("error", .text reason)]
  | .jobFinished correlationId tag outcome succeeded failed acknowledged elapsed =>
      [("correlation_id", .text correlationId), ("delivery_tag", .number tag.toNat),
       ("outcome", .text outcome), ("workflows_succeeded", .number succeeded),
       ("workflows_failed", .number failed), ("acknowledged", .flag acknowledged),
       ("duration_ms", .number elapsed.milliseconds.toNat)]
  | .waitingForDeliveries => []
  | .directoryCreated purpose path => [("purpose", .text purpose), ("path", .text path.text)]
  | .workspaceReady correlationId root workflowCount =>
      [("correlation_id", .text correlationId), ("root", .text root.text),
       ("workflow_count", .number workflowCount)]
  | .objectSkipped key => [("key", .text key)]
  | .markerSkipped key => [("key", .text key)]
  | .downloadStarted key size => [("key", .text key), ("size", .number size)]
  | .downloadFinished key bytesWritten elapsed =>
      [("key", .text key), ("bytes_written", .number bytesWritten),
       ("duration_ms", .number elapsed.milliseconds.toNat)]
  | .payloadStaged payloadId downloaded skipped bytesWritten =>
      [("payload_id", .text payloadId), ("downloaded", .number downloaded),
       ("skipped", .number skipped), ("bytes_written", .number bytesWritten)]
  | .payloadFailed correlationId payloadId reason =>
      [("correlation_id", .text correlationId), ("payload_id", .text payloadId),
       ("error", .text reason)]
  | .fileCountMismatch payloadId announced listed =>
      [("payload_id", .text payloadId), ("announced", .number announced),
       ("listed", .number listed)]
  | .workflowLaunched workflow input output =>
      [("workflow", .text workflow), ("input", .text input.text), ("output", .text output.text)]
  | .workflowCompleted workflow output elapsed =>
      [("workflow", .text workflow), ("output", .text output.text),
       ("duration_ms", .number elapsed.milliseconds.toNat)]
  | .workflowFailed workflow reason => [("workflow", .text workflow), ("reason", .text reason)]
  | .consumerStarted exchange topic queue =>
      [("exchange", .text exchange), ("topic", .text topic), ("queue", .text queue)]
  | .acknowledgmentSent tag => [("delivery_tag", .number tag.toNat)]
  | .acknowledgmentFailed tag reason =>
      [("delivery_tag", .number tag.toNat), ("error", .text reason)]
  | .stopRequested => []
  | .subscriptionEnded => []
  | .closeFailed reason => [("error", .text reason)]

/-- The name of the work that the message announces or sums up. -/
def work : Message → String
  | .deliveryReceived .. => "job"
  | .deliveryRejected .. => "message_rejected"
  | .jobFinished .. => "job_finished"
  | .waitingForDeliveries => "waiting"
  | .directoryCreated .. => "directory_created"
  | .workspaceReady .. => "workspace_ready"
  | .objectSkipped .. => "object_skipped"
  | .markerSkipped .. => "marker_skipped"
  | .downloadStarted .. => "object_download"
  | .downloadFinished .. => "object_downloaded"
  | .payloadStaged .. => "payload_fetched"
  | .payloadFailed .. => "payload_fetch_failed"
  | .fileCountMismatch .. => "file_count_mismatch"
  | .workflowLaunched .. => "workflow"
  | .workflowCompleted .. => "workflow_completed"
  | .workflowFailed .. => "workflow_failed"
  | .consumerStarted .. => "consumer"
  | .acknowledgmentSent .. => "ack"
  | .acknowledgmentFailed .. => "ack_failed"
  | .stopRequested => "shutdown"
  | .subscriptionEnded => "subscription_ended"
  | .closeFailed .. => "session_close_failed"

/-- The fields of the message that its span keeps. -/
def spanFields : Message → List String
  | .deliveryReceived .. => ["delivery_tag", "correlation_id"]
  | .deliveryRejected .. => ["delivery_tag"]
  | .jobFinished .. => ["correlation_id", "outcome"]
  | .directoryCreated .. => ["purpose", "path"]
  | .workspaceReady .. => ["correlation_id"]
  | .objectSkipped .. => ["key"]
  | .markerSkipped .. => ["key"]
  | .downloadStarted .. => ["key", "size"]
  | .downloadFinished .. => ["key"]
  | .payloadStaged .. => ["payload_id"]
  | .payloadFailed .. => ["correlation_id", "payload_id"]
  | .fileCountMismatch .. => ["payload_id"]
  | .workflowLaunched .. => ["workflow", "output"]
  | .workflowCompleted .. => ["workflow"]
  | .workflowFailed .. => ["workflow"]
  | .consumerStarted .. => ["exchange", "topic"]
  | .acknowledgmentSent .. => ["delivery_tag"]
  | .acknowledgmentFailed .. => ["delivery_tag"]
  | .waitingForDeliveries => []
  | .stopRequested => []
  | .subscriptionEnded => []
  | .closeFailed .. => []

/-- The span of the work that the message stands for, under a name of the caller's choice. -/
def span (message : Message) (spanName : String) : Span where
  name := message.work
  level := message.level
  fields :=
    ("span_name", .text spanName) ::
      message.fields.filter fun field => message.spanFields.contains field.1

end Message
end Stagehand
