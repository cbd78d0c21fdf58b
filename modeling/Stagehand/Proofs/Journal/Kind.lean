import Stagehand.Journal.Message

/-! # What the messages of a job tell of

A job is logged in phases, and every message belongs to one of them.  Those of the preparation tell
of directories and objects one by one; two views of a log list the objects that were downloaded, with
the bytes written, and the keys that were passed over.
-/

set_option autoImplicit false

namespace Stagehand

namespace Message

/-- What a message tells of. -/
inductive Kind where
  | arrival
  | rejection
  | preparation
  | staged
  | stagingFailure
  | mismatch
  | launch
  | ending
  | acknowledgment
  | finish
  /-- Something outside every job. -/
  | session
deriving DecidableEq, Repr

def kind : Message → Kind
  | .deliveryReceived .. => .arrival
  | .deliveryRejected .. => .rejection
  | .directoryCreated .. | .workspaceReady .. | .objectSkipped .. | .markerSkipped ..
  | .downloadStarted .. | .downloadFinished .. => .preparation
  | .payloadStaged .. => .staged
  | .payloadFailed .. => .stagingFailure
  | .fileCountMismatch .. => .mismatch
  | .workflowLaunched .. => .launch
  | .workflowCompleted .. | .workflowFailed .. => .ending
  | .acknowledgmentSent .. | .acknowledgmentFailed .. => .acknowledgment
  | .jobFinished .. => .finish
  | .waitingForDeliveries | .consumerStarted .. | .stopRequested | .subscriptionEnded
  | .closeFailed .. => .session

/-- The key and the bytes of an object whose download is over. -/
def downloaded? : Message → Option (String × Nat)
  | .downloadFinished key bytesWritten _ => some (key, bytesWritten)
  | _ => none

/-- The key of an object that is passed over as a manifest. -/
def skipped? : Message → Option String
  | .objectSkipped key => some key
  | _ => none

theorem downloaded?_eq_none {message : Message} (other : message.kind ≠ .preparation) :
    message.downloaded? = none := by
  cases message <;> first | rfl | exact absurd rfl other

theorem skipped?_eq_none {message : Message} (other : message.kind ≠ .preparation) :
    message.skipped? = none := by
  cases message <;> first | rfl | exact absurd rfl other

end Message

/-- A part of the preparation of a job, with the objects whose downloads it ended and the keys that it
passed over. -/
structure Prepares (log : List Message) (downloads : List (String × Nat)) (skips : List String) :
    Prop where
  only : ∀ message ∈ log, message.kind = .preparation
  downloads : log.filterMap Message.downloaded? = downloads
  skips : log.filterMap Message.skipped? = skips

theorem Prepares.nil : Prepares [] [] [] :=
  ⟨List.forall_mem_nil _, rfl, rfl⟩

theorem Prepares.append {front back : List Message} {downloads downloads' : List (String × Nat)}
    {skips skips' : List String} (first : Prepares front downloads skips)
    (rest : Prepares back downloads' skips') :
    Prepares (front ++ back) (downloads ++ downloads') (skips ++ skips') := by
  refine ⟨List.forall_mem_append.mpr ⟨first.only, rest.only⟩, ?_, ?_⟩
  · rw [List.filterMap_append, first.downloads, rest.downloads]
  · rw [List.filterMap_append, first.skips, rest.skips]

/-- Such a part has no messages of another kind. -/
theorem Prepares.filter_kind {log : List Message} {downloads : List (String × Nat)}
    {skips : List String} {kind : Message.Kind} (part : Prepares log downloads skips)
    (other : kind ≠ .preparation) : log.filter (·.kind = kind) = [] :=
  List.filter_eq_nil_iff.mpr fun message member => by
    simpa [part.only message member] using other.symm

/-- A message that tells neither of a download that is over nor of a key passed over. -/
theorem Prepares.quiet {message : Message} (kind : message.kind = .preparation)
    (download : message.downloaded? = none) (skip : message.skipped? = none) :
    Prepares [message] [] [] :=
  ⟨List.forall_mem_singleton.mpr kind, by simp [download], by simp [skip]⟩

end Stagehand
