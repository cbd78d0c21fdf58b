import Stagehand.Staging.Destination
import Stagehand.Staging.Error
import Stagehand.Staging.Medium
import Stagehand.Store.Basic
import Stagehand.Workspace.Ensure

/-! # Staging a payload

A payload is every object whose key starts with its id.  The objects are listed once and downloaded
one after another in the order of the listing, each to the place that its key names below the input
directory.  The first one that fails ends the work; what was written before stays.  A reader is
released before the next object is opened, however its download ended.
-/

set_option autoImplicit false

namespace Stagehand

/-- How long each download takes, as a clock beside the program shows it. -/
abbrev DownloadTimes := String → Duration

structure StagedObject where
  key : String
  path : Path
  bytesWritten : Nat
deriving DecidableEq, Inhabited, Repr

structure StagingSummary where
  staged : List StagedObject := []
  /-- The keys passed over because they name manifests. -/
  skipped : List String := []
deriving DecidableEq, Inhabited, Repr

namespace StagingSummary

def skip (key : String) (summary : StagingSummary) : StagingSummary :=
  { summary with skipped := key :: summary.skipped }

def stage (object : StagedObject) (summary : StagingSummary) : StagingSummary :=
  { summary with staged := object :: summary.staged }

def bytesWritten (summary : StagingSummary) : Nat :=
  (summary.staged.map StagedObject.bytesWritten).foldr (· + ·) 0

def objectCount (summary : StagingSummary) : Nat :=
  summary.staged.length + summary.skipped.length

end StagingSummary

namespace Staging

/-- The size of the chunks that objects are read in. -/
def chunkSize : Nat := 32 * 1024

def manifestEnding : String := ".json"

/-- What is done with a listed object. -/
inductive Treatment where
  | skip
  /-- A placeholder of a directory, with nothing in it. -/
  | marker
  | stage
deriving DecidableEq, Inhabited, Repr

/-- What is done with an object, by its key. -/
def treatment (ignoreManifests : Bool) (key : String) : Treatment :=
  if ignoreManifests && manifestEnding.toList.isSuffixOf key.toList then .skip
  else if key.toList.getLast? = some '/' then .marker
  else .stage

def chunkEntries (key : String) (chunks : List Bytes) : List Entry :=
  chunks.map fun chunk => .call (.chunk key chunk.length)

/-- The directory of an object's place made ready. -/
def prepareParent (tree : FileTree) (destination : Path) : Activity StagingError Unit :=
  match destination.parent? with
  | none => .done tree ()
  | some parent =>
      ((ensureDirectory tree "object" parent).mapFailure StagingError.workspace).map fun _ => ()

/-- The failure of a transfer whose writes were refused: the refusal, unless the download breaks off
before it shows. -/
def refusal (key : String) (destination : Path) (download : Download) (fault : WriteFault) :
    StagingError :=
  match download.fault with
  | none => .writing key destination fault.reason
  | some reason =>
      if fault.showsEarly download then .writing key destination fault.reason
      else .download key reason

/-- An object's bytes written to its place.  The file is there as soon as the directory is, and
keeps what came before a failure. -/
def transfer (tree : FileTree) (key : String) (destination : Path) (download : Download)
    (medium : Medium) : Activity StagingError Nat :=
  (prepareParent tree destination).andThen fun ready _ =>
    match ready.createFile destination with
    | .error reason => .failed ready (.writing key destination reason)
    | .ok (location, created) =>
        match medium location download.chunks with
        | some fault =>
            ⟨created.put location (.file (fault.left download)),
              chunkEntries key (fault.asked download),
              .error (refusal key destination download fault)⟩
        | none =>
            let written := created.put location (.file download.content)
            let outcome : Except StagingError Nat :=
              match download.fault with
              | none => .ok download.size
              | some reason => .error (.download key reason)
            ⟨written, chunkEntries key download.chunks, outcome⟩

/-- One object downloaded to its place. -/
def stageObject (store : Store) (times : DownloadTimes) (bucket : String) (inputDirectory : Path)
    (tree : FileTree) (object : ObjectRef) (medium : Medium) :
    Activity StagingError StagedObject :=
  match destination? inputDirectory object.key with
  | none => .failed tree (.unsafeKey object.key)
  | some destination =>
      let opening : List Entry :=
        [.log (.downloadStarted object.key object.size), .call (.get bucket object.key)]
      match store.get bucket object.key with
      | .error reason => ⟨tree, opening, .error (.download object.key reason)⟩
      | .ok reader =>
          (((transfer tree object.key destination (reader chunkSize) medium).andLog
              [.call (.release object.key)]).after opening).andThen fun written size =>
            ⟨written, [.log (.downloadFinished object.key size (times object.key))],
              .ok ⟨object.key, destination, size⟩⟩

def stageObjects (store : Store) (times : DownloadTimes) (bucket : String)
    (inputDirectory : Path) (ignoreManifests : Bool) (tree : FileTree) (objects : List ObjectRef)
    (medium : Medium) : Activity StagingError StagingSummary :=
  match objects with
  | [] => .done tree {}
  | object :: others =>
      match treatment ignoreManifests object.key with
      | .skip =>
          ((stageObjects store times bucket inputDirectory ignoreManifests tree others medium).map
            (StagingSummary.skip object.key)).after [.log (.objectSkipped object.key)]
      | .marker =>
          (stageObjects store times bucket inputDirectory ignoreManifests tree others medium).after
            [.log (.markerSkipped object.key)]
      | .stage =>
          (stageObject store times bucket inputDirectory tree object medium).andThen
            fun left staged =>
              (stageObjects store times bucket inputDirectory ignoreManifests left others
                medium).map (StagingSummary.stage staged)

/-- A payload brought into an input directory. -/
def stagePayload (store : Store) (times : DownloadTimes) (bucket payloadId : String)
    (inputDirectory : Path) (ignoreManifests : Bool) (tree : FileTree)
    (medium : Medium) : Activity StagingError StagingSummary :=
  let listing : List Entry := [.call (.list bucket payloadId)]
  match store.list bucket payloadId with
  | .error reason => ⟨tree, listing, .error (.listing payloadId reason)⟩
  | .ok objects =>
      ((stageObjects store times bucket inputDirectory ignoreManifests tree objects medium).after
        listing).andThen fun staged summary =>
          ⟨staged,
            [.log (.payloadStaged payloadId summary.staged.length summary.skipped.length
              summary.bytesWritten)],
            .ok summary⟩

end Staging
end Stagehand
