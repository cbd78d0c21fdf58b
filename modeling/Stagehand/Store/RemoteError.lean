import Stagehand.Store.Error

/-! # Answers of a remote store that are failures

The program tells only one of them apart from the others: that an object is not there.
-/

set_option autoImplicit false

namespace Stagehand

/-- A failure that a remote store reports. -/
inductive RemoteError where
  | generic (source : String)
  | notFound (path source : String)
  | notSupported (source : String)
  | alreadyExists (path source : String)
  | precondition (path source : String)
  | notModified (path source : String)
  | notImplemented
  | permissionDenied (path source : String)
  | unauthenticated (path source : String)
deriving DecidableEq, Inhabited, Repr

namespace RemoteError

def message : RemoteError → String
  | .generic source => s!"Generic S3 error: {source}"
  | .notFound path source => s!"Object at location {path} not found: {source}"
  | .notSupported source => s!"Operation not supported: {source}"
  | .alreadyExists path source => s!"Object at location {path} already exists: {source}"
  | .precondition path source => s!"Request precondition failure for path {path}: {source}"
  | .notModified path source => s!"Object at location {path} not modified: {source}"
  | .notImplemented => "Operation not yet implemented."
  | .permissionDenied path source =>
      "The operation lacked the necessary privileges to complete for path " ++
      s!"{path}: {source}"
  | .unauthenticated path source =>
      "The operation lacked valid authentication credentials for path " ++
      s!"{path}: {source}"

/-- What a failure means for the object or the listing that was asked for. -/
def toStoreError (bucket key : String) : RemoteError → StoreError
  | .notFound _ _ => .objectNotFound bucket key
  | failure => .backend failure.message

/-- What the first entry of a bucket's listing says about the bucket. -/
def bucketFound : Option RemoteError → Except StoreError Bool
  | none => .ok true
  | some (.notFound _ _) => .ok false
  | some failure => .error (.backend failure.message)

end RemoteError
end Stagehand
