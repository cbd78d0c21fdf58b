/-! # Failures of an object store -/

set_option autoImplicit false

namespace Stagehand

/-- Why an object store did not answer. -/
inductive StoreError where
  | objectNotFound (bucket key : String)
  | bucketNotFound (bucket : String)
  | configuration (detail : String)
  | backend (detail : String)
deriving DecidableEq, Inhabited, Repr

/-- The failure in words. -/
def StoreError.message : StoreError → String
  | .objectNotFound bucket key => s!"Object '{key}' not found in bucket '{bucket}'"
  | .bucketNotFound bucket => s!"Bucket '{bucket}' does not exist"
  | .configuration detail => s!"Object store configuration error: {detail}"
  | .backend detail => s!"Object store error: {detail}"

end Stagehand
