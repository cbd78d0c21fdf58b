import Stagehand.Store.ChunkReader
import Stagehand.Store.Listing

/-! # Remote stores

A remote store is reached bucket by bucket.  It lists what is below a path and opens an object by its
path, so a key has to be read as a path first; the object then arrives in parts.
-/

set_option autoImplicit false

namespace Stagehand

/-- A bucket of a remote store. -/
structure RemoteBucket where
  listing : SegmentListing
  /-- The object at a path, in the parts in which the network hands it out. -/
  opening : ObjectPath → Except RemoteError (List Part)

/-- The buckets of a remote store; one that cannot be reached says why. -/
abbrev RemoteStore := String → Except StoreError RemoteBucket

namespace RemoteBucket

def list (there : RemoteBucket) (bucket startingWith : String) :
    Except StoreError (List ObjectRef) :=
  (listStartingWith there.listing startingWith).mapError
    (RemoteError.toStoreError bucket startingWith)

/-- The object that a key denotes; a key that is no path is refused before anything is asked. -/
def get (there : RemoteBucket) (bucket key : String) : Except StoreError (Nat → Download) :=
  match ObjectPath.parse key with
  | .error refusal => .error (.backend (refusal.message key))
  | .ok path =>
      match there.opening path with
      | .error failure => .error (failure.toStoreError bucket key)
      | .ok parts => .ok (ChunkReader.ofParts parts).download

end RemoteBucket

def RemoteStore.toStore (remote : RemoteStore) : Store where
  list bucket startingWith := (remote bucket).bind fun there => there.list bucket startingWith
  get bucket key := (remote bucket).bind fun there => there.get bucket key

end Stagehand
