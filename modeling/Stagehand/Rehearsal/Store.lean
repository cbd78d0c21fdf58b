import Stagehand.Store.Basic
import Stagehand.Store.ChunkReader

/-! # A store that follows a script

The store has one bucket with its objects in a fixed order, and fails where its script says so.
-/

set_option autoImplicit false

namespace Stagehand.Rehearsal

structure ScriptedObject where
  key : String
  content : Bytes
  /-- The size that listings show, if not the right one. -/
  listedSize : Option Nat := none
  openFault : Option StoreError := none
  /-- A failure after the content, or in place of the last part. -/
  readFault : Option String := none
  /-- The sizes of the parts in which the network hands the object out. -/
  partSizes : Option (List Nat) := none
deriving Inhabited, Repr

/-- A bucket with its objects, and a failure of its listing if it has one. -/
structure ScriptedStore where
  bucket : String
  objects : List ScriptedObject
  listFault : Option StoreError := none
deriving Inhabited, Repr

/-- The content cut into chunks of a size, at most `bound` of them. -/
def chunksUpTo (size : Nat) : Nat → Bytes → List Bytes
  | 0, _ => []
  | _ + 1, [] => []
  | bound + 1, content => content.take size :: chunksUpTo size bound (content.drop size)

/-- The content cut into parts of given sizes, and what is left after them. -/
def cutInto : List Nat → Bytes → List Bytes × Bytes
  | [], content => ([], content)
  | size :: sizes, content =>
      let (later, left) := cutInto sizes (content.drop size)
      (content.take size :: later, left)

namespace ScriptedObject

/-- The parts of an object that is handed out by the network. -/
def parts (object : ScriptedObject) (sizes : List Nat) : List Part :=
  let (pieces, left) := cutInto sizes object.content
  let last : Part :=
    match object.readFault with
    | none => .content left
    | some text => .fault (.generic text)
  pieces.map Part.content ++ [last]

def read (object : ScriptedObject) (size : Nat) : Download :=
  match object.partSizes with
  | some sizes => (ChunkReader.ofParts (object.parts sizes)).download size
  | none =>
      { chunks := chunksUpTo size object.content.length object.content
        fault := object.readFault.map StoreError.backend }

def ref (object : ScriptedObject) : ObjectRef :=
  ⟨object.key, object.listedSize.getD object.content.length⟩

end ScriptedObject

namespace ScriptedStore

def list (store : ScriptedStore) (bucket startingWith : String) :
    Except StoreError (List ObjectRef) :=
  if bucket ≠ store.bucket then .error (.bucketNotFound bucket)
  else
    match store.listFault with
    | some fault => .error fault
    | none =>
        .ok ((store.objects.filter fun object =>
          startingWith.toList.isPrefixOf object.key.toList).map ScriptedObject.ref)

/-- The first object with a key. -/
def get (store : ScriptedStore) (bucket key : String) : Except StoreError (Nat → Download) :=
  if bucket ≠ store.bucket then .error (.bucketNotFound bucket)
  else
    match store.objects.find? fun object => object.key = key with
    | none => .error (.objectNotFound bucket key)
    | some object =>
        match object.openFault with
        | some fault => .error fault
        | none => .ok object.read

def toStore (store : ScriptedStore) : Store := ⟨store.list, store.get⟩

end ScriptedStore
end Stagehand.Rehearsal
