import Stagehand.FileTree.Basic
import Stagehand.Store.Error

/-! # Object stores

A store lists the objects of a bucket whose keys start with a text, and opens an object by its key.
An open object is read in chunks of a size that the reader chooses, until it ends or fails.
-/

set_option autoImplicit false

namespace Stagehand

structure ObjectRef where
  key : String
  size : Nat
deriving DecidableEq, Inhabited, Repr

/-- What an object gives when it is read to its end: its chunks, and the failure that cuts it short
if there is one. -/
structure Download where
  chunks : List Bytes
  fault : Option StoreError
deriving DecidableEq, Inhabited, Repr

namespace Download

def content (download : Download) : Bytes :=
  download.chunks.flatten

def size (download : Download) : Nat :=
  (download.chunks.map List.length).foldr (· + ·) 0

theorem length_content (download : Download) : download.content.length = download.size := by
  simp [content, size, List.length_flatten, List.sum_eq_foldr]

end Download

/-- A store that can be listed and read. -/
structure Store where
  /-- The objects of a bucket whose keys start with a text, in the order of the store. -/
  list : (bucket startingWith : String) → Except StoreError (List ObjectRef)
  /-- An object, ready to be read in chunks of a given size. -/
  get : (bucket key : String) → Except StoreError (Nat → Download)

end Stagehand
