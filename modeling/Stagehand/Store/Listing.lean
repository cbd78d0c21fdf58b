import Stagehand.Store.Basic
import Stagehand.Store.ObjectPath
import Stagehand.Store.RemoteError

/-! # Listing by the start of a key

A remote store lists what is below a path, by whole segments.  What is wanted is every object whose
key starts with a text, so the listing is taken below the last complete segment of the text and the
rest is compared here.
-/

set_option autoImplicit false

namespace Stagehand

/-- A store that lists what is below a path, or everything. -/
abbrev SegmentListing := Option ObjectPath → Except RemoteError (List ObjectRef)

def beforeLastSlash? (text : String) : Option String :=
  match (Path.segments text.toList).dropLast with
  | [] => none
  | pieces => some (String.ofList (Path.joinSegments pieces))

/-- The path to list below, for keys that start with a text: none if the text has no complete
segment. -/
def listingParent? (startingWith : String) : Option ObjectPath :=
  match beforeLastSlash? startingWith with
  | none => none
  | some parent => if parent.isEmpty then none else some (.ofText parent)

/-- The objects whose keys start with a text. -/
def listStartingWith (listing : SegmentListing) (startingWith : String) :
    Except RemoteError (List ObjectRef) :=
  (listing (listingParent? startingWith)).map fun objects =>
    objects.filter fun object => startingWith.toList.isPrefixOf object.key.toList

/-- The objects of a store held in memory, each path once, in the order of the paths. -/
structure Shelf where
  objects : List (ObjectPath × Nat) := []
deriving Inhabited, Repr

namespace Shelf

def insert (path : ObjectPath) (size : Nat) :
    List (ObjectPath × Nat) → List (ObjectPath × Nat)
  | [] => [(path, size)]
  | entry :: others =>
      if path.raw = entry.1.raw then (path, size) :: others
      else if path.raw < entry.1.raw then (path, size) :: entry :: others
      else entry :: insert path size others

def put (shelf : Shelf) (path : ObjectPath) (size : Nat) : Shelf :=
  ⟨insert path size shelf.objects⟩

/-- What the shelf lists below a path; everything is below the empty path. -/
def listing (shelf : Shelf) : SegmentListing := fun parent =>
  .ok ((shelf.objects.filter fun entry => (parent.getD ⟨""⟩).isAbove entry.1).map
    fun entry => ⟨entry.1.raw, entry.2⟩)

end Shelf
end Stagehand
