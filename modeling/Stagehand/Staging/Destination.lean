import Stagehand.Path

/-! # Where an object goes

An object's key is its path below the input directory.  A key is taken only if each of its components
is a name, so that none leads up, to the root, or nowhere.
-/

set_option autoImplicit false

namespace Stagehand

/-- A component that leads one directory down. -/
def Path.Component.isName : Path.Component → Bool
  | .name _ => true
  | _ => false

/-- A key that leads to something below any directory it is joined to. -/
def isSafeKey (key : String) : Bool :=
  !key.isEmpty && (Path.mk key).components.all Path.Component.isName

/-- The place of an object in the input directory; none for a key that could lead out of it. -/
def destination? (inputDirectory : Path) (key : String) : Option Path :=
  if isSafeKey key then some (inputDirectory.join key) else none

end Stagehand
