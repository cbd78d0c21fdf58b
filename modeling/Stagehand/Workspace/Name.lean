import Stagehand.Text.Alphanumeric

/-! # Names that can name a directory

A workflow's output directory is named after the workflow, with a hyphen in place of every character
that has no business in a file name.  The hyphen is such a character's only replacement, so a name
never gains a slash; what remains to refuse is the empty name and the two that mean a directory
already.
-/

set_option autoImplicit false

namespace Stagehand

/-- A character that a directory's name keeps: alphanumeric, or one of four others. -/
def isTokenChar (c : Char) : Bool :=
  Text.isAlphanumeric c || c = '_' || c = '-' || c = '.' || c = ' '

/-- The directory name made from a workflow's name. -/
def directoryToken (workflow : String) : String :=
  String.ofList (workflow.toList.map fun c => if isTokenChar c then c else '-')

/-- A name for a single directory, which leads neither up nor down. -/
def isDirectoryName (name : String) : Bool :=
  !name.isEmpty && name ≠ "." && name ≠ ".." &&
    !name.toList.any fun c => c = '/' || c = '\\' || c = '\x00'

/-- The workflow's name makes a directory name. -/
def hasOutputDirectory (workflow : String) : Bool :=
  isDirectoryName (directoryToken workflow)

theorem toList_directoryToken (workflow : String) :
    (directoryToken workflow).toList =
      workflow.toList.map fun c => if isTokenChar c then c else '-' := by
  simp [directoryToken]

theorem length_directoryToken (workflow : String) :
    (directoryToken workflow).length = workflow.length := by
  rw [← String.length_toList, toList_directoryToken, List.length_map, String.length_toList]

end Stagehand
