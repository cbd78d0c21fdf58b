import Stagehand.FileTree.Resolve
import Stagehand.Text.Decoded

/-! # Changes to a file tree

Each change is one call of the operating system, or a short sequence of them, and leaves the tree
alone when it fails at once.
-/

set_option autoImplicit false

namespace Stagehand.FileTree

/-- A new directory in a directory that is there. -/
def makeDirectory (tree : FileTree) (path : Path) : Except SystemError FileTree :=
  match tree.resolve .entry path with
  | .error failure => .error failure
  | .ok (.taken _ _) => .error .exists_
  | .ok (.free location) => .ok (tree.put location .directory)

theorem makeDirectory_eq_ok_iff {tree after : FileTree} {path : Path} :
    tree.makeDirectory path = .ok after ↔
      ∃ location, tree.resolve .entry path = .ok (.free location) ∧
        after = tree.put location .directory := by
  unfold makeDirectory
  rcases tree.resolve .entry path with failure | ⟨location, node⟩ | location <;> simp [eq_comm]

/-- A tree after a change that may have been left half done. -/
abbrev Changed := FileTree × Except SystemError Unit

/-- The directory at the head of the list, where those that follow are its parents, nearest first.
A missing parent is made first; a directory that is there already is as good as a new one. -/
def makeAll (tree : FileTree) : List Path → Changed
  | [] => (tree, .error (.other "failed to create whole tree"))
  | path :: parents =>
      if path.text.isEmpty then (tree, .ok ())
      else
        match tree.makeDirectory path with
        | .ok made => (made, .ok ())
        | .error failure =>
            if failure ≠ .missing then
              (tree, if tree.isDirectory path then .ok () else .error failure)
            else
              match makeAll tree parents with
              | (before, .error deeper) => (before, .error deeper)
              | (before, .ok ()) =>
                  match before.makeDirectory path with
                  | .ok made => (made, .ok ())
                  | .error again =>
                      (before, if before.isDirectory path then .ok () else .error again)

/-- A directory together with the parents that are missing. -/
def makeDirectories (tree : FileTree) (path : Path) : Changed :=
  tree.makeAll path.ancestors

/-- An empty file, new or in place of what the file at the path held, with its location. -/
def createFile (tree : FileTree) (path : Path) : Except SystemError (Location × FileTree) :=
  match tree.resolve .write path with
  | .error failure => .error failure
  | .ok (.taken location (.file _)) => .ok (location, tree.put location (.file []))
  | .ok (.taken _ _) => .error .isDirectory
  | .ok (.free location) => .ok (location, tree.put location (.file []))

def writeFile (tree : FileTree) (path : Path) (content : Bytes) : Except SystemError FileTree :=
  match tree.createFile path with
  | .error failure => .error failure
  | .ok (location, created) => .ok (created.put location (.file content))

def readFile (tree : FileTree) (path : Path) : Except SystemError Bytes :=
  match tree.find path with
  | .error failure => .error failure
  | .ok (_, .file content) => .ok content
  | .ok (_, _) => .error .isDirectory

def readText (tree : FileTree) (path : Path) : Except SystemError String :=
  match tree.readFile path with
  | .error failure => .error failure
  | .ok content =>
      match Text.decode? content with
      | none => .error .notText
      | some text => .ok text

/-- A new symbolic link.  A slash at the end of its path asks for a directory, which it is not. -/
def makeLink (tree : FileTree) (target : String) (path : Path) : Except SystemError FileTree :=
  if target.toList.contains '\x00' then .error .nulInPath
  else if target.isEmpty then .error .missing
  else if pathLimit ≤ target.utf8ByteSize then .error .nameTooLong
  else
    match tree.resolve .entry path with
    | .error failure => .error failure
    | .ok (.taken _ _) => .error .exists_
    | .ok (.free location) =>
        if path.text.toList.getLast? = some '/' then .error .missing
        else .ok (tree.put location (.link target))

/-- The tree without the entry at a path, and without what lies below it.  Only a directory can be
named with a slash at the end. -/
def remove (tree : FileTree) (path : Path) : Except SystemError FileTree :=
  match tree.resolve .entry path with
  | .error failure => .error failure
  | .ok (.free _) => .error .missing
  | .ok (.taken location .directory) => .ok (tree.cut location)
  | .ok (.taken location _) =>
      if path.text.toList.getLast? = some '/' then .error .throughFile
      else .ok (tree.cut location)

/-- A step that a script takes in the file tree; when it fails it does nothing more. -/
inductive Step where
  | makeDirectories (path : Path)
  | write (path : Path) (content : Bytes)
  | link (target : String) (path : Path)
  | remove (path : Path)
deriving Inhabited, Repr

def apply (tree : FileTree) : Step → FileTree
  | .makeDirectories path => (tree.makeDirectories path).1
  | .write path content => (tree.writeFile path content).toOption.getD tree
  | .link target path => (tree.makeLink target path).toOption.getD tree
  | .remove path => (tree.remove path).toOption.getD tree

def applyAll (tree : FileTree) (steps : List Step) : FileTree :=
  steps.foldl apply tree

end Stagehand.FileTree
