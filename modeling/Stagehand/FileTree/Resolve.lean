import Stagehand.FileTree.Basic
import Stagehand.Path
import Stagehand.SystemError

/-! # Where a path leads

A path is followed name by name from the root or from the working directory.  Every name but the
last has to lead to a directory, directly or through symbolic links; at most forty links are
followed.  The last name may be missing, which leaves a free spot for something new, and whether a
link that stands there is followed depends on what the path is wanted for.
-/

set_option autoImplicit false

namespace Stagehand

/-- The end of a path: something that is there, or a free place in a directory. -/
inductive Spot where
  | taken (location : Location) (node : Node)
  | free (location : Location)
deriving DecidableEq, Inhabited, Repr

/-- What a path is wanted for, which decides how its last name is read. -/
inductive Purpose where
  /-- To look at what it leads to: a link at the end is followed. -/
  | look
  /-- To change the directory it stands in: a link at the end is taken as it is. -/
  | entry
  /-- To open a file for writing: a link is followed and a slash at the end is refused. -/
  | write
deriving DecidableEq, Inhabited, Repr

namespace FileTree

def nameLimit : Nat := 255

/-- A path of this many bytes or more is refused. -/
def pathLimit : Nat := 4096

/-- The most symbolic links that one path may lead through. -/
def linkLimit : Nat := 40

/-- The names of a path without the empty ones; a slash at the end leaves an empty last name. -/
def stepNames (text : String) : List String :=
  let pieces := Path.segments text.toList
  (pieces.dropLast.filter (· ≠ []) ++ pieces.getLast?.toList).map String.ofList

/-- The place where a path starts. -/
def startOf (text : String) (here : Location) : Location :=
  if (Path.mk text).isAbsolute then [] else here

def look (tree : FileTree) (here : Location) (name : String) : Except SystemError (Option Node) :=
  if nameLimit < name.utf8ByteSize then .error .nameTooLong
  else .ok (tree.at? (here ++ [name]))

/-- The end of a path, read from its last name. -/
def lastStep (tree : FileTree) (purpose : Purpose)
    (onLink : Location → List String → Except SystemError Spot) (here : Location) (name : String) :
    Except SystemError Spot :=
  if name = "" ∨ name = "." then .ok (.taken here .directory)
  else if name = ".." then .ok (.taken here.dropLast .directory)
  else
    match tree.look here name with
    | .error failure => .error failure
    | .ok none => .ok (.free (here ++ [name]))
    | .ok (some (.link target)) =>
        if purpose = .entry then .ok (.taken (here ++ [name]) (.link target))
        else onLink (startOf target here) (stepNames target)
    | .ok (some node) => .ok (.taken (here ++ [name]) node)

/-- The names of a path followed one after the other.  At a link the rest of the way goes through
its target, as `onLink` says. -/
def followWith (tree : FileTree) (purpose : Purpose)
    (onLink : Location → List String → Except SystemError Spot) :
    Location → List String → Except SystemError Spot
  | here, [] => .ok (.taken here .directory)
  | here, [name] => tree.lastStep purpose onLink here name
  | here, name :: next :: rest =>
      if name = "" ∨ name = "." then followWith tree purpose onLink here (next :: rest)
      else if name = ".." then followWith tree purpose onLink here.dropLast (next :: rest)
      else if purpose = .write ∧ next = "" ∧ rest = [] then .error .isDirectory
      else
        match tree.look here name with
        | .error failure => .error failure
        | .ok none => .error .missing
        | .ok (some .directory) =>
            followWith tree purpose onLink (here ++ [name]) (next :: rest)
        | .ok (some (.file _)) => .error .throughFile
        | .ok (some (.link target)) =>
            onLink (startOf target here) (stepNames target ++ next :: rest)

/-- The names of a path followed through at most `links` symbolic links. -/
def follow (tree : FileTree) (purpose : Purpose) :
    Nat → Location → List String → Except SystemError Spot
  | 0 => tree.followWith purpose fun _ _ => .error .tooManyLinks
  | links + 1 => tree.followWith purpose (follow tree purpose links)

/-- The names to follow for a path: a slash at the end of a new entry says nothing. -/
def namesFor (purpose : Purpose) (text : String) : List String :=
  let names := stepNames text
  if purpose = .entry ∧ names.getLast? = some "" then names.dropLast else names

def resolve (tree : FileTree) (purpose : Purpose) (path : Path) : Except SystemError Spot :=
  if path.text.toList.contains '\x00' then .error .nulInPath
  else if path.text.isEmpty then .error .missing
  else if pathLimit ≤ path.text.utf8ByteSize then .error .nameTooLong
  else
    tree.follow purpose linkLimit (startOf path.text tree.workingDirectory)
      (namesFor purpose path.text)

/-- What a path leads to, links followed. -/
def find (tree : FileTree) (path : Path) : Except SystemError (Location × Node) :=
  match tree.resolve .look path with
  | .error failure => .error failure
  | .ok (.free _) => .error .missing
  | .ok (.taken location node) => .ok (location, node)

def isDirectory (tree : FileTree) (path : Path) : Bool :=
  match tree.find path with
  | .ok (_, .directory) => true
  | _ => false

end FileTree
end Stagehand
