import Stagehand.FileTree.Resolve
import Stagehand.Process.ExitStatus

/-! # Starting a program

A command with a slash in it is a path; any other is looked for in the directories of the search
path.  A directory and a file that is no program may not be run, and the search goes on past them.
-/

set_option autoImplicit false

namespace Stagehand

/-- A program, by how it ends on a list of arguments. -/
abbrev Program := List String → ExitStatus

/-- A machine that can start programs: its files, the directories to search, and which files are
programs. -/
structure Host where
  files : FileTree
  searchPath : List Path
  program? : Location → Option Program

namespace Host

/-- The longest argument that a program can be given, in bytes. -/
def argumentLimit : Nat := 131071

def programAt (host : Host) (path : Path) : Except SystemError Program :=
  match host.files.find path with
  | .error failure => .error failure
  | .ok (location, .file _) =>
      match host.program? location with
      | some program => .ok program
      | none => .error .notPermitted
  | .ok _ => .error .notPermitted

/-- The first program of a name in some directories.  `otherwise` is the failure if there is none. -/
def search (host : Host) (name : String) (otherwise : SystemError) :
    List Path → Except SystemError Program
  | [] => .error otherwise
  | directory :: others =>
      match host.programAt (directory.join name) with
      | .ok program => .ok program
      | .error failure =>
          if failure = .notPermitted then search host name .notPermitted others
          else if failure = .missing ∨ failure = .throughFile then
            search host name otherwise others
          else .error failure

def findProgram (host : Host) (command : String) : Except SystemError Program :=
  if command.isEmpty then .error .missing
  else if command.toList.contains '/' then host.programAt ⟨command⟩
  else host.search command .missing host.searchPath

def launch (host : Host) (command : String) (arguments : List String) :
    Except SystemError ExitStatus :=
  if (command :: arguments).any fun word => word.toList.contains '\x00' then
    .error .nulInArgument
  else if arguments.any fun word => argumentLimit < word.utf8ByteSize then
    .error .argumentsTooLong
  else (host.findProgram command).map fun program => program arguments

end Host
end Stagehand
