import Stagehand.CommandLine.Start

/-! # The program

The outer layer reads the arguments and the files, and writes what the library says.
-/

set_option autoImplicit false

namespace Stagehand.Program

def codeOf? : IO.Error → Option UInt32
  | .alreadyExists _ code _ => some code
  | .otherError code _ => some code
  | .resourceBusy code _ => some code
  | .resourceVanished code _ => some code
  | .unsupportedOperation code _ => some code
  | .hardwareFault code _ => some code
  | .unsatisfiedConstraints code _ => some code
  | .illegalOperation code _ => some code
  | .protocolError code _ => some code
  | .timeExpired code _ => some code
  | .interrupted _ code _ => some code
  | .noFileOrDirectory _ code _ => some code
  | .invalidArgument _ code _ => some code
  | .permissionDenied _ code _ => some code
  | .resourceExhausted _ code _ => some code
  | .inappropriateType _ code _ => some code
  | .noSuchThing _ code _ => some code
  | .unexpectedEof => none
  | .userError _ => none

/-- A failure of the system by its number, which some calls give with its sign turned. -/
def failureOf (reason : IO.Error) : SystemError :=
  match codeOf? reason with
  | some code => .number code.toInt32.toInt.natAbs
  | none => .other (toString reason)

/-- A path as the system's calls take it. -/
def placeOf (path : Path) : IO.FS.DirEntry :=
  if path.isAbsolute then ⟨"/", path.text⟩ else ⟨".", path.text⟩

def readContent (path : Path) : IO (Except SystemError Bytes) := do
  match ← (IO.FS.readBinFile path.text).toBaseIO with
  | .ok content => return .ok content.data.toList
  | .error reason => return .error (failureOf reason)

/-- What is at a path: a directory or not. -/
def isDirectory (path : Path) : IO (Except SystemError Bool) := do
  match ← (placeOf path).path.metadata.toBaseIO with
  | .ok found => return .ok (found.type == .dir)
  | .error reason => return .error (failureOf reason)

/-- A new directory; one that is there already will do. -/
def makePlace (path : Path) : IO (Except SystemError Unit) := do
  match ← (IO.FS.createDir path.text).toBaseIO with
  | .ok () => return .ok ()
  | .error reason =>
      if (← isDirectory path) matches .ok true then return .ok ()
      else return .error (failureOf reason)

/-- The directory at the head of the list, where those that follow are its parents, nearest first. -/
def makePlaces : List Path → IO (Except SystemError Unit)
  | [] => return .error (.other "failed to create whole tree")
  | path :: parents => do
      if path.text.isEmpty then return .ok ()
      match ← makePlace path with
      | .ok () => return .ok ()
      | .error reason =>
          if reason ≠ .missing then return .error reason
          match ← makePlaces parents with
          | .ok () => makePlace path
          | .error deeper => return .error deeper

/-- A directory, made with its parents if there is nothing. -/
def ensurePlace (_purpose : String) (path : Path) : IO (Except WorkspaceError Unit) := do
  match ← isDirectory path with
  | .ok true => return .ok ()
  | .ok false => return .error ⟨path, .notDirectory⟩
  | .error reason =>
      if reason ≠ .missing then return .error ⟨path, reason⟩
      return (← makePlaces path.ancestors).mapError (WorkspaceError.mk path)

def machineFiles : CommandLine.Files IO where
  read := readContent
  ensureDirectory := ensurePlace

/-- What is said of a text that describes no configuration. -/
def wording (_text : String) : String := "not a configuration"

/-- What the program writes, and the code it ends with. -/
def finishWith (ending : CommandLine.Ending) : IO UInt32 := do
  (← IO.getStdout).putStr ending.output
  (← IO.getStderr).putStr ending.errors
  return ending.code.toUInt32

end Stagehand.Program

open Stagehand Stagehand.Program in
def main (arguments : List String) : IO UInt32 := do
  let beginning ← CommandLine.start machineFiles wording arguments
  (← IO.getStderr).putStr beginning.notices
  match beginning.outcome with
  | .error ending => finishWith ending
  | .ok _ => finishWith CommandLine.unreachable
