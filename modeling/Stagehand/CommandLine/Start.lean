import Stagehand.CommandLine.Arguments
import Stagehand.Config.File
import Stagehand.Journal.Filter
import Stagehand.Workspace.Ensure

/-! # Starting the program

Before the first delivery the program sets its log filter, reads its configuration and makes its
working directory ready.  It tells which directives of the filter it leaves out.  If either of the
other steps fails it says why, with the failures behind the failure, and ends.
-/

set_option autoImplicit false

namespace Stagehand.CommandLine

structure Ending where
  code : UInt8
  output : String := ""
  errors : String := ""
deriving DecidableEq, Inhabited, Repr

/-- A line of a report and the lines after it, set in by some spaces. -/
def setIn (spaces : String) (text : String) : String :=
  String.join (text.toList.map fun c => if c = '\n' then "\n" ++ spaces else c.toString)

/-- The causes of a failure, each on a line of its own; several are numbered. -/
def causeLines (causes : List String) : String :=
  match causes with
  | [cause] => "\n    " ++ setIn "    " cause
  | _ =>
      String.join ((causes.zipIdx).map fun entry =>
        s!"\n    {entry.2}: " ++ setIn "       " entry.1)

def report (failure : String) (causes : List String) : String :=
  s!"Error: {failure}\n\nCaused by:" ++ causeLines causes ++ "\n"

def failing (failure : String) (causes : List String) : Ending :=
  { code := 1, errors := report failure causes }

structure Files (m : Type → Type) where
  read : Path → m (Except SystemError Bytes)
  ensureDirectory : (purpose : String) → Path → m (Except WorkspaceError Unit)

def prepare {m : Type → Type} [Monad m] (files : Files m) (wording : String → String)
    (configPath : Path) : m (Except Ending Config) := do
  let content ← files.read configPath
  match (Config.ofContent wording configPath content).bind Config.validated with
  | .error reason =>
      return .error (failing s!"Failed to load configuration from {configPath.text}"
        (reason.message :: reason.causes))
  | .ok config =>
      match ← files.ensureDirectory "working" config.workingDirectory with
      | .error reason =>
          return .error (failing "Failed to prepare the working directory"
            (reason.message :: reason.causes))
      | .ok () => return .ok config

/-- How the program starts: what it tells about its log filter, and then the end it comes to or the
configuration it works with. -/
structure Beginning where
  notices : String := ""
  outcome : Except Ending Config

/-- The program up to the point where it would turn to the object store. -/
def start {m : Type → Type} [Monad m] (files : Files m) (wording : String → String)
    (arguments : List String) : m Beginning := do
  match parse arguments with
  | .showHelp => return { outcome := .error { code := 0, output := helpText } }
  | .showVersion => return { outcome := .error { code := 0, output := versionText } }
  | .refused reason => return { outcome := .error { code := 2, errors := reason.text } }
  | .start configPath logLevel =>
      return { notices := Filter.notices logLevel, outcome := ← prepare files wording configPath }

def treeFiles : Files (StateM FileTree) where
  read path := do
    let tree ← get
    return tree.readFile path
  ensureDirectory purpose path := do
    let ensured := Stagehand.ensureDirectory (← get) purpose path
    set ensured.tree
    return ensured.outcome.map fun _ => ()

/-- How the program ends where no object store can be reached. -/
def unreachable : Ending :=
  failing "Failed to reach object store"
    [(StoreError.backend "no connection to a remote store").message]

end Stagehand.CommandLine
