import Stagehand.CommandLine.Similarity
import Stagehand.Config.Basic

/-! # The command line

The program takes two options with a value and two that only show something.  An option with a value
is written with a hyphen and a letter or with two hyphens and a word, and the value follows it, behind
an equals sign or as the next argument.  The first fault ends the reading; a value that is an argument
of its own is judged only when the next option or the end is reached.
-/

set_option autoImplicit false

namespace Stagehand.CommandLine

inductive Setting where
  | config
  | logLevel
deriving DecidableEq, Inhabited, Repr

def Setting.word : Setting → String
  | .config => "config"
  | .logLevel => "log-level"

def Setting.usage : Setting → String
  | .config => "--config <CONFIG>"
  | .logLevel => "--log-level <LOG_LEVEL>"

def anySetting : String :=
  s!"<{Setting.config.usage}|{Setting.logLevel.usage}>"

/-- The options given so far, in order, with their values. -/
abbrev Given := List (Setting × String)

/-- The option read last, with its value if that was the next argument.  It is taken up only when
another option or the end of the arguments follows. -/
structure Pending where
  setting : Setting
  value : Option String
deriving DecidableEq, Inhabited, Repr

/-- What is wrong with a command line. -/
inductive UsageError where
  /-- An argument that means nothing here; perhaps another was meant.  The options given before it
  are named in the usage. -/
  | unexpectedArgument (argument : String) (meant : Option String) (used : List String)
  | missingValue (setting : Setting)
  | repeated (setting : Setting)
  /-- An option without a value that has one, after others were given or not. -/
  | unwantedValue (value option : String) (afterOthers : Bool)
deriving DecidableEq, Inhabited, Repr

inductive Request where
  | start (configPath : Path) (logLevel : String)
  | showHelp
  | showVersion
  | refused (reason : UsageError)
deriving DecidableEq, Inhabited, Repr

def programName : String := "workflow-dispatcher"

def version : String := "0.1.0"

def versionText : String := s!"{programName} {version}\n"

def helpText : String :=
  "Consume workflow requests from the message bus, stage their payloads and run the requested " ++
  "workflows\n\n" ++
  s!"Usage: {programName} [OPTIONS]\n\n" ++
  "Options:\n" ++
  "  -c, --config <CONFIG>        Path to the YAML or JSON configuration file " ++
  s!"[default: {Config.defaultPath}]\n" ++
  "      --log-level <LOG_LEVEL>  Default log level when RUST_LOG is not set [default: info]\n" ++
  "  -h, --help                   Print help\n" ++
  "  -V, --version                Print version\n"

def usageLine (used : List String) : String :=
  let shown := if used = [] then ["[OPTIONS]"] else used
  s!"Usage: {programName} " ++ String.intercalate " " shown ++ "\n"

def UsageError.text (failure : UsageError) : String :=
  let body :=
    match failure with
    | .unexpectedArgument argument meant used =>
        let tip :=
          match meant with
          | none => ""
          | some word => s!"  tip: a similar argument exists: '--{word}'\n\n"
        s!"unexpected argument '{argument}' found\n\n" ++ tip ++ usageLine used
    | .missingValue setting =>
        s!"a value is required for '{setting.usage}' but none was supplied\n"
    | .repeated setting =>
        s!"the argument '{setting.usage}' cannot be used multiple times\n\n" ++ usageLine []
    | .unwantedValue value option afterOthers =>
        s!"unexpected value '{value}' for '{option}' found; no more were expected\n\n" ++
          usageLine (option :: if afterOthers then [anySetting] else [])
  "error: " ++ body ++ "\nFor more information, try '--help'.\n"

/-- The words that follow two hyphens. -/
def words : List String := ["config", "log-level", "help", "version"]

def usageOf (word : String) : String :=
  if word = "config" then Setting.config.usage
  else if word = "log-level" then Setting.logLevel.usage
  else "--" ++ word

/-- One more option given with its value: an option counts once, and a file has a name. -/
def give (given : Given) (setting : Setting) (value : String) : Except UsageError Given :=
  if given.any fun entry => entry.1 = setting then .error (.repeated setting)
  else if setting = .config ∧ value.isEmpty then .error (.missingValue setting)
  else .ok (given ++ [(setting, value)])

/-- The options given once the pending one is taken up. -/
def settle (given : Given) : Option Pending → Except UsageError Given
  | none => .ok given
  | some ⟨setting, none⟩ => .error (.missingValue setting)
  | some ⟨setting, some value⟩ => give given setting value

/-- The options that a usage names, the pending one among them if it has a value; one that was given
before then drops out. -/
def named (given : Given) : Option Pending → List Setting
  | some ⟨setting, some _⟩ =>
      let settings := given.map Prod.fst
      if setting ∈ settings then settings.filter (· ≠ setting) else settings ++ [setting]
  | _ => given.map Prod.fst

def valueOr (given : Given) (setting : Setting) (default : String) : String :=
  (given.lookup setting).getD default

def startWith (given : Given) : Request :=
  .start ⟨valueOr given .config Config.defaultPath⟩ (valueOr given .logLevel "info")

/-- A word and the value behind its equals sign, if it has one. -/
def splitValue : List Char → List Char × Option (List Char)
  | [] => ([], none)
  | '=' :: rest => ([], some rest)
  | c :: rest =>
      let later := splitValue rest
      (c :: later.1, later.2)

inductive Form where
  | word (name : String) (value : Option String)
  | letters (letters : List Char)
  | ending
  | other
deriving DecidableEq, Inhabited, Repr

def formOf (argument : String) : Form :=
  match argument.toList with
  | ['-', '-'] => .ending
  | '-' :: '-' :: rest =>
      let split := splitValue rest
      .word (String.ofList split.1) (split.2.map String.ofList)
  | ['-'] => .other
  | '-' :: rest => .letters rest
  | _ => .other

/-- What one argument comes to: the reading is over, or it goes on, perhaps with an option pending. -/
inductive Outcome where
  | over (request : Request)
  | next (given : Given) (pending : Option Pending)
deriving DecidableEq, Inhabited, Repr

/-- The pending option taken up before the next step. -/
def afterSettling (given : Given) (pending : Option Pending) (step : Given → Outcome) : Outcome :=
  match settle given pending with
  | .error reason => .over (.refused reason)
  | .ok settled => step settled

/-- An option with its value in the same argument. -/
def attach (given : Given) (pending : Option Pending) (setting : Setting) (value : String) :
    Outcome :=
  afterSettling given pending fun settled =>
    match give settled setting value with
    | .error reason => .over (.refused reason)
    | .ok later => .next later none

/-- An option whose value would be the next argument. -/
def await (given : Given) (pending : Option Pending) (setting : Setting) : Outcome :=
  afterSettling given pending fun settled => .next settled (some ⟨setting, none⟩)

/-- An option that only shows something. -/
def display (given : Given) (pending : Option Pending) (request : Request) : Outcome :=
  afterSettling given pending fun _ => .over request

/-- A word that is no option; the usage names the one that was perhaps meant too. -/
def unknownWord (given : Given) (pending : Option Pending) (name : String) : UsageError :=
  let meant := Similarity.closest? name words
  let used := (named given pending).map Setting.usage
  let shown :=
    match meant.map usageOf with
    | none => used
    | some usage => if usage ∈ used then used else used ++ [usage]
  .unexpectedArgument ("--" ++ name) meant shown

def readWord (given : Given) (pending : Option Pending) (name : String) (value : Option String) :
    Outcome :=
  let setting :=
    if name = "config" then some Setting.config
    else if name = "log-level" then some Setting.logLevel
    else none
  match setting, value with
  | some setting, some text => attach given pending setting text
  | some setting, none => await given pending setting
  | none, _ =>
      if name = "help" ∨ name = "version" then
        match value with
        | some text => .over (.refused (.unwantedValue text ("--" ++ name) !given.isEmpty))
        | none => display given pending (if name = "help" then .showHelp else .showVersion)
      else .over (.refused (unknownWord given pending name))

def readLetters (given : Given) (pending : Option Pending) : List Char → Outcome
  | [] => .next given pending
  | 'h' :: _ => display given pending .showHelp
  | 'V' :: _ => display given pending .showVersion
  | 'c' :: [] => await given pending .config
  | 'c' :: '=' :: value => attach given pending .config (String.ofList value)
  | 'c' :: value => attach given pending .config (String.ofList value)
  | c :: _ => .over (.refused (.unexpectedArgument (String.ofList ['-', c]) none []))

/-- What an argument that is neither an option nor a value comes to. -/
def refuse (argument : String) : Request :=
  .refused (.unexpectedArgument argument none [])

def close (given : Given) (pending : Option Pending) : Request :=
  match settle given pending with
  | .error reason => .refused reason
  | .ok settled => startWith settled

def read : Given → Option Pending → List String → Request
  | given, pending, [] => close given pending
  | given, pending, argument :: rest =>
      match formOf argument with
      | .ending =>
          match rest with
          | [] => close given pending
          | positional :: _ => refuse positional
      | .other =>
          match pending with
          | some ⟨setting, none⟩ => read given (some ⟨setting, some argument⟩) rest
          | _ => refuse argument
      | .word name value =>
          match readWord given pending name value with
          | .over request => request
          | .next later awaited => read later awaited rest
      | .letters letters =>
          match readLetters given pending letters with
          | .over request => request
          | .next later awaited => read later awaited rest

/-- What a command line asks for. -/
def parse (arguments : List String) : Request :=
  read [] none arguments

end Stagehand.CommandLine
