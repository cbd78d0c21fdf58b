import Stagehand.Config.Check
import Stagehand.FileTree.Change
import Stagehand.Text.Hexadecimal
import Stagehand.Yaml.Node

/-! # Configuration files

A configuration file is a YAML document, of which JSON is a part: a mapping from names to values, in
which two or three sections are mappings themselves.  Unknown fields are ignored and a known one may
be given once.  A text field takes any scalar as it is written; a flag or a number has to be written
plainly.
-/

set_option autoImplicit false

namespace Stagehand.Config

open Yaml

/-- The fields of a mapping by name, in order. -/
abbrev Fields := List (String × Yaml.Node)

def scalarText? (document : Document) (node : Yaml.Node) : Option String :=
  match document.follow node with
  | some (.scalar text _ _) => some (String.ofList text)
  | _ => none

/-- The fields of the pairs of a mapping, whose keys have to be scalars.  Those that are not known
are left out, and none may be there twice. -/
def knownFields? (document : Document) (known : List String) :
    (seen : List String) → List (Yaml.Node × Yaml.Node) → Option Fields
  | _, [] => some []
  | seen, (key, value) :: others =>
      match scalarText? document key with
      | none => none
      | some name =>
          if name ∈ known then
            if name ∈ seen then none
            else (knownFields? document known (name :: seen) others).map ((name, value) :: ·)
          else knownFields? document known seen others

/-- The fields of a section: a mapping, or nothing at all. -/
def fields? (document : Document) (known : List String) (node : Yaml.Node) : Option Fields :=
  match document.follow node with
  | some (.mapping pairs) => knownFields? document known [] pairs
  | some (.scalar [] .plain _) => some []
  | _ => none

/-- The text of a scalar that is written plainly, or as a block under a given tag. -/
def plainText? (document : Document) (tag : String) (node : Yaml.Node) : Option String :=
  match document.follow node with
  | some (.scalar text .plain _) => some (String.ofList text)
  | some (.scalar text .literal (some given)) =>
      if given = tag.toList then some (String.ofList text) else none
  | _ => none

/-- A flag, in one of three spellings for each of its values. -/
def flagOf? (text : String) : Option Bool :=
  if text = "true" ∨ text = "True" ∨ text = "TRUE" then some true
  else if text = "false" ∨ text = "False" ∨ text = "FALSE" then some false
  else none

def digit? (base : Nat) (c : Char) : Option Nat :=
  (Text.hexValue? c).bind fun value => if value < base then some value else none

/-- The number that digits in some base denote; there has to be one. -/
def digits? (base : Nat) : List Char → Option Nat
  | [] => none
  | digits => digits.foldlM (fun value c => (digit? base c).map (value * base + ·)) 0

/-- A number without a sign: decimal without a needless zero in front, or in one of three other
bases. -/
def unsigned? : List Char → Option Nat
  | '0' :: 'x' :: digits => digits? 16 digits
  | '0' :: 'o' :: digits => digits? 8 digits
  | '0' :: 'b' :: digits => digits? 2 digits
  | '0' :: _ :: _ => none
  | digits => digits? 10 digits

/-- A whole number, with or without a plus in front. -/
def number? : List Char → Option Nat
  | '+' :: digits => unsigned? digits
  | digits => unsigned? digits

/-- A number of sixteen bits. -/
def wordOf? (text : String) : Option UInt16 :=
  (number? text.toList).bind fun value => if value < 65536 then some value.toUInt16 else none

def text? (document : Document) (fields : Fields) (name : String) : Option String :=
  (fields.lookup name).bind (scalarText? document)

def textOr? (document : Document) (fields : Fields) (name : String) (default : String) :
    Option String :=
  match fields.lookup name with
  | none => some default
  | some node => scalarText? document node

def flag? (document : Document) (fields : Fields) (name : String) : Option Bool :=
  match fields.lookup name with
  | none => some false
  | some node => (plainText? document "tag:yaml.org,2002:bool" node).bind flagOf?

def wordOr? (document : Document) (fields : Fields) (name : String) (default : UInt16) :
    Option UInt16 :=
  match fields.lookup name with
  | none => some default
  | some node => (plainText? document "tag:yaml.org,2002:int" node).bind wordOf?

def storage? (document : Document) (node : Yaml.Node) : Option StorageConfig := do
  let fields ← fields? document
    ["endpoint", "username", "password", "bucket", "secure", "region"] node
  let endpoint ← text? document fields "endpoint"
  let username ← text? document fields "username"
  let password ← text? document fields "password"
  let bucket ← text? document fields "bucket"
  let secure ← flag? document fields "secure"
  let region ← textOr? document fields "region" StorageConfig.defaultRegion
  some { endpoint, username, password, bucket, secure, region }

def messaging? (document : Document) (node : Yaml.Node) : Option MessagingConfig := do
  let fields ← fields? document
    ["host", "port", "username", "password", "virtual_host", "exchange", "topic", "prefetch"] node
  let host ← text? document fields "host"
  let port ← wordOr? document fields "port" MessagingConfig.defaultPort
  let username ← text? document fields "username"
  let password ← text? document fields "password"
  let virtualHost ←
    textOr? document fields "virtual_host" MessagingConfig.defaultVirtualHost
  let exchange ← text? document fields "exchange"
  let topic ← text? document fields "topic"
  let prefetch ← wordOr? document fields "prefetch" MessagingConfig.defaultPrefetch
  some { host, port, username, password, virtualHost, exchange, topic, prefetch }

def runner? (document : Document) (node : Yaml.Node) : Option Runner := do
  let fields ← fields? document ["command", "quiet"] node
  let command ← textOr? document fields "command" Runner.defaultCommand
  let quiet ← flag? document fields "quiet"
  some { command, quiet }

def ofDocument? (document : Document) : Option Config := do
  let fields ← fields? document
    ["working_dir", "ignore_json", "storage", "messaging", "runner"] document.root
  let workingDirectory ← text? document fields "working_dir"
  let ignoreManifests ← flag? document fields "ignore_json"
  let storage ← (fields.lookup "storage").bind (storage? document)
  let messaging ← (fields.lookup "messaging").bind (messaging? document)
  let runner ←
    match fields.lookup "runner" with
    | none => some Runner.default
    | some node => runner? document node
  some { workingDirectory := ⟨workingDirectory⟩, ignoreManifests, storage, messaging, runner }

/-- The configuration that a text describes. -/
def parse? (text : String) : Option Config :=
  (Document.parse? text).bind ofDocument?

/-- The configuration in the content of a file.  A text that describes none is refused in the words of
the parser. -/
def ofContent (wording : String → String) (path : Path) (content : Except SystemError Bytes) :
    Except ConfigError Config :=
  match content with
  | .error reason => .error (.reading path reason)
  | .ok bytes =>
      match Text.decode? bytes with
      | none => .error (.reading path .notText)
      | some text =>
          match parse? text with
          | none => .error (.parsing path (wording text))
          | some config => .ok config

def load (wording : String → String) (tree : FileTree) (path : Path) : Except ConfigError Config :=
  ofContent wording path (tree.readFile path)

/-- The configuration in a file, if nothing is wrong with it. -/
def loadValidated (wording : String → String) (tree : FileTree) (path : Path) :
    Except ConfigError Config :=
  (load wording tree path).bind validated

end Stagehand.Config
