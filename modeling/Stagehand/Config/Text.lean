import Stagehand.Config.Basic
import Stagehand.Text.Quoted

/-! # A configuration as text

For the log, a configuration is written with the names of its fields, and without its passwords.
-/

set_option autoImplicit false

namespace Stagehand

def fieldList (name : String) (fields : List (String × String)) : String :=
  name ++ " \x7b " ++
    String.intercalate ", " (fields.map fun field => field.1 ++ ": " ++ field.2) ++ " \x7d"

/-- What is written in place of a password. -/
def redacted : String := Text.quoted "<redacted>"

def StorageConfig.text (config : StorageConfig) : String :=
  fieldList "StorageConfig"
    [("endpoint", Text.quoted config.endpoint), ("username", Text.quoted config.username),
     ("password", redacted), ("bucket", Text.quoted config.bucket),
     ("secure", toString config.secure), ("region", Text.quoted config.region)]

def MessagingConfig.text (config : MessagingConfig) : String :=
  fieldList "MessagingConfig"
    [("host", Text.quoted config.host), ("port", toString config.port),
     ("username", Text.quoted config.username), ("password", redacted),
     ("virtual_host", Text.quoted config.virtualHost),
     ("exchange", Text.quoted config.exchange), ("topic", Text.quoted config.topic),
     ("prefetch", toString config.prefetch)]

def Runner.text (runner : Runner) : String :=
  fieldList "RunnerConfig"
    [("command", Text.quoted runner.command), ("quiet", toString runner.quiet)]

def Config.text (config : Config) : String :=
  fieldList "Config"
    [("working_dir", Text.quoted config.workingDirectory.text),
     ("ignore_json", toString config.ignoreManifests), ("storage", config.storage.text),
     ("messaging", config.messaging.text), ("runner", config.runner.text)]

end Stagehand
