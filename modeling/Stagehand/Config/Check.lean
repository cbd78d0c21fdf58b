import Stagehand.Config.Basic
import Stagehand.Config.Error
import Stagehand.Text.Blank

/-! # What is wrong with a configuration

Every setting that the program cannot do without is checked, and all problems are found at once.
-/

set_option autoImplicit false

namespace Stagehand.Config

/-- The settings that may not be blank, by name, in the order in which they are checked. -/
def requiredTexts (config : Config) : List (String × String) :=
  [("storage.endpoint", config.storage.endpoint),
   ("storage.bucket", config.storage.bucket),
   ("messaging.host", config.messaging.host),
   ("messaging.exchange", config.messaging.exchange),
   ("messaging.topic", config.messaging.topic),
   ("runner.command", config.runner.command)]

/-- The problems of a configuration in order; there are none if it can be used. -/
def problems (config : Config) : List ConfigError :=
  (if config.workingDirectory.text.isEmpty then [.missingField "working_dir"] else []) ++
  ((config.requiredTexts.filter fun field => Text.isBlank field.2).map
    fun field => .missingField field.1) ++
  (if config.messaging.prefetch = 0 then
    [.invalidField "messaging.prefetch" "must be at least 1"] else [])

/-- The configuration, if nothing is wrong with it. -/
def validated (config : Config) : Except ConfigError Config :=
  match config.problems with
  | [] => .ok config
  | problems => .error (.invalid problems)

end Stagehand.Config
