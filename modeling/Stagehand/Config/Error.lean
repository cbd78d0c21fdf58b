import Stagehand.Path
import Stagehand.SystemError

/-! # Failures to load a configuration

A configuration that cannot be used stops the program before it takes its first delivery.  All
problems of a readable file are reported together.
-/

set_option autoImplicit false

namespace Stagehand

/-- Why a configuration cannot be used. -/
inductive ConfigError where
  | reading (path : Path) (source : SystemError)
  | parsing (path : Path) (detail : String)
  | missingField (field : String)
  | invalidField (field reason : String)
  | invalid (problems : List ConfigError)
deriving Inhabited, Repr

namespace ConfigError

/-- The failure in words; several problems stand on a line each. -/
def message : ConfigError → String
  | .reading path source =>
      s!"Failed to read configuration file '{path.text}': {source.message}"
  | .parsing path detail => s!"Failed to parse configuration file '{path.text}': {detail}"
  | .missingField field => s!"Configuration field '{field}' must not be empty"
  | .invalidField field reason => s!"Configuration field '{field}' is invalid: {reason}"
  | .invalid problems =>
      "Configuration validation failed:\n" ++ String.intercalate "\n" (messages problems)
where
  messages : List ConfigError → List String
    | [] => []
    | problem :: others => message problem :: messages others

/-- The texts of the failures behind this one, nearest first. -/
def causes : ConfigError → List String
  | .reading _ source => [source.message]
  | .parsing _ detail => [detail]
  | _ => []

end ConfigError
end Stagehand
