import Stagehand.Job.Handle
import Stagehand.Workflow.Runner

/-! # The configuration

The configuration says where jobs work, which object store and which broker to use, and how
workflows are run.  Some of its fields have a default.
-/

set_option autoImplicit false

namespace Stagehand

def StorageConfig.defaultRegion : String := "us-east-1"

/-- The object store and the bucket that payloads are in. -/
structure StorageConfig where
  /-- The address of the store, with a scheme or without. -/
  endpoint : String
  username : String
  password : String
  bucket : String
  /-- An address without a scheme is reached over a secure connection. -/
  secure : Bool := false
  region : String := StorageConfig.defaultRegion
deriving DecidableEq, Inhabited, Repr

namespace StorageConfig

/-- The marks between a scheme and the rest of an address. -/
def schemeMarks : String := "://"

/-- Some part of the text is the given one. -/
def contains (part : List Char) : List Char → Bool
  | [] => part.isEmpty
  | c :: rest => part.isPrefixOf (c :: rest) || contains part rest

/-- The address of the store with a scheme. -/
def endpointUrl (config : StorageConfig) : String :=
  if contains schemeMarks.toList config.endpoint.toList then config.endpoint
  else if config.secure then "https://" ++ config.endpoint
  else "http://" ++ config.endpoint

end StorageConfig

def MessagingConfig.defaultPort : UInt16 := 5672

def MessagingConfig.defaultVirtualHost : String := "/"

/-- One unacknowledged delivery at a time. -/
def MessagingConfig.defaultPrefetch : UInt16 := 1

/-- The broker and the subscription on it. -/
structure MessagingConfig where
  host : String
  port : UInt16 := MessagingConfig.defaultPort
  username : String
  password : String
  virtualHost : String := MessagingConfig.defaultVirtualHost
  exchange : String
  topic : String
  /-- The number of deliveries that may wait for their acknowledgment. -/
  prefetch : UInt16 := MessagingConfig.defaultPrefetch
deriving DecidableEq, Inhabited, Repr

/-- The name that the subscription goes by at the broker. -/
def MessagingConfig.consumerTag : String := "workflow-dispatcher"

structure BrokerAddress where
  host : String
  port : UInt16
  username : String
  password : String
  virtualHost : String
deriving DecidableEq, Inhabited, Repr

def MessagingConfig.address (config : MessagingConfig) : BrokerAddress :=
  ⟨config.host, config.port, config.username, config.password, config.virtualHost⟩

def Runner.defaultCommand : String := "monai-deploy"

def Runner.default : Runner := ⟨Runner.defaultCommand, false⟩

structure Config where
  workingDirectory : Path
  ignoreManifests : Bool := false
  storage : StorageConfig
  messaging : MessagingConfig
  runner : Runner := Runner.default
deriving DecidableEq, Inhabited, Repr

namespace Config

def defaultPath : String := "config.json"

/-- What of a configuration concerns every job. -/
def settings (config : Config) : Settings :=
  ⟨config.workingDirectory, config.storage.bucket, config.ignoreManifests⟩

end Config
end Stagehand
