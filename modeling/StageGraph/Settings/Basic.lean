import StageGraph.Log.Level
import StageGraph.Value

/-!
# Settings

The settings of the service in five groups, with the defaults of every profile.
-/

namespace StageGraph

/-- The settings are made for an environment. -/
inductive Profile where
  | base
  | development
  | production
  | testing
  deriving DecidableEq, Repr

namespace Profile

/-- The profile of an environment, by its name in any case; development is the usual one. -/
def ofEnvironment (name : String) : Profile :=
  match Text.lower name with
  | "production" => .production
  | "testing" => .testing
  | _ => .development

end Profile

namespace Settings

/-- What the service is. -/
structure Application where
  name : String := "Pipeline Compiler"
  version : String := "0.1.0"
  summary : String :=
    "Compile visual ML pipeline graphs into validated Python scripts and notebooks."
  description : String :=
    "Validate node/edge pipeline graphs, generate ordered Python source with hoisted " ++
      "imports, export Jupyter notebooks, and store pipeline projects."
  debug : Bool := false
  testing : Bool := false

/-- Where the service listens. -/
structure Server where
  host : String := "127.0.0.1"
  portNumber : Int := 8000
  workers : Int := 1

/-- Who may reach what. -/
structure Access where
  origins : List String := ["http://localhost:3000", "http://localhost:5173"]
  hosts : List String := ["localhost", "127.0.0.1"]
  docsEnabled : Option Bool := none
  docsUrl : String := "/docs"
  redocUrl : String := "/redoc"
  openapiUrl : String := "/openapi.json"

/-- What is logged, and where. -/
structure Logging where
  level : LogLevel := .info
  file : String := "logs/pipeline_compiler.log"
  rotation : String := "size"
  rotationWhen : Option String := none
  rotationInterval : Int := 1
  maxSize : Int := 10485760
  backupCount : Int := 5
  consoleLevel : LogLevel := .warning

/-- Where projects are kept, and for whom by default. -/
structure Storage where
  type : String := "local"
  path : String := "data/projects"
  projectName : String := "ML Pipeline"
  userId : String := "local"

end Settings

/-- All settings; `extras` are names that the service itself does not use. -/
structure Settings where
  application : Settings.Application := {}
  server : Settings.Server := {}
  access : Settings.Access := {}
  logging : Settings.Logging := {}
  storage : Settings.Storage := {}
  extras : Config := []

namespace Settings

/-- The settings of a profile where nothing else is said. -/
def defaults : Profile → Settings
  | .base => {}
  | .development =>
    { application := { debug := true }
      server := { host := "0.0.0.0" }
      access := { origins := ["*"] }
      logging := { level := .debug } }
  | .production => { access := { docsEnabled := some false } }
  | .testing =>
    { application := { debug := true, testing := true }
      access := { hosts := ["localhost", "127.0.0.1", "testserver"] }
      logging := { level := .debug, file := "logs/test_pipeline_compiler.log" }
      storage := { type := "memory" } }

/-- Whether the documentation is served; without a word about it, when debugging. -/
def docsEnabled (settings : Settings) : Bool :=
  settings.access.docsEnabled.getD settings.application.debug

/-- The name of the environment in health reports. -/
def environment (settings : Settings) : String :=
  if settings.application.testing then "testing"
  else if settings.application.debug then "development"
  else "production"

private def texts (items : List String) : Value :=
  .list (items.map .text)

/-- The settings under their names. -/
def toEntries (settings : Settings) : Config :=
  [ ("APP_NAME", .text settings.application.name),
    ("APP_VERSION", .text settings.application.version),
    ("APP_SUMMARY", .text settings.application.summary),
    ("APP_DESCRIPTION", .text settings.application.description),
    ("DEBUG", .bool settings.application.debug),
    ("TESTING", .bool settings.application.testing),
    ("HOST", .text settings.server.host),
    ("PORT", .int settings.server.portNumber),
    ("WORKERS", .int settings.server.workers),
    ("CORS_ORIGINS", texts settings.access.origins),
    ("ALLOWED_HOSTS", texts settings.access.hosts),
    ("API_DOCS_ENABLED", (settings.access.docsEnabled.map Value.bool).getD .null),
    ("API_DOCS_URL", .text settings.access.docsUrl),
    ("API_REDOC_URL", .text settings.access.redocUrl),
    ("API_OPENAPI_URL", .text settings.access.openapiUrl),
    ("LOG_LEVEL", .text settings.logging.level.name),
    ("LOG_FILE", .text settings.logging.file),
    ("LOG_ROTATION_TYPE", .text settings.logging.rotation),
    ("LOG_ROTATION_WHEN", (settings.logging.rotationWhen.map Value.text).getD .null),
    ("LOG_ROTATION_INTERVAL", .int settings.logging.rotationInterval),
    ("LOG_MAX_SIZE", .int settings.logging.maxSize),
    ("LOG_BACKUP_COUNT", .int settings.logging.backupCount),
    ("CONSOLE_LOG_LEVEL", .text settings.logging.consoleLevel.name),
    ("PROJECT_STORAGE_TYPE", .text settings.storage.type),
    ("PROJECT_STORAGE_PATH", .text settings.storage.path),
    ("DEFAULT_PROJECT_NAME", .text settings.storage.projectName),
    ("DEFAULT_USER_ID", .text settings.storage.userId)] ++ settings.extras

/-- The names of the settings. -/
def names : List String :=
  Ledger.keys (toEntries {})

/-- The settings whose values are lists; in the environment they are written as JSON. -/
def listNames : List String :=
  ["CORS_ORIGINS", "ALLOWED_HOSTS"]

end Settings

end StageGraph
