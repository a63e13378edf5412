import StageGraph.Issue
import StageGraph.Json.Reader
import StageGraph.Settings.Basic

/-!
# Reading settings

Settings come from values given by name and from the texts of the environment;
given values come first, and the profile fills in the rest.  A list may be given
as one text with commas.  In the environment a list has to be JSON, and its value
is then read like a given one, with the replacement character for each half of a
surrogate pair that stands alone.
-/

namespace StageGraph.Settings

/-- Why there are no settings. -/
inductive SettingsFault where
  /-- The text of a list in the environment is not JSON. -/
  | unparsable (name : String)
  /-- The text of a list in the environment nests too deep. -/
  | tooDeep (name : String)
  | invalid (issues : List Issue)

/-- The wording for a list that is not JSON. -/
def unparsableMessage (name : String) : String :=
  "error parsing value for field \"" ++ name ++ "\" from source \"EnvSettingsSource\""

/-- The wording of an issue with a setting. -/
def issueMessage (issue : Issue) : String :=
  Text.join "." (issue.path.map Place.text) ++ ": " ++ issue.problem.message

/-- The wording of a fault. -/
def SettingsFault.message : SettingsFault → String
  | .unparsable name => unparsableMessage name
  | .tooDeep name => unparsableMessage name
  | .invalid issues => Text.join "\n" (issues.map issueMessage)

/-- The trimmed pieces of a text between its commas. -/
def commaList (text : String) : List String :=
  (Text.splitText ',' text).map Text.trimText

/-- A list of texts, or one text with commas. -/
def readList (value : Value) : Checked (List String) :=
  match value.asText? with
  | some content => .ok (commaList content)
  | none => Checked.list Checked.text value

/-- A level by its name in any case. -/
def readLevel (value : Value) : Checked LogLevel := do
  let content ← Checked.text value
  match LogLevel.ofSetting? content with
  | some level => return level
  | none => Checked.fail (.rejected ("Unsupported log level: " ++ content)) value

private def optionalText := Checked.optional Checked.text

private def optionalFlag := Checked.optional Checked.boolean

section

variable (entries : Config)

private def member {α : Type} (name : String) (default : α) (read : Value → Checked α) :
    Checked α :=
  Checked.withDefault entries name default read

def readApplication (default : Application) : Checked Application :=
  Except.ok Application.mk
    |> Checked.supply (member entries "APP_NAME" default.name Checked.text)
    |> Checked.supply (member entries "APP_VERSION" default.version Checked.text)
    |> Checked.supply (member entries "APP_SUMMARY" default.summary Checked.text)
    |> Checked.supply (member entries "APP_DESCRIPTION" default.description Checked.text)
    |> Checked.supply (member entries "DEBUG" default.debug Checked.boolean)
    |> Checked.supply (member entries "TESTING" default.testing Checked.boolean)

def readServer (default : Server) : Checked Server :=
  Except.ok Server.mk
    |> Checked.supply (member entries "HOST" default.host Checked.text)
    |> Checked.supply (member entries "PORT" default.portNumber Checked.integer)
    |> Checked.supply (member entries "WORKERS" default.workers Checked.integer)

def readAccess (default : Access) : Checked Access :=
  Except.ok Access.mk
    |> Checked.supply (member entries "CORS_ORIGINS" default.origins readList)
    |> Checked.supply (member entries "ALLOWED_HOSTS" default.hosts readList)
    |> Checked.supply (member entries "API_DOCS_ENABLED" default.docsEnabled optionalFlag)
    |> Checked.supply (member entries "API_DOCS_URL" default.docsUrl Checked.text)
    |> Checked.supply (member entries "API_REDOC_URL" default.redocUrl Checked.text)
    |> Checked.supply (member entries "API_OPENAPI_URL" default.openapiUrl Checked.text)

def readLogging (default : Logging) : Checked Logging :=
  Except.ok Logging.mk
    |> Checked.supply (member entries "LOG_LEVEL" default.level readLevel)
    |> Checked.supply (member entries "LOG_FILE" default.file Checked.text)
    |> Checked.supply (member entries "LOG_ROTATION_TYPE" default.rotation Checked.text)
    |> Checked.supply (member entries "LOG_ROTATION_WHEN" default.rotationWhen optionalText)
    |> Checked.supply
      (member entries "LOG_ROTATION_INTERVAL" default.rotationInterval Checked.integer)
    |> Checked.supply (member entries "LOG_MAX_SIZE" default.maxSize Checked.integer)
    |> Checked.supply (member entries "LOG_BACKUP_COUNT" default.backupCount Checked.integer)
    |> Checked.supply (member entries "CONSOLE_LOG_LEVEL" default.consoleLevel readLevel)

def readStorage (default : Storage) : Checked Storage :=
  Except.ok Storage.mk
    |> Checked.supply (member entries "PROJECT_STORAGE_TYPE" default.type
      (Checked.oneOf ["memory", "local"]))
    |> Checked.supply (member entries "PROJECT_STORAGE_PATH" default.path Checked.text)
    |> Checked.supply (member entries "DEFAULT_PROJECT_NAME" default.projectName Checked.text)
    |> Checked.supply (member entries "DEFAULT_USER_ID" default.userId Checked.text)

/-- Settings from values under their names, over those of a profile. -/
def readEntries (profile : Profile) : Checked Settings :=
  Except.ok Settings.mk
    |> Checked.supply (readApplication entries (defaults profile).application)
    |> Checked.supply (readServer entries (defaults profile).server)
    |> Checked.supply (readAccess entries (defaults profile).access)
    |> Checked.supply (readLogging entries (defaults profile).logging)
    |> Checked.supply (readStorage entries (defaults profile).storage)
    |> Checked.supply (.ok (entries.filter fun entry => !names.contains entry.1))

end

/-- The value of a setting in the environment. -/
def environmentValue (name text : String) : Except SettingsFault Value :=
  if listNames.contains name then
    match Json.read text .usual with
    | .ok value => .ok value
    | .error { fault := .tooDeep, .. } => .error (.tooDeep name)
    | .error _ => .error (.unparsable name)
  else
    .ok (.text text)

/-- The settings that the environment names, in the order of the settings; a list written as
null counts as not set. -/
def ofEnvironment (environment : Ledger String) : Except SettingsFault Config := do
  let values ← names.filterMapM fun name =>
    match Ledger.get? environment name with
    | none => return none
    | some text => do
      match ← environmentValue name text with
      | .null => return none
      | value => return some (name, value)
  return values

/-- Settings from given values and the environment. -/
def read (profile : Profile) (given : Config) (environment : Ledger String) :
    Except SettingsFault Settings := do
  let ambient ← ofEnvironment environment
  (readEntries (Ledger.putAll ambient given : Config) profile).mapError .invalid

end StageGraph.Settings
