import StageGraph.Log.Setup
import StageGraph.Settings.Reader
import StageGraph.Store.Basic

/-!
# Starting up

The settings of an environment are read once, the directories that they name are
made, and the log is set up.  The store is chosen by its type.
-/

namespace StageGraph

/-- Why the service does not start. -/
inductive StartupFault where
  | settings (fault : Settings.SettingsFault)
  | file (fault : FileFault)
  | log (fault : LogFault)
  | storageType (type : Value)

/-- The wording for a type of storage that is not known. -/
def unsupportedStorage (type : Value) : String :=
  "Unsupported project storage type: " ++ type.display

/-- The wording of a fault. -/
def StartupFault.message : StartupFault → String
  | .settings fault => fault.message
  | .file fault => fault.message
  | .log fault => fault.message
  | .storageType type => unsupportedStorage type

/-- A service that has started. -/
structure Startup where
  profile : Profile
  settings : Settings
  log : LogSetup
  workplace : Workplace

namespace Startup

/-- The variable that names the environment. -/
def environmentVariable : String :=
  "FASTAPI_ENV"

/-- The profile that the environment asks for. -/
def profileOf (environment : Ledger String) : Profile :=
  Profile.ofEnvironment ((Ledger.get? environment environmentVariable).getD "development")

/-- Make the folders of a path. -/
def makeFolders (workplace : Workplace) (path : String) : Except FileFault Workplace :=
  match workplace.makeFolders path with
  | (.ok (), workplace) => .ok workplace
  | (.error fault, _) => .error fault

/-- Make the directories that the settings name. -/
def makeDirectories (settings : Settings) (workplace : Workplace) :
    Except FileFault Workplace := do
  let workplace ← makeFolders workplace (Location.parent settings.logging.file)
  if settings.storage.type = "local" then
    makeFolders workplace settings.storage.path
  else
    return workplace

/-- Start with the settings of an environment in an empty working directory. -/
def run (environment : Ledger String) : Except StartupFault Startup := do
  let profile := profileOf environment
  let settings ← (Settings.read profile [] environment).mapError .settings
  let workplace ← (makeDirectories settings {}).mapError .file
  let (log, workplace) ←
    ((LogRequest.ofSettings settings.logging).setUp workplace).mapError .log
  return { profile, settings, log, workplace }

/-- A store of a type, in a directory below the working directory. -/
def openStore (type : Value) (path : String) (workplace : Workplace) :
    Except StartupFault (Store × Workplace) :=
  match type.asText? with
  | some "memory" => .ok (.memory [], workplace)
  | some "local" =>
    if path = "" then .error (.file .notFound)
    else do
      let workplace ← (makeFolders workplace path).mapError .file
      return (.directory {}, workplace)
  | _ => .error (.storageType type)

/-- The message about the store that is opened. -/
def storeMessage (settings : Settings) : String :=
  if settings.storage.type = "memory" then "Using in-memory project store"
  else "Using JSON project store at " ++ settings.storage.path

/-- Open the store that the settings name; the message about it goes to the log. -/
def withStore (startup : Startup) : Except StartupFault (Store × Startup) := do
  let (store, workplace) ←
    openStore (.text startup.settings.storage.type) startup.settings.storage.path
      startup.workplace
  let workplace :=
    if startup.log.rotatesAt .info (storeMessage startup.settings) then
      workplace.backUp (Location.ofPath startup.settings.logging.file)
    else
      workplace
  return (store, { startup with workplace := workplace })

end Startup

end StageGraph
