import StageGraph.Log.Level
import StageGraph.Settings.Basic
import StageGraph.Workplace

/-!
# Setting up the log

Messages go to a file that is rotated by size or by time, and to the console.  A
file that cannot be opened is done without.  A log may be asked for with any
values; each of them is judged only when it is needed.
-/

namespace StageGraph

/-- How the log is to be set up. -/
structure LogRequest where
  file : Value := "logs/pipeline_compiler.log"
  level : Value := "INFO"
  rotation : Value := "size"
  rotationWhen : Value := .null
  rotationInterval : Value := .int 1
  maxSize : Value := .int 10485760
  backupCount : Value := .int 5
  consoleLevel : Value := "WARNING"

/-- Where messages of a level and above go. -/
inductive LogHandler where
  | bySize (level : LogLevel) (maxSize backupCount : Value)
  /-- Rotated at some time, with the interval in seconds. -/
  | byTime (level : LogLevel) (time : String) (interval : Number) (backupCount : Value)
  | console (level : LogLevel)
  deriving Repr

/-- A log that is set up. -/
structure LogSetup where
  root : LogLevel
  handlers : List LogHandler
  deriving Repr

/-- Why a time of rotation makes no sense. -/
inductive RotationFault where
  | noDay (time : String)
  | wrongDay (time : String)
  | unknown (time : String)
  deriving DecidableEq, Repr

/-- The wording for a time of rotation that makes no sense. -/
def RotationFault.message : RotationFault → String
  | .noDay time =>
    "You must specify a day for weekly rollover from 0 to 6 (0 is Monday): " ++ time
  | .wrongDay time => "Invalid day specified for weekly rollover: " ++ time
  | .unknown time => "Invalid rollover interval specified: " ++ time

/-- Why a log cannot be set up. -/
inductive LogFault where
  | level (misuse : LogLevel.Misuse)
  | file (fault : FileFault)
  | rotation (fault : RotationFault)
  /-- What should be a word is none. -/
  | noWord
  /-- The path of the file is no text. -/
  | noPath
  /-- What should be a number is none. -/
  | noNumber
  deriving DecidableEq, Repr

/-- The wording of a fault. -/
def LogFault.message : LogFault → String
  | .level misuse => misuse.message
  | .file fault => fault.message
  | .rotation fault => fault.message
  | .noWord => "not a word"
  | .noPath => "not a path"
  | .noNumber => "not a number"

namespace LogRequest

/-- A word, for which whatever is empty or zero stands as the empty text. -/
def word (value : Value) : Except LogFault String :=
  match value.asText? with
  | some text => .ok text
  | none => if value.truthy then .error .noWord else .ok ""

/-- A number; a truth value counts as one. -/
def number (value : Value) : Except LogFault Number :=
  match value.asNumber? with
  | some n => .ok n
  | none => .error .noNumber

/-- The seconds of a unit of rotation, by its name in capitals. -/
def unitSeconds (time : String) : Except RotationFault Int :=
  match time.toList with
  | ['S'] => .ok 1
  | ['M'] => .ok 60
  | ['H'] => .ok 3600
  | ['D'] => .ok 86400
  | 'W' :: days =>
    match days with
    | [day] => if '0' ≤ day ∧ day ≤ '6' then .ok 604800 else .error (.wrongDay time)
    | _ => .error (.noDay time)
  | _ => if time = "MIDNIGHT" then .ok 86400 else .error (.unknown time)

/-- Whether a kind of rotation is by time. -/
def isTimed (rotation : String) : Bool :=
  ["time", "timed"].contains (Text.lower rotation)

/-- The handler of a file that is rotated by time, at midnight where no time is given. -/
def timedHandler (request : LogRequest) (level : LogLevel) : Except LogFault LogHandler := do
  let time ← word request.rotationWhen
  let time := Text.upper (if time = "" then "midnight" else time)
  let unit ← (unitSeconds time).mapError .rotation
  return .byTime level time ((← number request.rotationInterval).times unit) request.backupCount

/-- Open a file for a handler.  A file that cannot be opened has none; only a path that is none
is not done without. -/
def openFor (workplace : Workplace) (path : String) (handler : Except LogFault LogHandler) :
    Except LogFault (List LogHandler × Workplace) :=
  match workplace.openFile (Location.ofPath path) with
  | .error .embeddedNull => .error (.file .embeddedNull)
  | .error _ => .ok ([], workplace)
  | .ok opened => handler.map fun handler => ([handler], opened)

/-- The handlers for the file, in its folder.  What is made before a fault stays. -/
def fileHandlers (request : LogRequest) (level : LogLevel) (workplace : Workplace) :
    Except LogFault (List LogHandler × Workplace) := do
  let some path := request.file.asText? | throw .noPath
  match workplace.makeFolders (Location.folderPart path) with
  | (.error .embeddedNull, _) => throw (.file .embeddedNull)
  | (.error _, workplace) => return ([], workplace)
  | (.ok (), workplace) =>
    if isTimed (← word request.rotation) then
      openFor workplace path (request.timedHandler level)
    else do
      discard (number request.maxSize)
      openFor workplace path (.ok (.bySize level request.maxSize request.backupCount))

/-- Set the log up. -/
def setUp (request : LogRequest) (workplace : Workplace) :
    Except LogFault (LogSetup × Workplace) := do
  let root ← (LogLevel.ofWord (← word request.level) .info).mapError .level
  let (handlers, workplace) ← request.fileHandlers root workplace
  let console ← (LogLevel.ofWord (← word request.consoleLevel) .warning).mapError .level
  return ({ root, handlers := handlers ++ [.console console] }, workplace)

/-- The request that settings make. -/
def ofSettings (logging : Settings.Logging) : LogRequest :=
  { file := logging.file
    level := logging.level.name
    rotation := logging.rotation
    rotationWhen := (logging.rotationWhen.map Value.text).getD .null
    rotationInterval := .int logging.rotationInterval
    maxSize := .int logging.maxSize
    backupCount := .int logging.backupCount
    consoleLevel := logging.consoleLevel.name }

end LogRequest

namespace LogSetup

/-- What stands on a line of the file beside the message: time, level and place. -/
def lineOverhead : Nat := 90

/-- Whether a first message of a level moves the file to its backup name. -/
def rotatesAt (setup : LogSetup) (level : LogLevel) (message : String) : Bool :=
  setup.handlers.any fun handler =>
    match handler with
    | .bySize _ (.number maxSize) (.number backupCount) =>
      setup.root.rank ≤ level.rank && maxSize.isPositive && backupCount.isPositive &&
        !(Number.integer (message.length + lineOverhead : Nat)).less maxSize
    | _ => false

end LogSetup

end StageGraph
