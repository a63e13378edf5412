import StageGraph.Log.Action
import StageGraph.Log.Setup

/-!
# Arguments of the log

A log, or a line about an action, may be asked for by named arguments of any
value.  Arguments that are left out have standard values.
-/

namespace StageGraph

/-- Why arguments ask for nothing. -/
inductive ArgumentFault where
  | unknownName
  | missing
  deriving DecidableEq, Repr

/-- Arguments are given by names that are known. -/
def ArgumentFault.checkNames (arguments : Config) (names : List String) :
    Except ArgumentFault Unit :=
  if (Ledger.keys arguments).all names.contains then .ok () else .error .unknownName

namespace LogRequest

/-- The names of the arguments. -/
def argumentNames : List String :=
  [ "log_file", "log_level", "rotation_type", "rotation_when", "rotation_interval", "max_bytes",
    "backup_count", "console_log_level"]

/-- The request that arguments make. -/
def ofArguments (arguments : Config) : Except ArgumentFault LogRequest := do
  ArgumentFault.checkNames arguments argumentNames
  let given (name : String) (default : Value) : Value :=
    (Ledger.get? arguments name).getD default
  let standard : LogRequest := {}
  return {
    file := given "log_file" standard.file
    level := given "log_level" standard.level
    rotation := given "rotation_type" standard.rotation
    rotationWhen := given "rotation_when" standard.rotationWhen
    rotationInterval := given "rotation_interval" standard.rotationInterval
    maxSize := given "max_bytes" standard.maxSize
    backupCount := given "backup_count" standard.backupCount
    consoleLevel := given "console_log_level" standard.consoleLevel }

end LogRequest

namespace ActionRecord

/-- The record that arguments make. -/
def ofArguments (arguments : Config) : Except ArgumentFault ActionRecord := do
  ArgumentFault.checkNames arguments ["action", "success", "details"]
  let details := Config.value arguments "details"
  match Ledger.get? arguments "action" with
  | none => .error .missing
  | some action =>
    return {
      action := action.display
      success := ((Ledger.get? arguments "success").map Value.truthy).getD true
      details := if details.truthy then details.display else "" }

end ActionRecord

end StageGraph
