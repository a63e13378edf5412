import StageGraph.Log.Level

/-!
# The log of actions

One line for every compilation, export or change of a project.
-/

namespace StageGraph

/-- Something that was done, or that failed. -/
structure ActionRecord where
  action : String
  success : Bool := true
  details : String := ""

namespace ActionRecord

/-- The log that actions are written to. -/
def logName : String :=
  "pipeline_actions"

/-- Failures are errors. -/
def level (record : ActionRecord) : LogLevel :=
  if record.success then .info else .error

/-- The line of an action. -/
def message (record : ActionRecord) : String :=
  "Action: " ++ record.action ++
    (if record.details = "" then "" else " | Details: " ++ record.details) ++
    (if record.success then " | Status: SUCCESS" else " | Status: FAILED")

end ActionRecord

end StageGraph
