import StageGraph.Json.Printer
import StageGraph.Launch
import StageGraph.Startup

/-!
# Command line

Reads the settings of the environment and prints how the server is launched under
them, or why it is not.
-/

namespace StageGraph.CommandLine

/-- The variables of the environment that have a say. -/
def variableNames : List String :=
  Startup.environmentVariable :: Settings.names

/-- The variables that are set, with their texts. -/
def readEnvironment : IO (Ledger String) :=
  variableNames.filterMapM fun name => return (← IO.getEnv name).map fun text => (name, text)

/-- The line about the launch under an environment. -/
def launchLine (environment : Ledger String) : Except StartupFault String :=
  (Startup.run environment).map fun startup =>
    Json.compact (Launch.ofSettings startup.settings).toValue

/-- Print the launch under the settings of the environment. -/
def run : IO UInt32 := do
  match launchLine (← readEnvironment) with
  | .ok line =>
    IO.println line
    return 0
  | .error fault =>
    IO.eprintln fault.message
    return 1

end StageGraph.CommandLine

def main : IO UInt32 :=
  StageGraph.CommandLine.run
