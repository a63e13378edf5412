import StageGraph.Value
import StageGraph.Text.Case

/-!
# Phases, severities and type names

The three phases of a pipeline in their order, the three severities of a
finding, and the names of the built-in stage types with their short forms.
-/

namespace StageGraph

/-- A value that names no member of a family. -/
structure NotAMember where
  family : String
  value : Value

/-- The wording for an unknown name. -/
def NotAMember.message (fault : NotAMember) : String :=
  fault.value.quoted ++ " is not a valid " ++ fault.family

/-- The phase of a pipeline that a stage belongs to. -/
inductive Phase where
  | data
  | model
  | deployment
  deriving DecidableEq, Repr

namespace Phase

def all : List Phase := [.data, .model, .deployment]

/-- The category under which a phase is written. -/
def text : Phase → String
  | .data => "data"
  | .model => "model"
  | .deployment => "deployment"

/-- The place of a phase in the flow. -/
def rank : Phase → Nat
  | .data => 0
  | .model => 1
  | .deployment => 2

/-- The name of a phase in messages. -/
def title : Phase → String
  | .data => "data processing"
  | .model => "model development"
  | .deployment => "deployment"

/-- The phase of a category, written in any case. -/
def ofCategory? (category : String) : Option Phase :=
  all.find? fun phase => phase.text = Text.lower category

/-- The name that a phase bears as a declared constant. -/
def constant (phase : Phase) : Constant :=
  { family := "NodeCategory", name := Text.upper phase.text, text := phase.text }

/-- The phase with exactly this name. -/
def ofValue (value : Value) : Except NotAMember Phase :=
  match value.asText?.bind fun name => all.find? fun phase => phase.text = name with
  | some phase => .ok phase
  | none => .error { family := "NodeCategory", value := value }

end Phase

/-- How grave a finding is. -/
inductive Severity where
  | valid
  | warning
  | error
  deriving DecidableEq, Repr

namespace Severity

def text : Severity → String
  | .valid => "valid"
  | .warning => "warning"
  | .error => "error"

/-- The severity with exactly this name. -/
def ofValue (value : Value) : Except NotAMember Severity :=
  match value.asText?.bind fun name =>
      [Severity.valid, .warning, .error].find? fun severity => severity.text = name with
  | some severity => .ok severity
  | none => .error { family := "Severity", value := value }

end Severity

namespace TypeName

def ingest : String := "ingestNode"
def preprocess : String := "preprocessNode"
def exploration : String := "explorationNode"
def featureEngineering : String := "featureEngineeringNode"
def dataSplit : String := "dataSplitNode"
def modelSelection : String := "modelSelectionNode"
def training : String := "trainingNode"
def evaluation : String := "evaluationNode"
def deployment : String := "deploymentNode"

/-- The constants that name the built-in types. -/
def constants : List Constant := [
  ⟨"NodeType", "INGEST", ingest⟩, ⟨"NodeType", "PREPROCESS", preprocess⟩,
  ⟨"NodeType", "EXPLORATION", exploration⟩,
  ⟨"NodeType", "FEATURE_ENGINEERING", featureEngineering⟩,
  ⟨"NodeType", "DATA_SPLIT", dataSplit⟩, ⟨"NodeType", "MODEL_SELECTION", modelSelection⟩,
  ⟨"NodeType", "TRAINING", training⟩, ⟨"NodeType", "EVALUATION", evaluation⟩,
  ⟨"NodeType", "DEPLOYMENT", deployment⟩]

/-- The short forms of type names. -/
def aliases : List (String × String) := [
  ("dataIngest", ingest), ("preprocess", preprocess), ("exploration", exploration),
  ("featureEngineering", featureEngineering), ("dataSplit", dataSplit),
  ("modelSelection", modelSelection), ("training", training), ("evaluation", evaluation),
  ("deployment", deployment)]

/-- The full name of a type: a short form is spelled out, any other name stays. -/
def canonical (name : String) : String :=
  (aliases.lookup name).getD name

/-- The type name that a value stands for; what is empty or zero is the empty name. -/
def ofValue (value : Value) : String :=
  match value with
  | .constant c => if c.text = "" then "" else canonical c.text
  | value => if value.truthy then canonical value.display else ""

end TypeName

end StageGraph
