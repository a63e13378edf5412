import StageGraph.Issue
import StageGraph.Phase

/-!
# Stages, links and flows

A flow is a list of placed stages and a list of links between them.  Reading a
stage normalises its type and category once, so everything later compares plain
names.
-/

namespace StageGraph

/-- A placed stage of a pipeline. -/
structure Stage where
  id : String
  type : String
  category : String := ""
  configuration : Config := []

namespace Stage

/-- The category a value spells: lower case, empty for what is empty or zero. -/
def readCategory (value : Value) : String :=
  match value with
  | .constant c => Text.lower c.text
  | value => if value.truthy then Text.lower value.display else ""

/-- The names under which a stage's configuration may stand, by precedence. -/
def configurationNames : List String := ["configuration", "config", "data"]

/-- The configuration under the first of its names that is there. -/
def readConfiguration (entries : Config) : Checked Config :=
  match configurationNames.find? (Ledger.has entries) with
  | some name => Checked.withDefault entries name [] Checked.record
  | none => .ok []

/-- A stage from given data. -/
def read (origin : Origin) (value : Value) : Checked Stage := do
  let entries ← Checked.model origin "Node" value
  let id := Checked.required entries "id" Checked.text
  let type := Checked.required entries "type" fun value => .ok (TypeName.ofValue value)
  let category := Checked.withDefault entries "category" "" fun value => .ok (readCategory value)
  let (id, type, category, configuration) ←
    Checked.both id (Checked.both type (Checked.both category (readConfiguration entries)))
  return { id := id, type := type, category := category, configuration := configuration }

/-- The label that the configuration gives, when it is not empty. -/
def label? (stage : Stage) : Option String :=
  let value := Config.value stage.configuration "label"
  if value.truthy then some value.display else none

/-- Whether the stage can be written. -/
def isWritable (stage : Stage) : Bool :=
  Config.isWritable stage.configuration

/-- A stage as a record. -/
def toValue (stage : Stage) : Value :=
  .record [
    ("id", .text stage.id), ("type", .text stage.type), ("category", .text stage.category),
    ("configuration", .record stage.configuration)]

end Stage

/-- A link from one stage to another, by their ids. -/
structure Link where
  id : String
  source : String
  target : String
  deriving DecidableEq, Repr

namespace Link

/-- The id of a link that was given none. -/
def defaultId (source target : String) : String :=
  "e-" ++ source ++ "-" ++ target

/-- A link; an empty id is replaced by the default one. -/
def make (id source target : String) : Link :=
  { id := if id = "" then defaultId source target else id, source := source, target := target }

/-- A link from given data. -/
def read (origin : Origin) (value : Value) : Checked Link := do
  let entries ← Checked.model origin "Edge" value
  let id := Checked.withDefault entries "id" "" Checked.text
  let source := Checked.required entries "source" Checked.text
  let target := Checked.required entries "target" Checked.text
  let (id, source, target) ← Checked.both id (Checked.both source target)
  return make id source target

/-- A link as a record. -/
def toValue (link : Link) : Value :=
  .record [("id", .text link.id), ("source", .text link.source), ("target", .text link.target)]

end Link

/-- Stages and the links between them. -/
structure Flow where
  stages : List Stage := []
  links : List Link := []

namespace Flow

/-- The stages among the members of a record. -/
def readStages (origin : Origin) (entries : Config) : Checked (List Stage) :=
  Checked.withDefault entries "nodes" [] (Checked.list (Stage.read origin))

/-- The links among the members of a record. -/
def readLinks (origin : Origin) (entries : Config) : Checked (List Link) :=
  Checked.withDefault entries "edges" [] (Checked.list (Link.read origin))

/-- A flow from the members of a record. -/
def readMembers (origin : Origin) (entries : Config) : Checked Flow := do
  let (stages, links) ← Checked.both (readStages origin entries) (readLinks origin entries)
  return { stages := stages, links := links }

/-- A flow from given data. -/
def read (origin : Origin) (value : Value) : Checked Flow := do
  readMembers origin (← Checked.model origin "Pipeline" value)

/-- The first stage with an id. -/
def stage? (flow : Flow) (id : String) : Option Stage :=
  flow.stages.find? fun stage => stage.id = id

/-- The first stage under every id, in order. -/
def stageMap (flow : Flow) : Ledger Stage :=
  flow.stages.foldl (fun known stage => Ledger.putNew known stage.id stage) []

/-- The stages of a type. -/
def ofType (flow : Flow) (type : String) : List Stage :=
  flow.stages.filter fun stage => stage.type = TypeName.canonical type

/-- Whether all stages can be written. -/
def isWritable (flow : Flow) : Bool :=
  flow.stages.all Stage.isWritable

/-- Whether some stage has a type. -/
def hasType (flow : Flow) (type : String) : Bool :=
  flow.stages.any fun stage => stage.type = TypeName.canonical type

end Flow

/-- A judgement about a flow or a part of it. -/
structure Finding where
  severity : Severity
  message : String
  suggestion : Option String := none
  deriving DecidableEq, Repr

namespace Finding

def valid (message : String) : Finding :=
  { severity := .valid, message := message }

def warning (message : String) (suggestion : Option String := none) : Finding :=
  { severity := .warning, message := message, suggestion := suggestion }

def error (message : String) (suggestion : Option String := none) : Finding :=
  { severity := .error, message := message, suggestion := suggestion }

def isError (finding : Finding) : Bool :=
  finding.severity = .error

def isWarning (finding : Finding) : Bool :=
  finding.severity = .warning

/-- A finding as a record. -/
def toValue (finding : Finding) : Value :=
  .record [
    ("severity", .text finding.severity.text), ("message", .text finding.message),
    ("suggestion", (finding.suggestion.map Value.text).getD .null)]

end Finding

end StageGraph
