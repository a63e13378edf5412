import StageGraph.Catalog
import StageGraph.Graph.Cycle

/-!
# Structure of a flow

Findings about a flow as a whole, in a fixed order: the phases it needs, stages
without links, cycles, and types with too many stages.
-/

namespace StageGraph.Structure

/-- Whether some stage belongs to a phase. -/
def hasPhase (catalog : Catalog) (flow : Flow) (phase : Phase) : Bool :=
  flow.stages.any fun stage => catalog.categoryOf stage = phase.text

/-- The stages that no link touches. -/
def loose (flow : Flow) : List Stage :=
  flow.stages.filter fun stage => !(flow.links.any (Flow.touches stage.id))

/-- A finding under a condition. -/
def when (condition : Bool) (finding : Finding) : List Finding :=
  if condition then [finding] else []

@[simp] theorem mem_when {condition : Bool} {finding reported : Finding} :
    reported ∈ when condition finding ↔ condition = true ∧ reported = finding := by
  cases condition <;> simp [when]

/-- The finding about a type with more stages than its kind admits.  A limit may be any number,
and is named as it was declared. -/
def surplus? (kind : Kind) (count : Nat) : Option Finding := do
  let limit ← kind.maxInstances.asNumber?
  let type := kind.type.display
  let label := kind.label.display
  if limit.less (.integer count) then
    let message :=
      if limit.agrees (.integer 1) then
        "Only one " ++ label ++ " node (" ++ type ++ ") is allowed per pipeline"
      else
        "At most " ++ kind.maxInstances.display ++ " " ++ label ++ " nodes (" ++ type ++
          ") are allowed per pipeline"
    some (.error message
      (some ("Remove " ++ (limit.below count).text ++ " of the " ++ toString count ++
        " " ++ label ++ " nodes")))
  else
    none

/-- The types of the stages, each once. -/
def usedTypes (flow : Flow) : List String :=
  distinct (flow.stages.map Stage.type)

/-- How many stages have a type. -/
def countOf (flow : Flow) (type : String) : Nat :=
  (flow.stages.filter fun stage => stage.type = type).length

/-- A finding for every type with too many stages. -/
def cardinality (catalog : Catalog) (flow : Flow) : List Finding :=
  (usedTypes flow).filterMap fun type =>
    (catalog.lookup type).bind fun kind => surplus? kind (countOf flow type)

/-- Whether the stages of a type can be counted against the limit of its kind. -/
def hasSoundLimit (kind : Kind) : Bool :=
  match kind.maxInstances with
  | .null => true
  | limit => limit.asNumber?.isSome

/-- What stands in the way of judging the structure: a limit that is no number. -/
def obstacle? (catalog : Catalog) (flow : Flow) : Option Obstacle :=
  if (usedTypes flow).all fun type => (catalog.lookup type).all hasSoundLimit then none
  else some .limit

/-- All findings about the structure of a flow. -/
def findings (catalog : Catalog) (flow : Flow) : List Finding :=
  when (!hasPhase catalog flow .data)
    (.error "Pipeline must include at least one data processing node"
      (some "Add a Data Ingestion node to start your pipeline")) ++
  when (!hasPhase catalog flow .model)
    (.warning "Pipeline has no model development nodes"
      (some "Add Model Selection and Training nodes")) ++
  when (decide (1 < flow.stages.length) && !(loose flow).isEmpty)
    (.warning (toString (loose flow).length ++ " disconnected node(s)")
      (some "Connect all nodes to create a complete pipeline")) ++
  when flow.hasCycle
    (.error "Pipeline contains circular dependencies"
      (some "Remove cycles to create a valid directed acyclic graph")) ++
  cardinality catalog flow

end StageGraph.Structure
