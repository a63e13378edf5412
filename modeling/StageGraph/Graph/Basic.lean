import StageGraph.Distinct
import StageGraph.Flow

/-!
# Flows as graphs

The vertices are the ids of the stages, the arrows are the links whose two ends
are such ids.  Links that lead to or from unknown ids stay in the flow and are
left out of the graph.
-/

namespace StageGraph.Flow

/-- The ids of the stages, each once. -/
def ids (flow : Flow) : List String :=
  distinct (flow.stages.map Stage.id)

/-- Whether both ends of a link are among some ids. -/
def joins (ids : List String) (link : Link) : Bool :=
  ids.contains link.source && ids.contains link.target

/-- The links between stages of the flow. -/
def innerLinks (flow : Flow) : List Link :=
  flow.links.filter (joins flow.ids)

/-- The ends of the links that lead from an id, in the order of the links. -/
def targets (links : List Link) (id : String) : List String :=
  (links.filter fun link => link.source = id).map Link.target

/-- The ids that a stage's links lead to. -/
def successors (flow : Flow) (id : String) : List String :=
  targets flow.innerLinks id

/-- The ids that some links lead to, under every id that they may lead from. -/
def targetMap (links : List Link) (ids : List String) : Ledger (List String) :=
  ids.map fun id => (id, targets links id)

/-- The ids that the links of every stage lead to, under the stage's id. -/
def successorMap (flow : Flow) : Ledger (List String) :=
  targetMap flow.innerLinks flow.ids

/-- Both ends of every link, sorted. -/
def connected (flow : Flow) : List String :=
  (distinct (flow.links.flatMap fun link => [link.source, link.target])).mergeSort
    fun left right => left ≤ right

/-- Whether a link begins or ends at an id. -/
def touches (id : String) (link : Link) : Bool :=
  link.source = id || link.target = id

/-- A flow without a stage and without the links that touch it. -/
def remove (flow : Flow) (id : String) : Flow :=
  { stages := flow.stages.filter fun stage => stage.id ≠ id
    links := flow.links.filter fun link => !touches id link }

end StageGraph.Flow
