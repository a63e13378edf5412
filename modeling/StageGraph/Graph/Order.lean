import StageGraph.Graph.Basic

/-!
# Execution order

Stages are emitted from a queue that starts with the stages nothing leads to.
Emitting a stage takes its outgoing links away, and every target that no other
link leads to joins the queue.  When a cycle keeps some stage from ever joining,
or when ids repeat, the order of the flow itself stays.
-/

namespace StageGraph.Graph

/-- The targets of links that are taken away together and that nothing else leads to, each
where its last link stands. -/
def released (waiting : List Link) : List Link → List String
  | [] => []
  | link :: rest =>
    if (rest ++ waiting).any fun other => other.target = link.target then
      released waiting rest
    else
      link.target :: released waiting rest

theorem length_released_le (waiting taken : List Link) :
    (released waiting taken).length ≤ taken.length := by
  induction taken with
  | nil => simp [released]
  | cons link rest induction =>
    simp only [released, List.length_cons]
    split
    · omega
    · simpa using induction

/-- The links that lead from an id. -/
def leaving (id : String) (links : List Link) : List Link :=
  links.filter fun link => link.source = id

/-- The links that lead from other ids. -/
def staying (id : String) (links : List Link) : List Link :=
  links.filter fun link => link.source ≠ id

theorem length_leaving_add_length_staying (id : String) (links : List Link) :
    (leaving id links).length + (staying id links).length = links.length := by
  induction links with
  | nil => rfl
  | cons link rest induction =>
    by_cases same : link.source = id <;> simp_all [leaving, staying] <;> omega

/-- Emit the ids of a queue and of all that is released by them. -/
def drain (queue : List String) (links : List Link) : List String :=
  match queue with
  | [] => []
  | id :: rest =>
    id :: drain (rest ++ released (staying id links) (leaving id links)) (staying id links)
termination_by queue.length + links.length
decreasing_by
  have bound := length_released_le (staying id links) (leaving id links)
  have parts := length_leaving_add_length_staying id links
  simp only [List.length_append, List.length_cons]
  omega

end StageGraph.Graph

namespace StageGraph.Flow

/-- The ids that none of some links leads to. -/
def unreached (links : List Link) (ids : List String) : List String :=
  ids.filter fun id => !(links.any fun link => link.target = id)

/-- The ids that no inner link leads to. -/
def sources (flow : Flow) : List String :=
  unreached flow.innerLinks flow.ids

/-- The ids that can be emitted after all that leads to them. -/
def emitted (flow : Flow) : List String :=
  Graph.drain flow.sources flow.innerLinks

/-- The stages in the order of their ids, when there are as many ids as stages, or in the
flow's own order. -/
def arranged (flow : Flow) (ids : List String) : List Stage :=
  if ids.length = flow.stages.length then ids.filterMap flow.stage? else flow.stages

/-- The stages so that each follows what leads to it, or in the flow's own order where that
cannot be. -/
def order (flow : Flow) : List Stage :=
  flow.arranged flow.emitted

end StageGraph.Flow
