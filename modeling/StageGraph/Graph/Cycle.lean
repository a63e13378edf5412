import StageGraph.Graph.Basic

/-!
# Cycles

A depth-first search over the graph of a flow.  The path from the starting id to
the current one is a stack of frames, each with the targets that are still to be
tried; a target that is itself on the path closes a cycle.  Every id is entered
at most once, so the ids not entered yet bound the search.
-/

namespace StageGraph.Graph

/-- An id on the path and its targets that are still to be tried. -/
structure Frame where
  id : String
  pending : List String

/-- How many steps the frames of a path take by themselves. -/
def pathWeight : List Frame → Nat
  | [] => 0
  | frame :: rest => frame.pending.length + 1 + pathWeight rest

/-- Follow a path to its end.  The result is `none` when a cycle closes, and otherwise the
ids that are still not entered. -/
def walk (next : String → List String) (path : List Frame) (fresh : List String) :
    Option (List String) :=
  match path with
  | [] => some fresh
  | { id := _, pending := [] } :: rest => walk next rest fresh
  | { id, pending := target :: others } :: rest =>
    if target = id || rest.any fun frame => frame.id = target then
      none
    else if target ∈ fresh then
      walk next ({ id := target, pending := next target } :: { id, pending := others } :: rest)
        (fresh.erase target)
    else
      walk next ({ id, pending := others } :: rest) fresh
termination_by (fresh.length, pathWeight path)
decreasing_by
  · apply Prod.Lex.right
    simp [pathWeight]
  · apply Prod.Lex.left
    rename_i entered
    have shorter := List.length_erase_of_mem entered
    have inhabited := List.length_pos_of_mem entered
    omega
  · apply Prod.Lex.right
    simp [pathWeight]

/-- Whether a cycle closes on a walk from one of the starting ids. -/
def closes (next : String → List String) : List String → List String → Bool
  | [], _ => false
  | start :: starts, fresh =>
    if start ∈ fresh then
      match walk next [{ id := start, pending := next start }] (fresh.erase start) with
      | none => true
      | some remaining => closes next starts remaining
    else
      closes next starts fresh

end StageGraph.Graph

namespace StageGraph.Flow

/-- Whether some stage can be reached from itself along inner links. -/
def hasCycle (flow : Flow) : Bool :=
  Graph.closes (targets flow.innerLinks) flow.ids flow.ids

end StageGraph.Flow
