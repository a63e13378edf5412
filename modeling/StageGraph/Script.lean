import StageGraph.Block
import StageGraph.Catalog
import StageGraph.Graph.Order

/-!
# Scripts

The code of a flow as one script: the import lines of all stages first, each
once, then a banner, then the bodies in execution order.  A stage is left out
when its type is unknown, when its template has no answer, and when nothing but
imports and blanks remains of its code.
-/

namespace StageGraph

/-- The code of a flow, as a whole and in parts. -/
structure Script where
  source : String
  imports : List String := []
  bodies : Ledger String := []
  deriving Repr

namespace Script

/-- The source for a flow without stages. -/
def placeholder : String :=
  "# Add nodes to your pipeline to generate code"

def banner : String :=
  "# ML Pipeline Generated Code\n# Generated from pipeline visualizer"

/-- The name under which a script is saved. -/
def filename : String :=
  "pipeline.py"

/-- The comment line above a stage's body. -/
def labelLine (label : String) : String :=
  "# ── " ++ label ++ " ──"

/-- The code of a stage, when its type is known and its template answers. -/
def block? (catalog : Catalog) (stage : Stage) : Option Block :=
  match catalog.lookup stage.type with
  | none => none
  | some kind =>
    match kind.render stage.configuration with
    | .error _ => none
    | .ok text => some (Block.ofText text)

/-- The stages with code, in execution order. -/
def blocks (catalog : Catalog) (flow : Flow) : List (Stage × Block) :=
  flow.order.filterMap fun stage => (block? catalog stage).map fun block => (stage, block)

/-- The stages with a body. -/
def bodied (blocks : List (Stage × Block)) : List (Stage × Block) :=
  blocks.filter fun entry => !entry.2.body.isEmpty

/-- The import lines of all stages, each once. -/
def importsOf (blocks : List (Stage × Block)) : List String :=
  distinct (blocks.flatMap fun entry => entry.2.importTexts)

/-- The bodies under the ids of their stages. -/
def bodiesOf (blocks : List (Stage × Block)) : Ledger String :=
  Ledger.putAll [] ((bodied blocks).map fun entry => (entry.1.id, entry.2.bodyText))

/-- A body with the comment above it, where comments are wanted. -/
def sectionText (catalog : Catalog) (labels : Bool) (entry : Stage × Block) : String :=
  if labels then
    labelLine (catalog.labelOf entry.1).display ++ "\n" ++ entry.2.bodyText
  else
    entry.2.bodyText

/-- The whole text from imports and sections. -/
def assemble (imports sections : List String) : String :=
  let head := if imports.isEmpty then [] else [Text.join "\n" imports]
  Text.join "\n\n" (head ++ banner :: sections) ++ "\n"

/-- The script of a flow; `labels` asks for a comment above every body. -/
def ofFlow (catalog : Catalog) (flow : Flow) (labels : Bool := true) : Script :=
  if flow.stages.isEmpty then
    { source := placeholder }
  else
    let blocks := blocks catalog flow
    { source := assemble (importsOf blocks)
        ((bodied blocks).map (sectionText catalog labels))
      imports := importsOf blocks
      bodies := bodiesOf blocks }

/-- What stands in the way of a script: a template that gives something else than code.  What
is empty or zero counts as no code at all. -/
def obstacle? (catalog : Catalog) (flow : Flow) : Option Obstacle :=
  if flow.order.any (givesNoCode catalog) then some .template else none
where
  givesNoCode (catalog : Catalog) (stage : Stage) : Bool :=
    match catalog.lookup stage.type with
    | none => false
    | some kind =>
      match kind.render stage.configuration with
      | .error (.notCode value) => value.truthy
      | _ => false

/-- The script of a flow, unless something stands in its way. -/
def make (catalog : Catalog) (flow : Flow) (labels : Bool := true) : Except Obstacle Script :=
  Obstacle.pass (obstacle? catalog flow) (ofFlow catalog flow labels)

/-- A script as a record; the bodies stand under the ids of their stages. -/
def toValue (script : Script) : Value :=
  .record [
    ("full_source", .text script.source),
    ("import_lines", .list (script.imports.map .text)),
    ("per_node_source", .record (script.bodies.map fun (id, body) => (id, .text body)))]

end Script

end StageGraph
