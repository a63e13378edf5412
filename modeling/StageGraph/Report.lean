import StageGraph.Connection
import StageGraph.Structure

/-!
# Reports on flows

A report gathers what is found about a flow's structure, about its stages by the
rules of their kinds, and about its links.  A flow is valid when nothing found
is an error.
-/

namespace StageGraph

/-- All judgements about a flow. -/
structure Report where
  errors : List Finding
  warnings : List Finding
  byLink : Ledger Finding
  byStage : Ledger (List Finding)

namespace Report

/-- Whether there is no error. -/
def isValid (report : Report) : Bool :=
  report.errors.isEmpty

/-- What the rules of its kind find about a stage. -/
def stageFindings (catalog : Catalog) (flow : Flow) (stage : Stage) : List Finding :=
  match catalog.lookup stage.type with
  | some kind => kind.findings stage.configuration flow
  | none => []

/-- Add what is found about a stage to what stands under its id. -/
def addFindings (catalog : Catalog) (flow : Flow) (found : Ledger (List Finding))
    (stage : Stage) : Ledger (List Finding) :=
  match stageFindings catalog flow stage with
  | [] => found
  | more => Ledger.put found stage.id (((Ledger.get? found stage.id).getD []) ++ more)

/-- The findings about stages, under their ids; ids without findings are left out. -/
def ruleFindings (catalog : Catalog) (flow : Flow) : Ledger (List Finding) :=
  flow.stages.foldl (addFindings catalog flow) []

def missingEnd : Finding :=
  .error "Invalid connection: node not found"
    (some "Remove the connection or restore the missing node")

/-- The judgement about a link, by the first stages that bear the ids of its ends. -/
def linkFinding (catalog : Catalog) (flow : Flow) (link : Link) : Finding :=
  match flow.stage? link.source, flow.stage? link.target with
  | some source, some target =>
    Connection.judge catalog source.type target.type
      (catalog.categoryOf source) (catalog.categoryOf target)
  | _, _ => missingEnd

/-- All findings in the order in which they are reported. -/
def allFindings (catalog : Catalog) (flow : Flow) : List Finding :=
  Structure.findings catalog flow ++
    (Ledger.values (ruleFindings catalog flow)).flatten ++
    flow.links.map (linkFinding catalog flow)

/-- A report on findings, with the judgements about links and stages. -/
def ofFindings (findings : List Finding) (byLink : Ledger Finding)
    (byStage : Ledger (List Finding)) : Report :=
  { errors := findings.filter Finding.isError
    warnings := findings.filter Finding.isWarning
    byLink := byLink
    byStage := byStage }

/-- The judgements about links, under their ids. -/
def linkFindings (catalog : Catalog) (flow : Flow) : Ledger Finding :=
  flow.links.foldl
    (fun known link => Ledger.put known link.id (linkFinding catalog flow link)) []

/-- The report on a flow. -/
def ofFlow (catalog : Catalog) (flow : Flow) : Report :=
  ofFindings (allFindings catalog flow) (linkFindings catalog flow) (ruleFindings catalog flow)

/-- What its kind puts in the way of judging a stage. -/
def ruleObstacle? (catalog : Catalog) (flow : Flow) (stage : Stage) : Option Obstacle :=
  (catalog.lookup stage.type).bind fun kind => kind.obstacle? stage.configuration flow

/-- What stands in the way of a report: counts first, then the stages in their order. -/
def obstacle? (catalog : Catalog) (flow : Flow) : Option Obstacle :=
  (Structure.obstacle? catalog flow).orElse fun _ =>
    flow.stages.findSome? (ruleObstacle? catalog flow)

/-- The report on a flow, unless something stands in its way. -/
def make (catalog : Catalog) (flow : Flow) : Except Obstacle Report :=
  Obstacle.pass (obstacle? catalog flow) (ofFlow catalog flow)

/-- A report as a record; the judgements about links and stages stand under their ids. -/
def toValue (report : Report) : Value :=
  .record [
    ("overall_valid", .bool report.isValid),
    ("errors", .list (report.errors.map Finding.toValue)),
    ("warnings", .list (report.warnings.map Finding.toValue)),
    ("per_edge_result", .record (report.byLink.map fun (id, finding) => (id, finding.toValue))),
    ("per_node_results",
      .record (report.byStage.map fun (id, found) => (id, .list (found.map Finding.toValue))))]

end Report

end StageGraph
