import StageGraph.Fault
import StageGraph.Notebook
import StageGraph.Report

/-!
# Compiling flows on request

What is offered for flows that are not stored: the kinds of a catalog, checked
configurations, reports, scripts and notebooks.  Stages that come without a
category are given that of their type first.
-/

namespace StageGraph.Compiler

/-- The kinds as records. -/
def catalogValues (catalog : Catalog) : List Value :=
  (Ledger.values catalog.kinds).map Kind.toValue

/-- The kind of a type. -/
def kind (catalog : Catalog) (type : Value) : Except Fault Kind :=
  match Gate.kind? catalog type with
  | some kind => .ok kind
  | none => .error (.typeNotFound type)

/-- A checked configuration, and the fields that it shows. -/
structure Configured where
  type : Value
  configuration : Config
  visible : List String

/-- A checked configuration as a record. -/
def Configured.toValue (configured : Configured) : Value :=
  .record [
    ("type", configured.type), ("configuration", .record configured.configuration),
    ("visible_fields", .list (configured.visible.map .text))]

/-- An update of a configuration, checked. -/
def configure (catalog : Catalog) (type current updates : Value) : Except Fault Configured := do
  let kind ← kind catalog type
  let passage ← (Gate.accept catalog kind.type current updates).mapError Fault.ofGate
  let visible ← (kind.visibleFields passage.complete).mapError fun _ => .unjudged .incomparable
  return {
    type := kind.type
    configuration := Gate.shown passage.kind passage.given passage.complete
    visible := visible.map Field.key }

/-- A flow whose stages bear the categories of their types where they had none. -/
def withCategories (catalog : Catalog) (flow : Flow) : Flow :=
  { flow with stages :=
      flow.stages.map fun stage => { stage with category := catalog.categoryOf stage } }

/-- The report on a flow. -/
def report (catalog : Catalog) (flow : Flow) : Except Fault Report :=
  (Report.make catalog (withCategories catalog flow)).mapError .obstacle

/-- The script of a flow. -/
def script (catalog : Catalog) (flow : Flow) (labels : Bool := true) : Except Fault Script :=
  (Script.make catalog (withCategories catalog flow) labels).mapError .obstacle

/-- The notebook of a flow. -/
def notebook (catalog : Catalog) (flow : Flow) (name : Option String) (time : Civil) :
    Except Fault Notebook :=
  (Notebook.make catalog (withCategories catalog flow) name time).mapError .obstacle

end StageGraph.Compiler
