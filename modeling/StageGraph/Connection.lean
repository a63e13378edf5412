import StageGraph.Catalog

/-!
# Connections between neighbours

A connection is judged by the phases of its ends first: going back or skipping a
phase is doubtful whatever the types are.  Otherwise the type of the source says
which types may follow it.  A judgement never keeps a link from being drawn.
-/

namespace StageGraph.Connection

/-- The types that may follow a type, and a suggestion for those that are doubtful. -/
structure Allowance where
  allowed : List String
  doubtful : List (String × String) := []

/-- What may follow each built-in type. -/
def allowances : List (String × Allowance) := [
  (TypeName.ingest,
    { allowed := [TypeName.preprocess, TypeName.exploration, TypeName.featureEngineering,
        TypeName.dataSplit]
      doubtful :=
        [(TypeName.dataSplit, "Consider adding preprocessing before splitting data")] }),
  (TypeName.preprocess,
    { allowed := [TypeName.exploration, TypeName.featureEngineering, TypeName.dataSplit,
        TypeName.preprocess] }),
  (TypeName.exploration,
    { allowed := [TypeName.preprocess, TypeName.featureEngineering, TypeName.dataSplit]
      doubtful := [(TypeName.dataSplit, "Consider feature engineering before splitting")] }),
  (TypeName.featureEngineering,
    { allowed := [TypeName.dataSplit, TypeName.featureEngineering] }),
  (TypeName.dataSplit,
    { allowed := [TypeName.modelSelection, TypeName.training]
      doubtful := [(TypeName.training, "Consider selecting a model before training")] }),
  (TypeName.modelSelection,
    { allowed := [TypeName.training, TypeName.modelSelection] }),
  (TypeName.training,
    { allowed := [TypeName.evaluation, TypeName.training] }),
  (TypeName.evaluation,
    { allowed := [TypeName.deployment, TypeName.training, TypeName.evaluation]
      doubtful := [(TypeName.deployment,
        "Ensure model performance is satisfactory before deployment")] }),
  (TypeName.deployment,
    { allowed := [TypeName.deployment] })]

/-- What may follow a type; nothing is said about types that are not built in. -/
def allowance? (type : String) : Option Allowance :=
  allowances.lookup type

def backwards : Finding :=
  .warning "Connecting backwards in the pipeline flow"
    (some "Standard flow is: Data → Model → Deployment")

/-- A connection that leaves out the phase after its source. -/
def skipping (source : Phase) : Finding :=
  let skipped := (Phase.all.find? fun phase => phase.rank = source.rank + 1).map Phase.title
  .warning ("Skipping " ++ skipped.getD "intermediate" ++ " phase")
    (some "Consider adding intermediate steps for better results")

/-- The judgement by phases alone, when they forbid judging by types. -/
def judgePhases? (source target : Phase) : Option Finding :=
  if target.rank < source.rank then some backwards
  else if source.rank + 1 < target.rank then some (skipping source)
  else none

/-- The judgement by the types alone. -/
def judgeTypes (catalog : Catalog) (source target : String) : Finding :=
  match allowance? source with
  | none => .valid "Connection allowed"
  | some allowance =>
    if !catalog.knows target then
      .valid "Connection allowed"
    else if !allowance.allowed.contains target then
      .error (source ++ " cannot connect to " ++ target)
        (some (source ++ " can connect to: " ++ Text.join ", " allowance.allowed))
    else
      match allowance.doubtful.lookup target with
      | some suggestion => .warning "This connection may be suboptimal" (some suggestion)
      | none => .valid "Connection is valid"

/-- The phase of an end: of its own category, or of its type's when it has none. -/
def phase? (catalog : Catalog) (type category : String) : Option Phase :=
  Phase.ofCategory? (if category = "" then catalog.categoryOfType type else category)

/-- The judgement about a connection; an empty category is one that is not given. -/
def judge (catalog : Catalog) (source target : String)
    (sourceCategory : String := "") (targetCategory : String := "") : Finding :=
  let source := TypeName.canonical source
  let target := TypeName.canonical target
  let byPhases :=
    match phase? catalog source sourceCategory, phase? catalog target targetCategory with
    | some sourcePhase, some targetPhase => judgePhases? sourcePhase targetPhase
    | _, _ => none
  byPhases.getD (judgeTypes catalog source target)

end StageGraph.Connection
