import StageGraph.Kind.DataSplit
import StageGraph.Kind.Deployment
import StageGraph.Kind.Evaluation
import StageGraph.Kind.Exploration
import StageGraph.Kind.FeatureEngineering
import StageGraph.Kind.Ingest
import StageGraph.Kind.ModelSelection
import StageGraph.Kind.Preprocess
import StageGraph.Kind.Training

/-!
# Catalogs of stage kinds

A catalog holds one kind per type.  It is built once from a list of kinds and
only read afterwards.
-/

namespace StageGraph

/-- A type that two kinds have in common. -/
structure DuplicateType where
  type : String
  deriving DecidableEq, Repr

/-- The wording for a type that two kinds have in common. -/
def DuplicateType.message (fault : DuplicateType) : String :=
  "Duplicate node type registration: " ++ fault.type

/-- Kinds under the full names of their types. -/
structure Catalog where
  kinds : Ledger Kind

namespace Catalog

/-- Enter a kind under its type. -/
def enter (catalog : Catalog) (kind : Kind) : Except DuplicateType Catalog :=
  let type := kind.typeName
  if Ledger.has catalog.kinds type then
    .error { type := type }
  else
    .ok { kinds := Ledger.put catalog.kinds type kind }

/-- The catalog of some kinds, in their order. -/
def ofKinds (kinds : List Kind) : Except DuplicateType Catalog :=
  kinds.foldlM enter { kinds := [] }

/-- The kinds of the built-in types. -/
def builtinKinds : List Kind := [
  Kind.ingest, Kind.preprocess, Kind.exploration, Kind.featureEngineering, Kind.dataSplit,
  Kind.modelSelection, Kind.training, Kind.evaluation, Kind.deployment]

/-- The catalog of the built-in types. -/
def builtin : Catalog :=
  { kinds := builtinKinds.map fun kind => (kind.typeName, kind) }

/-- The kind of a type, by either of its names. -/
def lookup (catalog : Catalog) (type : String) : Option Kind :=
  Ledger.get? catalog.kinds (TypeName.canonical type)

/-- Whether a type has a kind. -/
def knows (catalog : Catalog) (type : String) : Bool :=
  Ledger.has catalog.kinds (TypeName.canonical type)

/-- The full names of the types. -/
def types (catalog : Catalog) : List String :=
  Ledger.keys catalog.kinds

/-- The category of a type; empty when the type is unknown. -/
def categoryOfType (catalog : Catalog) (type : String) : String :=
  match catalog.lookup type with
  | some kind => kind.phase.text
  | none => ""

/-- A stage's own category, or else that of its type. -/
def categoryOf (catalog : Catalog) (stage : Stage) : String :=
  if stage.category = "" then catalog.categoryOfType stage.type else stage.category

/-- A stage's own label, or else that of its type, or else the type. -/
def labelOf (catalog : Catalog) (stage : Stage) : Value :=
  match stage.label? with
  | some label => .text label
  | none =>
    match catalog.lookup stage.type with
    | some kind => kind.label
    | none => .text stage.type

end Catalog

end StageGraph
