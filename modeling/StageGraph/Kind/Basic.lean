import StageGraph.Field
import StageGraph.Flow

/-!
# Stage kinds

A kind describes all stages of one type: its form fields, the rules its stages
must keep and the template that renders a stage's code from a complete
configuration.  `Kind.effective` completes a configuration: given values stay,
open keys take defaults, and an open dependent key takes the default of the
branch that the values select.  `Kind.complete` does the same where every condition
that it asks for can be tested, and fails elsewhere.  A kind may be declared with
parts that are of no use; they stand in the way only of what needs them.

Values are copied whatever their depth.  The interpreter's own stack is left out
here, although a service would run out of it on values that nest some hundred
levels deep; the readers and writers of JSON have their limits stated with them.
-/

namespace StageGraph

/-- Why a template or a rule has no answer. -/
inductive Failure where
  /-- A number is too large for the arithmetic that it is used in. -/
  | outOfRange
  /-- The template or rule gives up, or has no complete configuration to work on. -/
  | failed
  /-- The answer is of no use: a template gives something else than code, or a rule something
  that is neither true nor false. -/
  | notCode (value : Value)
  deriving Repr

/-- A part of a kind that stands in the way of compiling a flow. -/
inductive Obstacle where
  /-- A limit that the kind sets cannot be tested: the greatest count of its stages is no number,
  or a condition of a field looks up a list or a record. -/
  | limit
  /-- A rule that is violated has no proper severity or texts.  There are no flaws to name where
  it is the answer of the rule that is neither true nor false. -/
  | rule (flaws : List Issue)
  /-- A template gives something else than code. -/
  | template

/-- A result, unless something stands in its way. -/
def Obstacle.pass {α : Type} (obstacle : Option Obstacle) (result : α) : Except Obstacle α :=
  match obstacle with
  | some obstacle => .error obstacle
  | none => .ok result

/-- A check of one stage within its flow. -/
structure Rule where
  severity : Severity
  message : String
  suggestion : Option String := none
  /-- What is wrong with the severity and the texts that were declared; they are shown as they
  stand above only where there is nothing. -/
  flaws : List Issue := []
  violated : Config → Flow → Except Failure Bool

/-- The description of all stages of one type. -/
structure Kind where
  /-- The type as it was declared. -/
  type : Value
  label : Value
  phase : Phase
  description : String := ""
  /-- How many stages of the type a flow may have; null where that is not limited. -/
  maxInstances : Value := .null
  fields : List Field := []
  rules : List Rule := []
  template : Config → Except Failure String

namespace Kind

/-- The full name of the type. -/
def typeName (kind : Kind) : String :=
  TypeName.ofValue kind.type

/-- The configuration of a stage that was given none. -/
def defaults (kind : Kind) : Config :=
  Ledger.putAll [("label", kind.label)] (Field.defaults kind.fields)

/-- Give open dependent keys the default of the branch that is selected. -/
def fillBranches (fields : List Field) (given merged : Config) : Config :=
  fields.foldl
    (fun merged field =>
      if !Ledger.has given field.key && field.condition.isSome && field.isVisible merged then
        Ledger.put merged field.key field.initial
      else merged)
    merged

/-- A given configuration, completed.  Fields of which it cannot be told if they are shown count
as hidden here. -/
def effective (kind : Kind) (given : Config) : Config :=
  fillBranches kind.fields given (Ledger.putAll kind.defaults given)

/-- Give an open dependent key the default of a branch that is selected. -/
def takeBranch (given merged : Config) (field : Field) : Except NotAKey Config :=
  if Ledger.has given field.key then .ok merged
  else (field.shows merged).map fun visible =>
    if field.condition.isSome && visible then Ledger.put merged field.key field.initial
    else merged

/-- A given configuration, completed, if every condition that is asked for on the way can be
tested. -/
def complete (kind : Kind) (given : Config) : Except NotAKey Config := do
  let defaults ← Field.takeDefaults kind.fields
  let merged := Ledger.putAll (Ledger.putAll [("label", kind.label)] defaults) given
  kind.fields.foldlM (takeBranch given) merged

/-- The code of a stage with this configuration. -/
def render (kind : Kind) (given : Config) : Except Failure String :=
  match kind.complete given with
  | .error _ => .error .failed
  | .ok config => kind.template config

/-- The finding of one rule; a rule without an answer finds nothing. -/
def finding? (config : Config) (flow : Flow) (rule : Rule) : Option Finding :=
  match rule.violated config flow with
  | .ok true =>
    some { severity := rule.severity, message := rule.message, suggestion := rule.suggestion }
  | _ => none

/-- What the rules find about a stage with this configuration, where nothing breaks off their
judgement. -/
def findings (kind : Kind) (given : Config) (flow : Flow) : List Finding :=
  kind.rules.filterMap (finding? (kind.effective given) flow)

/-- How a rule breaks off the judgement of a stage: by an answer that is neither true nor false,
or by a finding that its severity or texts do not make. -/
def ruleObstacle? (config : Config) (flow : Flow) (rule : Rule) : Option Obstacle :=
  match rule.violated config flow with
  | .ok true => if rule.flaws.isEmpty then none else some (.rule rule.flaws)
  | .error (.notCode _) => some (.rule [])
  | _ => none

/-- What stands in the way of judging a stage: a configuration that cannot be completed, or the
first rule that breaks off the judgement. -/
def obstacle? (kind : Kind) (given : Config) (flow : Flow) : Option Obstacle :=
  match kind.complete given with
  | .error _ => some .limit
  | .ok config => kind.rules.findSome? (ruleObstacle? config flow)

/-- The fields that are visible under a complete configuration. -/
def shown (fields : List Field) (config : Config) : List Field :=
  fields.filter fun field => field.isVisible config

/-- The fields that a configuration makes visible, if that can be told of all of them. -/
def visibleFields (kind : Kind) (given : Config) : Except NotAKey (List Field) := do
  let config ← kind.complete given
  if kind.fields.all fun field => field.isTestable config then return shown kind.fields config
  else throw {}

/-- The messages about visible fields of a complete configuration that their values do not
fit. -/
def issuesOf (fields : List Field) (config : Config) : Except Unjudged (List String) :=
  (fields.mapM fun field : Field => field.judge config).map fun checks => checks.filterMap id

/-- What keeps a configuration from being accepted. -/
def issues (kind : Kind) (given : Config) : Except Unjudged (List String) :=
  match kind.complete given with
  | .error _ => .error .incomparable
  | .ok config => issuesOf kind.fields config

/-- A kind as a record. -/
def toValue (kind : Kind) : Value :=
  .record [
    ("type", kind.type), ("label", kind.label), ("category", .text kind.phase.text),
    ("description", .text kind.description), ("max_instances", kind.maxInstances),
    ("default_configuration", .record kind.defaults),
    ("fields", .list (kind.fields.map Field.toValue))]

/-- An option of a select field that is its own label. -/
def plain (name : String) : FieldOption :=
  FieldOption.make (.text name)

/-- An option of a select field with a label. -/
def labelled (name label : String) : FieldOption :=
  FieldOption.make (.text name) (.text label)

/-- The condition that a key holds a text. -/
def when (key name : String) : Option Condition :=
  some { key := .text key, expected := .plain (.text name) }

/-- A code block from its lines. -/
def code (lines : List String) : String :=
  Text.join "\n" lines

end Kind

end StageGraph
