import StageGraph.Catalog
import StageGraph.Entries

/-!
# Declared kinds

A kind may be declared by a record: its texts, its fields, its rules and the code
that it gives for every stage.  Most members may have any value; what such a value
is good for shows only when the kind is used.
-/

namespace StageGraph.Declared

/-- Why a record declares nothing. -/
inductive Misdeclared where
  /-- The members are not those that are needed, or a member is of no use at all. -/
  | unfit
  /-- A member that is looked up is missing. -/
  | missing
  /-- A condition is neither left out nor a condition. -/
  | notCondition
  | unknownName (fault : NotAMember)
  | unknownType
  | duplicate (fault : DuplicateType)

/-- The members of a record. -/
def members : Value → Except Misdeclared Config
  | .record entries => .ok entries
  | _ => .error .unfit

private def memberOr (entries : Config) (name : String) (default : Value) : Value :=
  (Ledger.get? entries name).getD default

private def needed (entries : Config) (name : String) : Except Misdeclared Value :=
  match Ledger.get? entries name with
  | some value => .ok value
  | none => .error .missing

/-- The parts of a member; one that is left out has none. -/
private def parts (entries : Config) (name : String) : Except Misdeclared (List Value) :=
  match (memberOr entries name (.list [])).parts? with
  | some parts => .ok parts
  | none => .error .unfit

/-- The option that a value and perhaps a label declare. -/
def option (parts : Value) : Except Misdeclared FieldOption :=
  match parts.parts? with
  | some [value] => .ok (FieldOption.make value)
  | some [value, label] => .ok (FieldOption.make value label)
  | _ => .error .unfit

/-- The options of a field; what is empty or zero declares none. -/
def options (value : Value) : Except Misdeclared (List FieldOption) :=
  if value.truthy then
    match value.parts? with
    | some parts => parts.mapM option
    | none => .error .unfit
  else
    .ok []

/-- The condition of a field; what is empty or zero declares none. -/
def condition (value : Value) : Except Misdeclared (Option Condition) :=
  match value with
  | .record [] => .ok none
  | .record entries => do
    return some { key := ← needed entries "key", expected := .plain (← needed entries "expected") }
  | value => if value.truthy then .error .unfit else .ok none

/-- The members that a field needs. -/
def neededMembers : List String :=
  ["key", "label", "kind"]

/-- The members that a field may have. -/
def knownMembers : List String :=
  neededMembers ++ [
    "default", "options", "required", "minimum", "maximum", "step", "description", "placeholder",
    "depends_on"]

/-- The field that a record declares. -/
def field (value : Value) : Except Misdeclared Field := do
  let entries ← members value
  let options ← options (entries.value "options")
  let condition ← condition (entries.value "depends_on")
  if !(Ledger.keys entries).all knownMembers.contains then throw .unfit
  if !neededMembers.all (Ledger.has entries) then throw .unfit
  match condition, entries.value "depends_on" with
  | none, .null | some _, _ => pure ()
  | none, _ => throw .notCondition
  return {
    key := (entries.value "key").display
    label := entries.value "label"
    kind := FieldKind.ofName (entries.value "kind")
    initial := entries.value "default"
    options := options
    required := memberOr entries "required" (.bool false)
    minimum := entries.value "minimum"
    maximum := entries.value "maximum"
    step := entries.value "step"
    description := memberOr entries "description" ""
    placeholder := memberOr entries "placeholder" ""
    condition := condition }

/-- Whether a field has a key, and a key in its condition, that can be looked up. -/
def hasKeys (key : Value) (field : Field) : Bool :=
  key.isKey && field.condition.all fun condition => condition.key.isKey

/-- The field that a record declares in a kind, where its keys are looked up. -/
def kindField (value : Value) : Except Misdeclared Field := do
  let field ← field value
  let entries ← members value
  if hasKeys (entries.value "key") field then return field else throw .unfit

/-- When a rule is violated, as a record says it: never with an answer, where the flow has a stage
of a type, or where a key has a value. -/
def violated (value : Value) (config : Config) (flow : Flow) : Except Failure Bool :=
  match value with
  | .record entries =>
    if (Config.value entries "raises").truthy then .error .failed
    else
      match Ledger.get? entries "has_type", Ledger.get? entries "key",
          Ledger.get? entries "equals" with
      | some type, _, _ => .ok (flow.hasType (TypeName.ofValue type))
      | none, some key, some expected =>
        if key.isKey then .ok ((config.valueUnder key).agrees expected) else .error .failed
      | _, _, _ => .error .failed
  | _ => .error .failed

/-- What is wrong with a member that should be a text. -/
def textFlaws (name : String) (value : Value) : List Issue :=
  match Checked.under (.name name) (Checked.text value) with
  | .ok _ => []
  | .error issues => issues

/-- The rule that a record declares. -/
def rule (value : Value) : Except Misdeclared Rule := do
  let entries ← members value
  let severity ← (Severity.ofValue (entries.value "severity")).mapError .unknownName
  let message := entries.value "message"
  let suggestion := entries.value "suggestion"
  return {
    severity := severity
    message := (message.asText?).getD ""
    suggestion := suggestion.asText?
    flaws := textFlaws "message" message ++
      match suggestion with
      | .null => []
      | suggestion => textFlaws "suggestion" suggestion
    violated := violated (entries.value "when") }

/-- What a kind gives for every stage: the declared code, whatever that is. -/
def template (code : Value) (fails : Bool) (_ : Config) : Except Failure String :=
  if fails then .error .failed
  else
    match code.asText? with
    | some text => .ok text
    | none => .error (.notCode code)

/-- The kind that a record declares. -/
def kind (value : Value) : Except Misdeclared Kind := do
  let entries ← members value
  let type ← needed entries "type"
  let phase ← (Phase.ofValue (memberOr entries "category" "data")).mapError .unknownName
  let fields ← (← parts entries "fields").mapM kindField
  let rules ← (← parts entries "rules").mapM rule
  return {
    type := type
    label := memberOr entries "label" ""
    phase := phase
    maxInstances := entries.value "max_instances"
    fields := fields
    rules := rules
    template := template (memberOr entries "template" "") (entries.value "fails").truthy }

/-- A kind that is taken over from the built-in ones. -/
def builtin (name : Value) : Except Misdeclared Kind :=
  match Catalog.builtin.lookup (TypeName.ofValue name) with
  | some kind => .ok kind
  | none => .error .unknownType

/-- The catalog that a record declares: built-in kinds first.  Where there is none, the catalog of
the built-in kinds stands. -/
def catalog (value : Value) : Except Misdeclared Catalog :=
  match value with
  | .null => .ok Catalog.builtin
  | .record entries => do
    let taken ← (← parts entries "builtin").mapM builtin
    let declared ← (← parts entries "custom").mapM kind
    (Catalog.ofKinds (taken ++ declared)).mapError .duplicate
  | _ => .ok { kinds := [] }

end StageGraph.Declared
