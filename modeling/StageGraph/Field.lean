import StageGraph.Issue

/-!
# Fields of a configuration form

A stage type declares a list of fields.  A field may depend on another key of
the same configuration and is then visible only while that key holds an expected
value; several fields may share one key when their conditions exclude each
other.  What a field is shown with may be any value, and is shown as it was
declared.

The values that a condition expects may stand in a set.  A set only answers about
what can be looked up, so such a condition cannot be tested on a list or a record,
and neither can one whose own key is one.  A test that cannot be made fails, and
whatever asks for it fails with it.
-/

namespace StageGraph

/-- A value that a field offers, and its label. -/
structure FieldOption where
  value : Value
  label : Value

/-- An option whose label, when none is given, is the text of the value. -/
def FieldOption.make (value : Value) (label : Value := .null) : FieldOption :=
  { value := value
    label := if label.truthy then label else .text value.display }

/-- What a condition expects. -/
inductive Expected where
  /-- This value, or one of its items if it is a list. -/
  | plain (value : Value)
  /-- One of the members of a set. -/
  | set (members : List Value)

/-- A condition on another key. -/
structure Condition where
  key : Value
  expected : Expected

/-- A list or a record was to be looked up. -/
structure NotAKey where
  deriving DecidableEq, Repr

namespace Condition

/-- Whether it can be told if a configuration meets the condition. -/
def isTestable (condition : Condition) (config : Config) : Bool :=
  condition.key.isKey &&
    match condition.expected with
    | .plain _ => true
    | .set _ => (config.valueUnder condition.key).isKey

/-- Whether a configuration meets the condition; under a key that is no text it holds null.  A
condition that cannot be tested is not met. -/
def holds (condition : Condition) (config : Config) : Bool :=
  let current := config.valueUnder condition.key
  condition.isTestable config &&
    match condition.expected with
    | .plain (.list choices) => current.isAmong choices
    | .plain expected => current.agrees expected
    | .set members => current.isAmong members

end Condition

/-- What a field asks for. -/
inductive FieldKind where
  | text
  | textarea
  | select
  | number
  | boolean
  | multiselect
  | slider
  | tags
  /-- A kind of another name is checked like text. -/
  | other (name : Value)
  deriving Repr

namespace FieldKind

def name : FieldKind → Value
  | .text => "text"
  | .textarea => "textarea"
  | .select => "select"
  | .number => "number"
  | .boolean => "boolean"
  | .multiselect => "multiselect"
  | .slider => "slider"
  | .tags => "tags"
  | .other name => name

def ofName (name : Value) : FieldKind :=
  ([.text, .textarea, .select, .number, .boolean, .multiselect, .slider, .tags].find?
    fun kind : FieldKind => kind.name.agrees name).getD (.other name)

end FieldKind

/-- A field of a configuration form. -/
structure Field where
  key : String
  label : Value
  kind : FieldKind
  initial : Value := .null
  options : List FieldOption := []
  required : Value := .bool false
  minimum : Value := .null
  maximum : Value := .null
  step : Value := .null
  description : Value := ""
  placeholder : Value := ""
  condition : Option Condition := none

/-- Why a value does not fit a field. -/
inductive Misfit where
  | required
  | notBoolean
  | notNumber
  | below (minimum : Number)
  | above (maximum : Number)
  | notOffered (offered : List Value)
  | notList
  | unsupported (items : List Value)
  | notText
  deriving Repr

/-- The texts of some values in a row, if all of them have one. -/
def Misfit.listing (values : List Value) : Except OutOfRange String :=
  if values.all Value.hasText then .ok (Text.join ", " (values.map Value.display))
  else .error {}

/-- The wording of a misfit, as it follows a label.  There is none for a bound that is too
large for a binary number, nor for a value without a text. -/
def Misfit.wording : Misfit → Except OutOfRange String
  | .required => .ok "is required"
  | .notBoolean => .ok "must be true or false"
  | .notNumber => .ok "must be a number"
  | .below minimum => minimum.briefText.map ("must be at least " ++ ·)
  | .above maximum => maximum.briefText.map ("must be at most " ++ ·)
  | .notOffered offered => (listing offered).map ("must be one of: " ++ ·)
  | .notList => .ok "must be a list"
  | .unsupported items => (listing items).map ("has unsupported values: " ++ ·)
  | .notText => .ok "must be text"

/-- The message about a misfit of a field with this label. -/
def Misfit.message (label : String) (misfit : Misfit) : Except OutOfRange String :=
  misfit.wording.map fun wording => label ++ " " ++ wording

/-- Why a value is not judged. -/
inductive Unjudged where
  /-- A number that the message names is too large to be written: a bound that is missed, or an
  integer among the values. -/
  | outOfRange
  /-- A bound is no number, or a condition cannot be tested. -/
  | incomparable
  deriving DecidableEq, Repr

namespace Field

/-- Whether it can be told if the field is shown for a configuration. -/
def isTestable (field : Field) (config : Config) : Bool :=
  field.condition.all fun condition => condition.isTestable config

/-- Whether the field is shown for a configuration; it is not where that cannot be told. -/
def isVisible (field : Field) (config : Config) : Bool :=
  match field.condition with
  | none => true
  | some condition => condition.holds config

/-- Whether the field is shown for a configuration, if that can be told. -/
def shows (field : Field) (config : Config) : Except NotAKey Bool :=
  if field.isTestable config then .ok (field.isVisible config) else .error {}

/-- The values of the options. -/
def offered (field : Field) : List Value :=
  field.options.map FieldOption.value

/-- A bound, unless there is none. -/
def bound? (bound : Value) : Except Unjudged (Option Number) :=
  match bound with
  | .null => .ok none
  | bound =>
    match bound.asNumber? with
    | some n => .ok (some n)
    | none => .error .incomparable

/-- Whether a number lies outside the field's bounds, the lower one first. -/
def outside? (field : Field) (n : Number) : Except Unjudged (Option Misfit) := do
  match (← bound? field.minimum).filter n.less with
  | some minimum => return some (.below minimum)
  | none => return ((← bound? field.maximum).filter fun maximum => maximum.less n).map .above

/-- Why a value does not fit the field, if it does not. -/
def misfit? (field : Field) (value : Value) : Except Unjudged (Option Misfit) :=
  if value.isUnset then
    .ok (if field.required.truthy then some .required else none)
  else
    match field.kind with
    | .boolean =>
      match value with
      | .bool _ => .ok none
      | _ => .ok (some .notBoolean)
    | .number | .slider =>
      match value with
      | .number n => field.outside? n
      | _ => .ok (some .notNumber)
    | .select =>
      .ok (if field.options.isEmpty || value.isAmong field.offered then none
        else some (.notOffered field.offered))
    | .multiselect =>
      match value with
      | .list items =>
        let unknown := items.filter fun item => !item.isAmong field.offered
        .ok (if unknown.isEmpty then none else some (.unsupported unknown))
      | _ => .ok (some .notList)
    | .tags =>
      match value with
      | .list _ => .ok none
      | _ => .ok (some .notList)
    | .text | .textarea | .other _ =>
      match value with
      | .text _ | .constant _ => .ok none
      | _ => .ok (some .notText)

/-- The message about a value that does not fit the field. -/
def check (field : Field) (value : Value) : Except Unjudged (Option String) := do
  match ← field.misfit? value with
  | none => return none
  | some misfit =>
    let message ← (misfit.message field.label.display).mapError fun _ => .outOfRange
    return some message

/-- The message about what a configuration holds for the field, if the field is shown and the
value does not fit. -/
def judge (field : Field) (config : Config) : Except Unjudged (Option String) :=
  match field.shows config with
  | .error _ => .error .incomparable
  | .ok false => .ok none
  | .ok true => field.check (config.value field.key)

/-- Take the default of every field that is visible so far and whose key is open. -/
def fillVisible (fields : List Field) (known : Config) : Config :=
  fields.foldl
    (fun known field =>
      if Ledger.has known field.key then known
      else if field.isVisible known then Ledger.put known field.key field.initial
      else known)
    known

/-- Take the default of every field whose key is still open. -/
def fillOpen (fields : List Field) (known : Config) : Config :=
  fields.foldl (fun known field => Ledger.putNew known field.key field.initial) known

/-- A default for every key, from the field that is visible under the defaults before it
where there is one.  A field of which that cannot be told counts as hidden here;
`takeDefaults` tells where there is one. -/
def defaults (fields : List Field) : Config :=
  fillOpen fields (fillVisible fields [])

/-- Take the default of a field if its key is open and it is visible so far. -/
def takeVisible (known : Config) (field : Field) : Except NotAKey Config :=
  if Ledger.has known field.key then .ok known
  else (field.shows known).map fun visible =>
    if visible then Ledger.put known field.key field.initial else known

/-- The defaults, if every condition that is asked for on the way can be tested. -/
def takeDefaults (fields : List Field) : Except NotAKey Config :=
  (fields.foldlM takeVisible []).map (fillOpen fields)

/-- An option as a record. -/
def optionValue (option : FieldOption) : Value :=
  .record [("value", option.value), ("label", option.label)]

/-- A condition as a record; a set is shown as a list. -/
def conditionValue (condition : Condition) : Value :=
  let expected := match condition.expected with
    | .plain value => value
    | .set members => .list members
  .record [("key", condition.key), ("value", expected)]

/-- A member of a record when there is a value for it. -/
def unlessNull (name : String) : Value → List (String × Value)
  | .null => []
  | value => [(name, value)]

private def ifTruthy (name : String) (value : Value) : List (String × Value) :=
  if value.truthy then [(name, value)] else []

/-- A field as a record, with the members that say something. -/
def toValue (field : Field) : Value :=
  .record <|
    [("key", .text field.key), ("label", field.label), ("type", field.kind.name),
      ("default", field.initial), ("required", field.required)] ++
    ifTruthy "options" (.list (field.options.map optionValue)) ++
    unlessNull "min" field.minimum ++ unlessNull "max" field.maximum ++
    unlessNull "step" field.step ++ ifTruthy "description" field.description ++
    ifTruthy "placeholder" field.placeholder ++
    unlessNull "dependsOn" ((field.condition.map conditionValue).getD .null)

end Field

end StageGraph
