import StageGraph.Number.Spelling
import StageGraph.Value

/-!
# Issues of given data

Data from outside is checked against the shape of what it should become.  Every
part is checked, so a reading ends in a value or in the list of all issues, each
with its path and the offending value.
-/

namespace StageGraph

/-- What is wrong with a part of the data. -/
inductive Problem where
  | missing
  | notText
  | notRecord
  | notList
  /-- Neither a record nor an instance of the named model. -/
  | notModel (name : String)
  /-- Nothing that attributes could be taken from, in the body of a request. -/
  | notAttributes
  | notBoolean
  | unreadableBoolean
  | notInteger
  | unreadableInteger
  | longInteger
  | fractionalInteger
  | notFinite
  | notOneOf (choices : List String)
  | rejected (reason : String)
  | notMoment
  | unreadableMoment (reason : String)
  | unreachableMoment (reason : String)
  | malformed (reason : String)
  deriving DecidableEq, Repr

namespace Problem

/-- The short name of a problem. -/
def type : Problem → String
  | .missing => "missing"
  | .notText => "string_type"
  | .notRecord => "dict_type"
  | .notList => "list_type"
  | .notModel _ => "model_type"
  | .notAttributes => "model_attributes_type"
  | .notBoolean => "bool_type"
  | .unreadableBoolean => "bool_parsing"
  | .notInteger => "int_type"
  | .unreadableInteger => "int_parsing"
  | .longInteger => "int_parsing_size"
  | .fractionalInteger => "int_from_float"
  | .notFinite => "finite_number"
  | .notOneOf _ => "literal_error"
  | .rejected _ => "value_error"
  | .notMoment => "datetime_type"
  | .unreadableMoment _ => "datetime_from_date_parsing"
  | .unreachableMoment _ => "datetime_parsing"
  | .malformed _ => "json_invalid"

private def alternatives : List String → String
  | [] => ""
  | [choice] => choice
  | [choice, last] => choice ++ " or " ++ last
  | choice :: rest => choice ++ ", " ++ alternatives rest

/-- The wording of a problem. -/
def message : Problem → String
  | .missing => "Field required"
  | .notText => "Input should be a valid string"
  | .notRecord => "Input should be a valid dictionary"
  | .notList => "Input should be a valid list"
  | .notModel name => "Input should be a valid dictionary or instance of " ++ name
  | .notAttributes => "Input should be a valid dictionary or object to extract fields from"
  | .notBoolean => "Input should be a valid boolean"
  | .unreadableBoolean => "Input should be a valid boolean, unable to interpret input"
  | .notInteger => "Input should be a valid integer"
  | .unreadableInteger =>
    "Input should be a valid integer, unable to parse string as an integer"
  | .longInteger => "Unable to parse input string as an integer, exceeded maximum size"
  | .fractionalInteger =>
    "Input should be a valid integer, got a number with a fractional part"
  | .notFinite => "Input should be a finite number"
  | .notOneOf choices =>
    "Input should be " ++ alternatives (choices.map Text.Quoted.quote)
  | .rejected reason => "Value error, " ++ reason
  | .notMoment => "Input should be a valid datetime"
  | .unreadableMoment reason => "Input should be a valid datetime or date, " ++ reason
  | .unreachableMoment reason => "Input should be a valid datetime, " ++ reason
  | .malformed _ => "JSON decode error"

end Problem

/-- One step into nested data. -/
inductive Place where
  | name (name : String)
  | index (index : Nat)
  deriving DecidableEq, Repr

/-- A step as a text. -/
def Place.text : Place → String
  | .name label => label
  | .index number => toString number

/-- A problem, where it is, and the value it is about. -/
structure Issue where
  problem : Problem
  path : List Place
  input : Value

/-- Data that passed, or everything that is wrong with it. -/
abbrev Checked (α : Type) := Except (List Issue) α

/-- Where data comes from: given directly, or in the body of a request. -/
inductive Origin where
  | given
  | request
  deriving DecidableEq, Repr

/-- What is reported for something that is no record but should become a model. -/
def Origin.notModel (origin : Origin) (name : String) : Problem :=
  match origin with
  | .given => .notModel name
  | .request => .notAttributes

namespace Checked

variable {α β : Type}

/-- A single issue with a value as a whole. -/
def fail (problem : Problem) (input : Value) : Checked α :=
  .error [{ problem := problem, path := [], input := input }]

/-- Put a reading one step deeper. -/
def under (place : Place) (checked : Checked α) : Checked α :=
  match checked with
  | .ok value => .ok value
  | .error issues => .error (issues.map fun issue => { issue with path := place :: issue.path })

/-- Both readings, or the issues of both in order. -/
def both (left : Checked α) (right : Checked β) : Checked (α × β) :=
  match left, right with
  | .ok a, .ok b => .ok (a, b)
  | .error issues, .ok _ => .error issues
  | .ok _, .error issues => .error issues
  | .error first, .error second => .error (first ++ second)

/-- Read every item of a list, from a place on. -/
def each (read : Value → Checked α) : Nat → List Value → Checked (List α)
  | _, [] => .ok []
  | place, value :: rest =>
    (both (under (.index place) (read value)) (each read (place + 1) rest)).map
      fun (item, items) => item :: items

/-- A list of things that are read alike. -/
def list (read : Value → Checked α) : Value → Checked (List α)
  | .list items => each read 0 items
  | value => fail .notList value

/-- A text. -/
def text (value : Value) : Checked String :=
  match value.asText? with
  | some content => .ok content
  | none => fail .notText value

/-- A record. -/
def record : Value → Checked Config
  | .record entries => .ok entries
  | value => fail .notRecord value

/-- Null, or something else. -/
def optional (read : Value → Checked α) : Value → Checked (Option α)
  | .null => .ok none
  | value => (read value).map some

/-- A member that has to be there. -/
def required (entries : Config) (name : String) (read : Value → Checked α) : Checked α :=
  under (.name name) <|
    match Ledger.get? entries name with
    | some value => read value
    | none => fail .missing (.record entries)

/-- A member that takes a default when it is not there. -/
def withDefault (entries : Config) (name : String) (default : α) (read : Value → Checked α) :
    Checked α :=
  match Ledger.get? entries name with
  | some value => under (.name name) (read value)
  | none => .ok default

/-- Supply one more part of a whole that is made from several; the issues of all parts are
kept. -/
def supply (part : Checked α) (whole : Checked (α → β)) : Checked β :=
  (both whole part).map fun (whole, part) => whole part

/-- The entries of a record that should become a model. -/
def model (origin : Origin) (name : String) : Value → Checked Config
  | .record entries => .ok entries
  | value => fail (origin.notModel name) value

end Checked

/-- The spellings of truth and falsehood, without regard to case. -/
private def booleanWords : List (String × Bool) := [
  ("0", false), ("off", false), ("f", false), ("false", false), ("n", false), ("no", false),
  ("1", true), ("on", true), ("t", true), ("true", true), ("y", true), ("yes", true)]

/-- A truth value, also spelled as a word or as zero or one. -/
def Checked.boolean (value : Value) : Checked Bool :=
  match value with
  | .bool truth => .ok truth
  | .number n =>
    match n.word? with
    | none => Checked.fail .notBoolean value
    | some 0 => .ok false
    | some 1 => .ok true
    | some _ => Checked.fail .unreadableBoolean value
  | value =>
    match value.asText? with
    | none => Checked.fail .notBoolean value
    | some content =>
      match booleanWords.lookup (content.map Char.toLower) with
      | some truth => .ok truth
      | none => Checked.fail .unreadableBoolean value

/-- An integer, also as a number without a fraction or spelled in digits. -/
def Checked.integer (value : Value) : Checked Int :=
  match value with
  | .bool truth => .ok (if truth then 1 else 0)
  | .number (.integer n) => .ok n
  | .number (.real x) =>
    match x.ratio? with
    | none => Checked.fail .notFinite value
    | some (numerator, denominator) =>
      if numerator % denominator ≠ 0 then Checked.fail .fractionalInteger value
      else
        match (Number.real x).word? with
        | some n => .ok n
        | none => Checked.fail .longInteger value
  | value =>
    match value.asText? with
    | none => Checked.fail .notInteger value
    | some content =>
      match Spelling.integer? content with
      | some n => .ok n
      | none => Checked.fail .unreadableInteger value

/-- One of some texts. -/
def Checked.oneOf (choices : List String) (value : Value) : Checked String :=
  match value.asText? with
  | some content =>
    if choices.contains content then .ok content else Checked.fail (.notOneOf choices) value
  | none => Checked.fail (.notOneOf choices) value

end StageGraph
