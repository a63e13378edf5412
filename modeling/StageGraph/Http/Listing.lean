import StageGraph.Compiler

/-!
# Kinds in full

A listing of a kind for editors: every member of every field is there, null where
a field says nothing, and bounds are binary numbers.
-/

namespace StageGraph.Http

private def orNull (content : Value) : Value :=
  if content.truthy then content else .null

/-- A bound as a binary number. -/
def boundValue (bound : Value) : Value :=
  match bound.asNumber?.map Number.toBinary with
  | some (.ok x) => .number (.real x)
  | _ => bound

/-- A field with all its members. -/
def listField (field : Field) : Value :=
  .record [
    ("key", .text field.key), ("label", field.label), ("type", field.kind.name),
    ("default", field.initial), ("required", field.required),
    ("options", orNull (.list (field.options.map Field.optionValue))),
    ("min", boundValue field.minimum), ("max", boundValue field.maximum),
    ("step", boundValue field.step), ("description", orNull field.description),
    ("placeholder", orNull field.placeholder),
    ("dependsOn", (field.condition.map Field.conditionValue).getD .null)]

/-- A kind with all members of its fields. -/
def listKind (kind : Kind) : Value :=
  .record [
    ("type", kind.type), ("label", kind.label), ("category", .text kind.phase.text),
    ("description", .text kind.description), ("max_instances", kind.maxInstances),
    ("default_configuration", .record kind.defaults),
    ("fields", .list (kind.fields.map listField))]

end StageGraph.Http
