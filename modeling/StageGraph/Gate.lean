import StageGraph.Catalog
import StageGraph.Entries

/-!
# The configuration gate

Templates read configurations leniently; the gate is where an update from a form
is checked before it is stored.  A visible field that the update does not touch
and whose value no longer fits, say after a choice it depends on has changed, is
set back to its default.  Whatever is still wrong then is about the update, unless
it cannot be put into words or told at all.
-/

namespace StageGraph

/-- A configuration that is not accepted, or a type that has none. -/
structure Rejection where
  type : Value
  issues : List String
  deriving Repr

/-- The wording of a rejection. -/
def Rejection.message (rejection : Rejection) : String :=
  "Invalid configuration for " ++ rejection.type.display ++ ": " ++ Text.join "; " rejection.issues

/-- Why the gate stays shut. -/
inductive GateError where
  | rejected (rejection : Rejection)
  /-- What is given for a configuration is none. -/
  | malformed (fault : EntriesFault)
  /-- A value or the visibility of a field cannot be judged. -/
  | unjudged (fault : Unjudged)
  deriving Repr

namespace Gate

/-- Set a visible field that is not touched and whose value does not fit back to its default. -/
def resetField (touched : String → Bool) (config : Config) (field : Field) :
    Except Unjudged Config :=
  if touched field.key then .ok config
  else (field.judge config).map fun issue =>
    if issue.isSome then Ledger.put config field.key field.initial else config

/-- Set visible fields that are not touched and whose values do not fit back to their
defaults, each judged under the configuration that the fields before it leave. -/
def resetStale (fields : List Field) (touched : String → Bool) (config : Config) :
    Except Unjudged Config :=
  fields.foldlM (resetField touched) config

/-- An update over a current configuration; `touched` tells the keys of the update. -/
def merge (kind : Kind) (touched : String → Bool) (current updates : Config) :
    Except Unjudged Config :=
  match kind.complete current with
  | .error _ => .error .incomparable
  | .ok complete => resetStale kind.fields touched (Ledger.putAll complete updates)

/-- The merged configuration, unless something is wrong with it. -/
def pass (kind : Kind) (touched : String → Bool) (current updates : Config) :
    Except GateError Config :=
  match merge kind touched current updates with
  | .error fault => .error (.unjudged fault)
  | .ok merged =>
    match kind.issues merged with
    | .error fault => .error (.unjudged fault)
    | .ok [] => .ok merged
    | .ok issues => .error (.rejected { type := kind.type, issues := issues })

/-- An update given as a record. -/
def update (kind : Kind) (current updates : Config) : Except GateError Config :=
  pass kind (Ledger.has updates) current updates

/-- The kind of a type that is spelled by a value. -/
def kind? (catalog : Catalog) (type : Value) : Option Kind :=
  catalog.lookup (TypeName.ofValue type)

/-- The issue with a type that the catalog does not know. -/
def unknownIssue (type : Value) : String :=
  "Unknown node type: " ++ type.display

/-- The rejection of a type that the catalog does not know. -/
def unknown (type : Value) : Rejection :=
  { type := .text (TypeName.ofValue type), issues := [unknownIssue type] }

/-- The default configuration of a type. -/
def defaults (catalog : Catalog) (type : Value) : Except Rejection Config :=
  match kind? catalog type with
  | some kind => .ok kind.defaults
  | none => .error (unknown type)

/-- The fields of a type that a configuration makes visible; an unknown type has none. -/
def visibleFields (catalog : Catalog) (type given : Value) : Except EntriesFault (List Field) :=
  match kind? catalog type with
  | some kind => do
    let entries ← Entries.ofOptional given
    (kind.visibleFields entries.named).mapError fun _ => .notEntries
  | none => .ok []

/-- The issues with a configuration of a type. -/
def issues (catalog : Catalog) (type given : Value) : Except GateError (List String) :=
  match kind? catalog type with
  | some kind =>
    match Entries.ofOptional given with
    | .ok entries => (kind.issues entries.named).mapError .unjudged
    | .error fault => .error (.malformed fault)
  | none => .ok [unknownIssue type]

/-- A configuration as it is shown that was completed from what is given. -/
def shown (kind : Kind) (given : Entries) (complete : Config) : Config :=
  given.shown (Ledger.keys kind.defaults) complete

/-- A given configuration, completed, as `Kind.effective` does it. -/
def effective (kind : Kind) (given : Entries) : Config :=
  shown kind given (kind.effective given.named)

/-- An update that has passed the gate. -/
structure Passage where
  kind : Kind
  given : Entries
  complete : Config

/-- Let an update of a configuration of a type pass. -/
def accept (catalog : Catalog) (type current updates : Value) : Except GateError Passage :=
  match kind? catalog type with
  | none => .error (.rejected (unknown type))
  | some kind =>
    match Entries.ofOptional current with
    | .error fault => .error (.malformed fault)
    | .ok stored =>
      match Entries.ofValue updates with
      | .error fault => .error (.malformed fault)
      | .ok entries =>
        (pass kind updates.offers stored.named entries.named).map fun complete =>
          { kind := kind, given := stored.putAll entries, complete := complete }

/-- An update of a configuration of a type. -/
def apply (catalog : Catalog) (type current updates : Value) : Except GateError Config :=
  (accept catalog type current updates).map fun passage =>
    shown passage.kind passage.given passage.complete

end Gate

end StageGraph
