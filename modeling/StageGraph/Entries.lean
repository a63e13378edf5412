import StageGraph.Value

/-!
# Configurations given as values

A configuration may be given as a record or as a list of pairs.  The keys of
pairs may be other values than texts; they name no field, and are kept beside the
texts until the configuration is shown.  Whatever is empty or zero stands for the
empty configuration where a configuration is optional.
-/

namespace StageGraph

/-- Why a value is not a configuration. -/
inductive EntriesFault where
  /-- The value, or an element of it, has no parts or a key that cannot be one, or what is given
  under a key is asked for in a set. -/
  | notEntries
  /-- The element at this place has so many parts instead of two. -/
  | wrongLength (place length : Nat)
  deriving DecidableEq, Repr

/-- The wording of a fault. -/
def EntriesFault.message : EntriesFault → String
  | .notEntries => "cannot convert to a dictionary"
  | .wrongLength place length =>
    "dictionary update sequence element #" ++ toString place ++ " has length " ++
      toString length ++ "; 2 is required"

namespace Value

/-- The parts of a value: the items of a list, the keys of a record, the characters of a text. -/
def parts? : Value → Option (List Value)
  | .list items => some items
  | .record entries => some (entries.map fun entry => .text entry.1)
  | .text content => some (content.toList.map fun c => .text (String.singleton c))
  | .constant c => some (c.text.toList.map fun c => .text (String.singleton c))
  | _ => none

/-- Write a value under a key: in place when an equal key is there, at the end otherwise. -/
def putUnder (pairs : List (Value × Value)) (key value : Value) : List (Value × Value) :=
  match pairs with
  | [] => [(key, value)]
  | (other, old) :: rest =>
    if other.agrees key then (other, value) :: rest else (other, old) :: putUnder rest key value

end Value

/-- Values under keys, no two of which are equal. -/
structure Entries where
  pairs : List (Value × Value) := []

namespace Entries

/-- The entries of a configuration. -/
def ofConfig (config : Config) : Entries :=
  { pairs := config.map fun (name, value) => (.text name, value) }

/-- Entries with others written over them; equal keys stay as the first of them is. -/
def putAll (entries others : Entries) : Entries :=
  { pairs := others.pairs.foldl (fun known pair => Value.putUnder known pair.1 pair.2)
      entries.pairs }

/-- The entries under texts. -/
def named (entries : Entries) : Config :=
  entries.pairs.filterMap fun (key, value) => key.asText?.map fun name => (name, value)

/-- A configuration that these entries have changed, as it is shown.  It had the `initial` keys
before; the others bear the texts of the keys that were given, and of different keys with one
text the last counts. -/
def shown (entries : Entries) (initial : List String) (config : Config) : Config :=
  let added := entries.pairs.filter fun (key, _) => !key.asText?.any initial.contains
  Ledger.putAll [] <|
    (initial.map fun name => (name, config.value name)) ++
    added.map fun (key, value) =>
      (key.display, (key.asText?.map fun name => config.value name).getD value)

/-- Keys and values from elements of two parts each; `place` counts the elements before. -/
def pairsOf (place : Nat) : List Value → Except EntriesFault (List (Value × Value))
  | [] => .ok []
  | element :: rest =>
    match element.parts? with
    | none => .error .notEntries
    | some [key, value] =>
      if key.isKey then (pairsOf (place + 1) rest).map fun pairs => (key, value) :: pairs
      else .error .notEntries
    | some parts => .error (.wrongLength place parts.length)

/-- The entries that a value spells out. -/
def ofValue : Value → Except EntriesFault Entries
  | .record entries => .ok (ofConfig entries)
  | value =>
    match value.parts? with
    | none => .error .notEntries
    | some elements => (pairsOf 0 elements).map fun pairs => ({} : Entries).putAll ⟨pairs⟩

/-- The entries of an optional value. -/
def ofOptional (value : Value) : Except EntriesFault Entries :=
  if value.truthy then ofValue value else .ok {}

end Entries

end StageGraph
