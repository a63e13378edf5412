/-!
# Insertion-ordered maps

A ledger keeps its entries in the order in which their keys first came.  Writing
a key that is already there changes its value and leaves its place.
-/

namespace StageGraph

/-- Keys with their values, each key once when built with `put`. -/
abbrev Ledger (α : Type) := List (String × α)

namespace Ledger

variable {α : Type}

/-- The value under a key. -/
def get? (ledger : Ledger α) (key : String) : Option α :=
  match ledger with
  | [] => none
  | (other, value) :: rest => if other = key then some value else get? rest key

/-- Whether a key has a value. -/
def has (ledger : Ledger α) (key : String) : Bool :=
  (get? ledger key).isSome

/-- The keys in order. -/
def keys (ledger : Ledger α) : List String :=
  ledger.map Prod.fst

/-- The values in order. -/
def values (ledger : Ledger α) : List α :=
  ledger.map Prod.snd

/-- Write a value: in place when the key is there, at the end otherwise. -/
def put (ledger : Ledger α) (key : String) (value : α) : Ledger α :=
  match ledger with
  | [] => [(key, value)]
  | (other, old) :: rest =>
    if other = key then (key, value) :: rest else (other, old) :: put rest key value

/-- Write entries one after the other. -/
def putAll (ledger : Ledger α) (entries : List (String × α)) : Ledger α :=
  entries.foldl (fun known entry => put known entry.1 entry.2) ledger

/-- Keep the value that is there, or write one. -/
def putNew (ledger : Ledger α) (key : String) (value : α) : Ledger α :=
  if has ledger key then ledger else put ledger key value

/-- Remove a key. -/
def erase (ledger : Ledger α) (key : String) : Ledger α :=
  ledger.filter fun entry => entry.1 ≠ key

end Ledger

end StageGraph
